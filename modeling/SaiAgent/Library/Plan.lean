import SaiAgent.Library.Oracle

/-!
# Fail-stop plans

A **plan** is the sequence of calls an operation intends to make, each call chosen from the answers
before it. `Plan.exec` runs a plan against an oracle and stops at the first answer that is not `ok`.
The parameter `again` describes an implementation that, on a bad answer, asks once more before it
gives up: `again c r` is the call that is repeated, `none` where the implementation stops at once.
Fail-stop execution is `again := never`.

* `failStop_exec_iff`: the trace of a run is fail-stop exactly when no call was repeated;
* `isRepeated_iff_refusedAt`: a call is repeated exactly when the *fail-stop* execution of the same
  plan is refused at a call the implementation repeats — so the question is settled by the plan and
  the oracle alone;
* `Follows`: the simulation between a procedure and a plan, with one rule per program step.
-/

namespace Effects

variable {S C R σ ε α β A : Type}

/-! ### Fail-stop traces -/

section Trace

variable (ok : R → Bool)

/-- A trace is **fail-stop** when nothing follows a bad answer. -/
def FailStop (t : List (C × R)) : Prop :=
  ∀ t₁ e t₂, t = t₁ ++ e :: t₂ → ok e.2 = false → t₂ = []

variable {ok}

theorem failStop_nil : FailStop ok ([] : List (C × R)) := by
  intro t₁ e t₂ h
  simp at h

theorem failStop_singleton (e : C × R) : FailStop ok [e] := by
  intro t₁ e' t₂ h _
  cases t₁ with
  | nil => simp_all
  | cons a t₁ => simp at h

/-- After a good answer the rest of the trace decides. -/
theorem failStop_cons_of_ok {e : C × R} {t : List (C × R)} (he : ok e.2 = true) :
    FailStop ok (e :: t) ↔ FailStop ok t := by
  constructor
  · intro h t₁ e' t₂ ht
    exact h (e :: t₁) e' t₂ (by rw [ht]; rfl)
  · intro h t₁ e' t₂ ht hbad
    cases t₁ with
    | nil =>
      simp only [List.nil_append, List.cons.injEq] at ht
      rw [← ht.1, he] at hbad
      cases hbad
    | cons a t₁ =>
      simp only [List.cons_append, List.cons.injEq] at ht
      exact h t₁ e' t₂ ht.2 hbad

/-- Anything asked after a bad answer breaks the discipline. -/
theorem not_failStop_cons_cons {e e' : C × R} {t : List (C × R)} (he : ok e.2 = false) :
    ¬FailStop ok (e :: e' :: t) := by
  intro h
  have := h [] e (e' :: t) rfl he
  cases this

/-- Every answer of the trace is good. -/
def AllOk (ok : R → Bool) (t : List (C × R)) : Prop := ∀ e ∈ t, ok e.2 = true

end Trace

/-! ### Plans -/

/-- The calls an operation intends to make, each chosen from the answers before it. -/
inductive Plan (C R A : Type) where
  /-- The operation ends here, with this verdict. -/
  | done (a : A)
  /-- Make this call and continue with its answer. -/
  | call (c : C) (next : R → Plan C R A)

namespace Plan

/-- How the execution of a plan ended. -/
inductive Outcome (C R A : Type) where
  /-- Every call was answered well and the plan reached its end. -/
  | finished (a : A)
  /-- This call was refused and the execution stopped. -/
  | refused (c : C) (r : R)
  /-- A call was refused and asked once more; this is the repetition and its answer. -/
  | repeated (c : C) (r : R)

/-- What an execution leaves. -/
structure Run (C R A σ : Type) where
  /-- The calls made by the execution, oldest first. -/
  trace : List (C × R)
  /-- The environment's private state at the end. -/
  env : σ
  /-- How it ended. -/
  outcome : Outcome C R A

/-- Put a call in front of an execution. -/
def Run.cons (e : C × R) (x : Run C R A σ) : Run C R A σ := { x with trace := e :: x.trace }

/-- Put calls in front of an execution. -/
def Run.prepend (t : List (C × R)) (x : Run C R A σ) : Run C R A σ :=
  { x with trace := t ++ x.trace }

/-- The implementation that repeats nothing. -/
def never : C → R → Option C := fun _ _ ↦ none

variable (ok : R → Bool) (again : C → R → Option C) (E : Oracle C R σ)

/-- Execute a plan: stop at the first bad answer, repeating the call once where `again` says so. -/
def exec : Plan C R A → σ → Run C R A σ
  | .done a, s => ⟨[], s, .finished a⟩
  | .call c next, s =>
    if ok (E c s).1 then
      ((next (E c s).1).exec (E c s).2).cons (c, (E c s).1)
    else
      match again c (E c s).1 with
      | none => ⟨[(c, (E c s).1)], (E c s).2, .refused c (E c s).1⟩
      | some c' =>
        ⟨[(c, (E c s).1), (c', (E c' (E c s).2).1)], (E c' (E c s).2).2,
          .repeated c' (E c' (E c s).2).1⟩

variable {ok again E}

@[simp] theorem exec_done (a : A) (s : σ) :
    (done a : Plan C R A).exec ok again E s = ⟨[], s, .finished a⟩ := rfl

variable {c : C} {next : R → Plan C R A} {s : σ}

theorem exec_call_ok (h : ok (E c s).1 = true) :
    (call c next).exec ok again E s =
      ((next (E c s).1).exec ok again E (E c s).2).cons (c, (E c s).1) := by
  rw [exec, if_pos h]

theorem exec_call_refused (h : ok (E c s).1 = false) (ha : again c (E c s).1 = none) :
    (call c next).exec ok again E s =
      ⟨[(c, (E c s).1)], (E c s).2, .refused c (E c s).1⟩ := by
  rw [exec, if_neg (by simp [h]), ha]

theorem exec_call_repeated {c' : C} (h : ok (E c s).1 = false)
    (ha : again c (E c s).1 = some c') :
    (call c next).exec ok again E s =
      ⟨[(c, (E c s).1), (c', (E c' (E c s).2).1)], (E c' (E c s).2).2,
        .repeated c' (E c' (E c s).2).1⟩ := by
  rw [exec, if_neg (by simp [h]), ha]

@[simp] theorem Run.cons_outcome (e : C × R) (x : Run C R A σ) : (x.cons e).outcome = x.outcome :=
  rfl

@[simp] theorem Run.cons_trace (e : C × R) (x : Run C R A σ) :
    (x.cons e).trace = e :: x.trace := rfl

@[simp] theorem Run.cons_env (e : C × R) (x : Run C R A σ) : (x.cons e).env = x.env := rfl

@[simp] theorem Run.prepend_outcome (t : List (C × R)) (x : Run C R A σ) :
    (x.prepend t).outcome = x.outcome := rfl

@[simp] theorem Run.prepend_trace (t : List (C × R)) (x : Run C R A σ) :
    (x.prepend t).trace = t ++ x.trace := rfl

@[simp] theorem Run.prepend_env (t : List (C × R)) (x : Run C R A σ) : (x.prepend t).env = x.env :=
  rfl

/-- Calls made one after the other, then one more. -/
theorem Run.prepend_cons (e : C × R) (t : List (C × R)) (x : Run C R A σ) :
    (x.cons e).prepend t = x.prepend (t ++ [e]) := by
  simp [Run.cons, Run.prepend]

theorem Run.prepend_prepend (t t' : List (C × R)) (x : Run C R A σ) :
    (x.prepend t').prepend t = x.prepend (t ++ t') := by
  simp [Run.prepend]

/-- The execution asked a refused call once more. -/
def Outcome.IsRepeated : Outcome C R A → Prop
  | .repeated _ _ => True
  | _ => False

/-- The execution was refused at a call that `again` would repeat. -/
def Outcome.RefusedAt (again : C → R → Option C) : Outcome C R A → Prop
  | .refused c r => (again c r).isSome = true
  | _ => False

/-- **A run is fail-stop exactly when it repeated nothing.** -/
theorem failStop_exec_iff (p : Plan C R A) (s : σ) :
    FailStop ok (p.exec ok again E s).trace ↔ ¬(p.exec ok again E s).outcome.IsRepeated := by
  induction p generalizing s with
  | done a => simp [failStop_nil, Outcome.IsRepeated]
  | call c next ih =>
    cases h : ok (E c s).1 with
    | true =>
      rw [exec_call_ok h, Run.cons_trace, Run.cons_outcome, failStop_cons_of_ok h]
      exact ih _ _
    | false =>
      cases ha : again c (E c s).1 with
      | none =>
        rw [exec_call_refused h ha]
        simp [failStop_singleton, Outcome.IsRepeated]
      | some c' =>
        rw [exec_call_repeated h ha]
        simp [not_failStop_cons_cons (e := (c, (E c s).1)) h, Outcome.IsRepeated]

/-- **Repetition is decided by the fail-stop execution**: a run repeats a call exactly when
the plan, executed fail-stop on the same oracle, is refused at a call that `again` repeats. -/
theorem isRepeated_iff_refusedAt (p : Plan C R A) (s : σ) :
    (p.exec ok again E s).outcome.IsRepeated ↔
      (p.exec ok never E s).outcome.RefusedAt again := by
  induction p generalizing s with
  | done a => simp [Outcome.IsRepeated, Outcome.RefusedAt]
  | call c next ih =>
    cases h : ok (E c s).1 with
    | true =>
      rw [exec_call_ok h, exec_call_ok h, Run.cons_outcome, Run.cons_outcome]
      exact ih _ _
    | false =>
      rw [show (call c next).exec ok never E s = _ from exec_call_refused h rfl]
      cases ha : again c (E c s).1 with
      | none =>
        rw [exec_call_refused h ha]
        simp [Outcome.IsRepeated, Outcome.RefusedAt, ha]
      | some c' =>
        rw [exec_call_repeated h ha]
        simp [Outcome.IsRepeated, Outcome.RefusedAt, ha]

/-- A plan that begins with a call finishes when the call is answered well and the rest finishes. -/
theorem exec_call_eq_finished_iff {a : A} :
    ((call c next).exec ok again E s).outcome = .finished a ↔
      ok (E c s).1 = true ∧
        ((next (E c s).1).exec ok again E (E c s).2).outcome = .finished a := by
  cases h : ok (E c s).1 with
  | true => simp [exec_call_ok h]
  | false =>
    cases ha : again c (E c s).1 with
    | none => simp [exec_call_refused h ha]
    | some c' => simp [exec_call_repeated h ha]

/-- A plan that begins with a call makes it. -/
theorem exec_call_trace_ne_nil : ((call c next).exec ok again E s).trace ≠ [] := by
  unfold exec
  split
  · exact List.cons_ne_nil _ _
  · split <;> exact List.cons_ne_nil _ _

/-- A run that finished got only good answers. -/
theorem allOk_of_finished {p : Plan C R A} {s : σ} {a : A}
    (h : (p.exec ok again E s).outcome = .finished a) :
    AllOk ok (p.exec ok again E s).trace := by
  induction p generalizing s with
  | done b => simp [AllOk]
  | call c next ih =>
    obtain ⟨hc, hrest⟩ := exec_call_eq_finished_iff.1 h
    rw [exec_call_ok hc, Run.cons_trace]
    intro e he
    obtain rfl | he := List.mem_cons.1 he
    · exact hc
    · exact ih _ hrest e he

/-- What finishes does so whatever would have been repeated: no call was refused. -/
theorem exec_eq_of_finished {p : Plan C R A} {s : σ} {a : A}
    (h : (p.exec ok again E s).outcome = .finished a) (again' : C → R → Option C) :
    p.exec ok again' E s = p.exec ok again E s := by
  induction p generalizing s with
  | done b => rfl
  | call c next ih =>
    obtain ⟨hc, hrest⟩ := exec_call_eq_finished_iff.1 h
    rw [exec_call_ok hc, exec_call_ok hc, ih _ hrest]

/-- Every way through the plan to the verdict `v` ends with a call of the kind `P`. -/
def EndsWith (P : C → Prop) (v : A) : Plan C R A → Prop
  | .done a => a ≠ v
  | .call c next => ∀ r, (∃ a, next r = .done a ∧ P c) ∨ (next r).EndsWith P v

/-- A run that reached the verdict made the call its plan ends with last. -/
theorem EndsWith.exists_last {P : C → Prop} {v : A} {p : Plan C R A} (hp : p.EndsWith P v) {s : σ}
    (h : (p.exec ok again E s).outcome = .finished v) :
    ∃ t e, (p.exec ok again E s).trace = t ++ [e] ∧ P e.1 := by
  induction p generalizing s with
  | done a =>
    cases h
    exact absurd rfl hp
  | call c next ih =>
    obtain ⟨hc, hrest⟩ := exec_call_eq_finished_iff.1 h
    rw [exec_call_ok hc, Run.cons_trace]
    obtain ⟨a, hnext, hP⟩ | hends := hp (E c s).1
    · rw [hnext]
      exact ⟨[], _, rfl, hP⟩
    · obtain ⟨t, e, ht, hP⟩ := ih _ hends hrest
      exact ⟨_ :: t, e, by rw [ht]; rfl, hP⟩

/-- Every call the plan may make satisfies `P`. -/
def Makes (P : C → Prop) : Plan C R A → Prop
  | .done _ => True
  | .call c next => P c ∧ ∀ r, (next r).Makes P

/-- Weaken what is said of the calls. -/
theorem Makes.mono {P Q : C → Prop} {p : Plan C R A} (hp : p.Makes P) (h : ∀ c, P c → Q c) :
    p.Makes Q := by
  induction p with
  | done a => trivial
  | call c next ih =>
    obtain ⟨hc, hnext⟩ := hp
    exact ⟨h c hc, fun r ↦ ih r (hnext r)⟩

theorem makes_of_forall {P : C → Prop} (h : ∀ c, P c) (p : Plan C R A) : p.Makes P := by
  induction p with
  | done a => trivial
  | call c next ih => exact ⟨h c, ih⟩

/-- **Induction along an execution.** What every call of the plan, and every repetition, preserves
of the calls made so far and the environment holds where the execution ends. -/
theorem Makes.exec_induction {P : C → Prop} {J : List (C × R) → σ → Prop} {p : Plan C R A}
    (hp : p.Makes P) (hagain : ∀ c r c', P c → again c r = some c' → P c')
    (hJ : ∀ t c s, P c → J t s → J (t ++ [(c, (E c s).1)]) (E c s).2) {t : List (C × R)} {s : σ}
    (hs : J t s) : J (t ++ (p.exec ok again E s).trace) (p.exec ok again E s).env := by
  induction p generalizing t s with
  | done a => simpa using hs
  | call c next ih =>
    obtain ⟨hc, hnext⟩ := hp
    have hfirst := hJ t c s hc hs
    rcases h : ok (E c s).1 with _ | _
    · rcases ha : again c (E c s).1 with _ | c'
      · rw [exec_call_refused h ha]
        exact hfirst
      · rw [exec_call_repeated h ha]
        have hsecond := hJ _ c' _ (hagain c _ c' hc ha) hfirst
        rwa [List.append_assoc] at hsecond
    · rw [exec_call_ok h, Run.cons_trace, Run.cons_env, List.append_cons]
      exact ih _ (hnext _) hfirst

/-- What every call of a plan satisfies, with what is repeated in its place, every call of an
execution does. -/
theorem Makes.forall_trace {P : C → Prop} {p : Plan C R A} (hp : p.Makes P)
    (hagain : ∀ c r c', P c → again c r = some c' → P c') (s : σ) :
    ∀ e ∈ (p.exec ok again E s).trace, P e.1 :=
  hp.exec_induction (J := fun t _ ↦ ∀ e ∈ t, P e.1) (t := []) hagain
    (fun _ _ _ hc ht ↦ List.forall_mem_append.2 ⟨ht, List.forall_mem_singleton.2 hc⟩) nofun

/-- The fail-stop execution makes every call of the plan in a state of the environment that fits
`Q`. -/
def Meets (ok : R → Bool) (Q : C → σ → Prop) (E : Oracle C R σ) : Plan C R A → σ → Prop
  | .done _, _ => True
  | .call c next, s =>
    Q c s ∧ (ok (E c s).1 = true → (next (E c s).1).Meets ok Q E (E c s).2)

/-- What fits everywhere is met. -/
theorem meets_of_forall {Q : C → σ → Prop} (h : ∀ c s, Q c s) (p : Plan C R A) (s : σ) :
    p.Meets ok Q E s := by
  induction p generalizing s with
  | done a => trivial
  | call c next ih => exact ⟨h c s, fun _ ↦ ih _ _⟩

/-- **What a repetition can break.** The calls of the plan satisfy `P`, so one that does not is
a repetition; where `Q` says of each call whether its repetition would satisfy `P`, every call of an
execution does exactly when the fail-stop execution meets `Q`. -/
theorem Makes.forall_trace_iff {D P : C → Prop} {Q : C → σ → Prop} {p : Plan C R A}
    (hp : p.Makes D) (hfirst : ∀ c, D c → P c)
    (hsettled : ∀ c s, D c → (ok (E c s).1 = false → again c (E c s).1 = none) → Q c s)
    (hrepeated : ∀ c s c', D c → ok (E c s).1 = false → again c (E c s).1 = some c' →
      (P c' ↔ Q c s)) (s : σ) :
    (∀ e ∈ (p.exec ok again E s).trace, P e.1) ↔ p.Meets ok Q E s := by
  induction p generalizing s with
  | done a => exact iff_of_true nofun trivial
  | call c next ih =>
    obtain ⟨hc, hnext⟩ := hp
    rcases h : ok (E c s).1 with _ | _
    · have hstop : ∀ {q : Prop}, (Q c s ∧ (ok (E c s).1 = true → q)) ↔ Q c s :=
        and_iff_left fun hok ↦ absurd (h.symm.trans hok) (by decide)
      rcases ha : again c (E c s).1 with _ | c'
      · rw [exec_call_refused h ha]
        exact iff_of_true (List.forall_mem_singleton.2 (hfirst c hc))
          (hstop.2 (hsettled c s hc fun _ ↦ ha))
      · rw [exec_call_repeated h ha, List.forall_mem_cons, List.forall_mem_singleton,
          and_iff_right (hfirst c hc)]
        exact (hrepeated c s c' hc h ha).trans hstop.symm
    · rw [exec_call_ok h, Run.cons_trace, List.forall_mem_cons, and_iff_right (hfirst c hc),
        ih _ (hnext _)]
      have hQ := hsettled c s hc fun hbad ↦ absurd (h.symm.trans hbad) (by decide)
      exact ⟨fun hrest ↦ ⟨hQ, fun _ ↦ hrest⟩, fun hmeets ↦ hmeets.2 h⟩

/-- A repetition is of a call of the plan that was refused. -/
theorem Makes.exists_of_repeated {D : C → Prop} {Q : C → σ → Prop} {p : Plan C R A} {s : σ} {c' : C}
    {r' : R} (hp : p.Makes D) (hQ : p.Meets ok Q E s)
    (h : (p.exec ok again E s).outcome = .repeated c' r') :
    ∃ c s', D c ∧ Q c s' ∧ ok (E c s').1 = false ∧ again c (E c s').1 = some c' := by
  induction p generalizing s with
  | done a => cases h
  | call c next ih =>
    rcases hc : ok (E c s).1 with _ | _
    · rcases ha : again c (E c s).1 with _ | c''
      · rw [exec_call_refused hc ha] at h
        cases h
      · rw [exec_call_repeated hc ha] at h
        cases h
        exact ⟨c, s, hp.1, hQ.1, hc, ha⟩
    · rw [exec_call_ok hc, Run.cons_outcome] at h
      exact ih _ (hp.2 _) (hQ.2 hc) h

/-- Where a call does not fit, the execution ends with its repetition. -/
theorem Makes.exists_of_not_meets {D : C → Prop} {Q : C → σ → Prop} {p : Plan C R A} {s : σ}
    (hp : p.Makes D)
    (hsettled : ∀ c s, D c → (ok (E c s).1 = false → again c (E c s).1 = none) → Q c s)
    (h : ¬p.Meets ok Q E s) :
    ∃ c s' c', D c ∧ ¬Q c s' ∧ ok (E c s').1 = false ∧ again c (E c s').1 = some c' ∧
      (p.exec ok again E s).outcome = .repeated c' (E c' (E c s').2).1 := by
  induction p generalizing s with
  | done a => exact absurd trivial h
  | call c next ih =>
    obtain ⟨hc, hnext⟩ := hp
    rcases hok : ok (E c s).1 with _ | _
    · have hQ : ¬Q c s := fun hQ ↦ h ⟨hQ, fun hok' ↦ absurd (hok.symm.trans hok') (by decide)⟩
      rcases ha : again c (E c s).1 with _ | c'
      · exact absurd (hsettled c s hc fun _ ↦ ha) hQ
      · rw [exec_call_repeated hok ha]
        exact ⟨c, s, c', hc, hQ, hok, ha, rfl⟩
    · have hQ := hsettled c s hc fun hbad ↦ absurd (hok.symm.trans hbad) (by decide)
      rw [exec_call_ok hok, Run.cons_outcome]
      exact ih _ (hnext _) fun hrest ↦ h ⟨hQ, fun _ ↦ hrest⟩

/-- An environment that refuses nothing lets every plan finish. -/
theorem exists_finished_of_forall_ok (hok : ∀ c s, ok (E c s).1 = true) (p : Plan C R A) (s : σ) :
    ∃ a, (p.exec ok again E s).outcome = .finished a := by
  induction p generalizing s with
  | done a => exact ⟨a, rfl⟩
  | call c next ih =>
    rw [exec_call_ok (hok c s), Run.cons_outcome]
    exact ih _ _

/-- What every call preserves of the environment holds wherever an execution ends. -/
theorem exec_env_of_forall {J : σ → Prop} (hJ : ∀ c s, J s → J (E c s).2) (p : Plan C R A) (s : σ)
    (hs : J s) : J (p.exec ok again E s).env :=
  (makes_of_forall (P := fun _ ↦ True) (fun _ ↦ trivial) p).exec_induction
    (J := fun _ s ↦ J s) (t := []) (fun _ _ _ _ _ ↦ trivial) (fun _ c s _ h ↦ hJ c s h) hs

/-! ### Procedures that follow a plan -/

/-- The procedure, run from `w`, makes the calls the execution of the plan makes, and its
result fits the outcome of that execution. -/
structure Follows (ok : R → Bool) (again : C → R → Option C) (E : Oracle C R σ)
    (p : Proc (OracleWorld S C R σ) ε α) (w : OracleWorld S C R σ) (plan : Plan C R A)
    (fits : Outcome C R A → Except ε α → Prop) : Prop where
  trace : (Proc.worldOf (EStateM.run p w)).trace = w.trace ++ (plan.exec ok again E w.env).trace
  env : (Proc.worldOf (EStateM.run p w)).env = (plan.exec ok again E w.env).env
  value : fits (plan.exec ok again E w.env).outcome (Proc.valueOf (EStateM.run p w))

namespace Follows

variable {w : OracleWorld S C R σ} {plan : Plan C R A} {fits : Outcome C R A → Except ε α → Prop}

theorem pure {v : A} {a : α} (h : fits (.finished v) (.ok a)) :
    Follows ok again E (Pure.pure a : Proc _ ε α) w (.done v) fits :=
  ⟨(List.append_nil _).symm, rfl, h⟩

theorem fault {v : A} {e : ε} (h : fits (.finished v) (.error e)) :
    Follows ok again E (Proc.fault e : Proc _ ε α) w (.done v) fits :=
  ⟨(List.append_nil _).symm, rfl, h⟩

variable {k : β → Proc (OracleWorld S C R σ) ε α}

/-- Returning a value is no call. -/
theorem pure_bind {b : β} (h : Follows ok again E (k b) w plan fits) :
    Follows ok again E (Pure.pure b >>= k) w plan fits :=
  ⟨h.trace, h.env, h.value⟩

/-- Reading the caller's state is no call. -/
theorem getState {f : S → β} (h : Follows ok again E (k (f w.state)) w plan fits) :
    Follows ok again E (Proc.getState f >>= k) w plan fits :=
  ⟨h.trace, h.env, h.value⟩

/-- Writing the caller's state is no call. -/
theorem modState {f : S → S} {k : Unit → Proc (OracleWorld S C R σ) ε α}
    (h : Follows ok again E (k ()) (w.mapState f) plan fits) :
    Follows ok again E (Proc.modState f >>= k) w plan fits :=
  ⟨h.trace, h.env, h.value⟩

/-- A step that changes neither the environment nor the trace. -/
theorem quiet {p : Proc (OracleWorld S C R σ) ε β} {b : β} {w' : OracleWorld S C R σ}
    (hp : EStateM.run p w = .ok b w') (htrace : w'.trace = w.trace) (henv : w'.env = w.env)
    (h : Follows ok again E (k b) w' plan fits) : Follows ok again E (p >>= k) w plan fits := by
  have hrun : EStateM.run (p >>= k) w = EStateM.run (k b) w' := by rw [EStateM.run_bind, hp]
  refine ⟨?_, ?_, ?_⟩
  · rw [hrun, h.trace, htrace, henv]
  · rw [hrun, h.env, henv]
  · rw [hrun, ← henv]
    exact h.value

theorem lift_ok {b : β} {x : Except ε β} (hx : x = .ok b)
    (h : Follows ok again E (k b) w plan fits) :
    Follows ok again E (Proc.lift x >>= k) w plan fits := by
  subst hx
  exact ⟨h.trace, h.env, h.value⟩

theorem lift_error {v : A} {e : ε} {x : Except ε β} (hx : x = .error e)
    (h : fits (.finished v) (.error e)) :
    Follows ok again E (Proc.lift x >>= k) w (.done v) fits := by
  subst hx
  exact ⟨(List.append_nil _).symm, rfl, h⟩

/-- Continue with the result of a procedure that follows the plan, when what comes after makes no
call. -/
theorem bind {p : Proc (OracleWorld S C R σ) ε β} {fits' : Outcome C R A → Except ε β → Prop}
    (h : Follows ok again E p w plan fits')
    (hok : ∀ o b w', fits' o (.ok b) → Proc.worldOf (EStateM.run (k b) w') = w' ∧
      fits o (Proc.valueOf (EStateM.run (k b) w')))
    (herror : ∀ o e, fits' o (.error e) → fits o (.error e)) :
    Follows ok again E (p >>= k) w plan fits := by
  obtain ⟨htrace, henv, hvalue⟩ := h
  cases hrun : EStateM.run p w with
  | ok b w' =>
    rw [hrun] at htrace henv hvalue
    obtain ⟨h₁, h₂⟩ := hok _ b w' hvalue
    have hbind : EStateM.run (p >>= k) w = EStateM.run (k b) w' := by rw [EStateM.run_bind, hrun]
    refine ⟨?_, ?_, ?_⟩
    · rw [hbind, h₁]
      exact htrace
    · rw [hbind, h₁]
      exact henv
    · rw [hbind]
      exact h₂
  | error e w' =>
    rw [hrun] at htrace henv hvalue
    have hbind : EStateM.run (p >>= k) w = .error e w' := by rw [EStateM.run_bind, hrun]
    refine ⟨?_, ?_, ?_⟩
    · rw [hbind]
      exact htrace
    · rw [hbind]
      exact henv
    · rw [hbind]
      exact herror _ e hvalue

variable {k : R → Proc (OracleWorld S C R σ) ε α}

/-- The run of a call is the run of what follows it. -/
theorem run_ask_bind :
    EStateM.run (Proc.ask E c >>= k) w = EStateM.run (k (E c w.env).1) (w.asked E c) := rfl

/-- A call answered well: the rest follows the rest of the plan. -/
theorem ask_of_ok (hc : ok (E c w.env).1 = true)
    (h : Follows ok again E (k (E c w.env).1) (w.asked E c) (next (E c w.env).1) fits) :
    Follows ok again E (Proc.ask E c >>= k) w (.call c next) fits := by
  obtain ⟨htrace, henv, hvalue⟩ := h
  rw [OracleWorld.asked_env] at htrace henv hvalue
  refine ⟨?_, ?_, ?_⟩
  · rw [run_ask_bind, exec_call_ok hc, htrace, Run.cons_trace, OracleWorld.asked_trace,
      List.append_assoc]
    rfl
  · rw [run_ask_bind, exec_call_ok hc]
    exact henv
  · rw [run_ask_bind, exec_call_ok hc]
    exact hvalue

/-- **A call that is not repeated**: where it is refused, the procedure makes no call after it. -/
theorem ask_once
    (hok : ok (E c w.env).1 = true →
      Follows ok again E (k (E c w.env).1) (w.asked E c) (next (E c w.env).1) fits)
    (hagain : ok (E c w.env).1 = false → again c (E c w.env).1 = none)
    (hstop : ok (E c w.env).1 = false →
      ∃ a w', EStateM.run (k (E c w.env).1) (w.asked E c) = .ok a w' ∧
        w'.trace = (w.asked E c).trace ∧ w'.env = (w.asked E c).env ∧
        fits (.refused c (E c w.env).1) (.ok a)) :
    Follows ok again E (Proc.ask E c >>= k) w (.call c next) fits := by
  cases hc : ok (E c w.env).1 with
  | true => exact ask_of_ok hc (hok hc)
  | false =>
    have hexec : (call c next).exec ok again E w.env = _ := exec_call_refused hc (hagain hc)
    obtain ⟨a, w', hrun, htrace, henv, hfits⟩ := hstop hc
    have hrun' := run_ask_bind.trans hrun
    refine ⟨?_, ?_, ?_⟩
    · rw [hrun', hexec]
      exact htrace
    · rw [hrun', hexec]
      exact henv
    · rw [hrun', hexec]
      exact hfits

/-- **A call that is repeated**: where it is refused, the procedure, in a world `w₁` that differs
in the caller's state at most, asks once more and makes no call after that. -/
theorem ask_twice (c' : C) (k' : R → Proc (OracleWorld S C R σ) ε α) (w₁ : OracleWorld S C R σ)
    (hok : ok (E c w.env).1 = true →
      Follows ok again E (k (E c w.env).1) (w.asked E c) (next (E c w.env).1) fits)
    (hagain : ok (E c w.env).1 = false → again c (E c w.env).1 = some c')
    (htrace : w₁.trace = (w.asked E c).trace) (henv : w₁.env = (w.asked E c).env)
    (hrep : ok (E c w.env).1 = false → EStateM.run (k (E c w.env).1) (w.asked E c) =
      EStateM.run (Proc.ask E c' >>= k') w₁)
    (hquiet : ∀ r' w', (Proc.worldOf (EStateM.run (k' r') w')).trace = w'.trace ∧
      (Proc.worldOf (EStateM.run (k' r') w')).env = w'.env ∧
      fits (.repeated c' r') (Proc.valueOf (EStateM.run (k' r') w'))) :
    Follows ok again E (Proc.ask E c >>= k) w (.call c next) fits := by
  cases hc : ok (E c w.env).1 with
  | true => exact ask_of_ok hc (hok hc)
  | false =>
    -- Refused: the run goes on with the repetition `c'`.
    have hexec : (call c next).exec ok again E w.env = _ := exec_call_repeated hc (hagain hc)
    have hrun : EStateM.run (Proc.ask E c >>= k) w =
        EStateM.run (k' (E c' w₁.env).1) (w₁.asked E c') :=
      (hrep hc).trans run_ask_bind
    obtain ⟨htrace', henv', hvalue⟩ := hquiet (E c' w₁.env).1 (w₁.asked E c')
    rw [henv] at hvalue
    refine ⟨?_, ?_, ?_⟩
    · rw [hrun, htrace', hexec, OracleWorld.asked_trace, htrace, henv]
      simp [OracleWorld.asked]
    · rw [hrun, henv', hexec, OracleWorld.asked_env, henv]
      rfl
    · rw [hrun, hexec, henv]
      exact hvalue

end Follows

end Plan

end Effects
