import Mathlib.Data.List.Basic

/-!
# Runs of a state machine

A machine takes one step per input while a state is `live`, and ignores what comes after it stopped.
`exec` is the state a run reaches, `Along C` says that every step the run takes meets the condition
`C` on the state before the step and its input.

* `exec_invariant`: what the start satisfies and every step meeting `C` preserves holds at the
  end of every run that is along `C`;
* `along_iff_along`: two step conditions that agree on the states of an invariant, which they keep,
  agree along runs;
* `forall_take_iff_of_invariant`, `forall_take_iff`: where the condition of each step is
  exactly what a property needs, the property holds in every state of a run exactly when the run is
  along the condition;
* `exec_iff_along`: a property that no state without it can regain holds at the end of a run exactly
  when the run is along the condition that preserves it;
* `forall_log_iff`: for a machine that logs one entry per step, a property of every entry is a
  condition along the run.
-/

namespace Effects.Run

variable {S I L : Type} (live : S → Prop) [DecidablePred live] (step : S → I → S)

/-- The state a run reaches. -/
def exec : S → List I → S
  | s, [] => s
  | s, i :: is => if live s then exec (step s i) is else s

/-- Every step the run takes meets the condition. -/
def Along (C : S → I → Prop) : S → List I → Prop
  | _, [] => True
  | s, i :: is => live s → C s i ∧ Along C (step s i) is

variable {live step} {C D : S → I → Prop}

@[simp] theorem exec_nil (s : S) : exec live step s [] = s := rfl

theorem exec_cons_of_live {s : S} (h : live s) (i : I) (is : List I) :
    exec live step s (i :: is) = exec live step (step s i) is := by
  rw [exec, if_pos h]

theorem exec_of_not_live {s : S} (h : ¬live s) (is : List I) : exec live step s is = s := by
  cases is with
  | nil => rfl
  | cons i is => rw [exec, if_neg h]

/-- **Invariants.** The step lemma is the hypothesis; the induction is over the inputs. -/
theorem exec_invariant {J : S → Prop}
    (hstep : ∀ s i, live s → J s → C s i → J (step s i)) :
    ∀ (is : List I) (s : S), J s → Along live step C s is → J (exec live step s is)
  | [], _, hs, _ => hs
  | i :: is, s, hs, ha => by
    by_cases hl : live s
    · rw [exec_cons_of_live hl]
      exact exec_invariant hstep is _ (hstep s i hl hs (ha hl).1) (ha hl).2
    · rw [exec_of_not_live hl]
      exact hs

omit [DecidablePred live] in
theorem along_true : ∀ (is : List I) (s : S), Along live step (fun _ _ ↦ True) s is
  | [], _ => trivial
  | _ :: is, _ => fun _ ↦ ⟨trivial, along_true is _⟩

omit [DecidablePred live] in
/-- A part of a run meets what the run meets. -/
theorem Along.take : ∀ {is : List I} {s : S}, Along live step C s is → ∀ n, Along live step C s
    (is.take n)
  | [], _, _, n => by simp [Along]
  | _ :: _, _, _, 0 => trivial
  | _ :: _, _, h, n + 1 => fun hl ↦ ⟨(h hl).1, (h hl).2.take n⟩

omit [DecidablePred live] in
/-- A weaker condition is met, too. -/
theorem Along.mono (h : ∀ s i, C s i → D s i) :
    ∀ {is : List I} {s : S}, Along live step C s is → Along live step D s is
  | [], _, _ => trivial
  | _ :: _, _, ha => fun hl ↦ ⟨h _ _ (ha hl).1, (ha hl).2.mono h⟩

omit [DecidablePred live] in
/-- What is true of every input is true of every step. -/
theorem Along.and_forall {P : I → Prop} :
    ∀ {is : List I} {s : S}, (∀ i ∈ is, P i) → Along live step C s is →
      Along live step (fun s i ↦ P i ∧ C s i) s is
  | [], _, _, _ => trivial
  | i :: _, _, hP, h => fun hl ↦
    ⟨⟨hP i List.mem_cons_self, (h hl).1⟩, (h hl).2.and_forall fun j hj ↦ hP j
      (List.mem_cons_of_mem i hj)⟩

/-- An invariant no step can break needs no condition along the run. -/
theorem exec_invariant_of_all {J : S → Prop} (hstep : ∀ s i, live s → J s → J (step s i))
    (is : List I) (s : S) (hs : J s) : J (exec live step s is) :=
  exec_invariant (C := fun _ _ ↦ True) (fun s i hl hj _ ↦ hstep s i hl hj) is s hs (along_true is s)

omit [DecidablePred live] in
/-- **Step conditions that agree on an invariant agree along every run.** -/
theorem along_iff_along {J : S → Prop} (hJ : ∀ s i, live s → J s → C s i → J (step s i))
    (hCD : ∀ s i, live s → J s → (C s i ↔ D s i)) :
    ∀ (is : List I) (s : S), J s → (Along live step C s is ↔ Along live step D s is)
  | [], _, _ => Iff.rfl
  | i :: is, s, hs => by
    constructor
    · intro h hl
      exact ⟨(hCD s i hl hs).1 (h hl).1,
        (along_iff_along hJ hCD is _ (hJ s i hl hs (h hl).1)).1 (h hl).2⟩
    · intro h hl
      have hc := (hCD s i hl hs).2 (h hl).1
      exact ⟨hc, (along_iff_along hJ hCD is _ (hJ s i hl hs hc)).2 (h hl).2⟩

/-- **What holds in every state of a run**, by an invariant that implies it: steps meeting the
condition keep the invariant, and a step that does not meet it leads out of the property. -/
theorem forall_take_iff_of_invariant {J P : S → Prop} (hJP : ∀ s, J s → P s)
    (hkeep : ∀ s i, live s → J s → C s i → J (step s i))
    (hbreak : ∀ s i, live s → J s → P (step s i) → C s i) :
    ∀ (is : List I) (s : S), J s →
      ((∀ n, P (exec live step s (is.take n))) ↔ Along live step C s is)
  | [], s, hs => by simp [Along, hJP s hs]
  | i :: is, s, hs => by
    by_cases hl : live s
    · constructor
      · intro h _
        -- The prefix of one step shows the condition at the first state.
        have hfirst := h 1
        rw [List.take_succ_cons, exec_cons_of_live hl, List.take_zero, exec_nil] at hfirst
        have hc := hbreak s i hl hs hfirst
        have hnext := hkeep s i hl hs hc
        refine ⟨hc, (forall_take_iff_of_invariant hJP hkeep hbreak is _ hnext).1 fun n ↦ ?_⟩
        have hn := h (n + 1)
        rwa [List.take_succ_cons, exec_cons_of_live hl] at hn
      · intro h n
        obtain ⟨hc, hrest⟩ := h hl
        have hnext := hkeep s i hl hs hc
        cases n with
        | zero => exact hJP s hs
        | succ n =>
          rw [List.take_succ_cons, exec_cons_of_live hl]
          exact (forall_take_iff_of_invariant hJP hkeep hbreak is _ hnext).2 hrest n
    · refine iff_of_true (fun n ↦ ?_) fun hl' ↦ absurd hl' hl
      rw [exec_of_not_live hl]
      exact hJP s hs

/-- **The states of a run.** A step from a state of the invariant leads to one exactly when it
meets the condition. -/
theorem forall_take_iff {J : S → Prop}
    (hstep : ∀ s i, live s → J s → (J (step s i) ↔ C s i)) (is : List I) (s : S) (hs : J s) :
    (∀ n, J (exec live step s (is.take n))) ↔ Along live step C s is :=
  forall_take_iff_of_invariant (fun _ h ↦ h) (fun s i hl hj ↦ (hstep s i hl hj).2)
    (fun s i hl hj ↦ (hstep s i hl hj).1) is s hs

/-- **What a run cannot regain.** A state without the property is a dead end, so the property holds
at the end of a run exactly when each step meets the condition that preserves it. -/
theorem exec_iff_along {J P : S → Prop} (hdead : ∀ s, ¬P s → ¬live s)
    (hJ : ∀ s i, live s → J s → J (step s i))
    (hstep : ∀ s i, live s → J s → (P (step s i) ↔ C s i)) :
    ∀ (is : List I) (s : S), J s → P s → (P (exec live step s is) ↔ Along live step C s is)
  | [], _, _, hP => iff_of_true hP trivial
  | i :: is, s, hs, hP => by
    by_cases hl : live s
    · rw [exec_cons_of_live hl]
      by_cases hnext : P (step s i)
      · rw [exec_iff_along hdead hJ hstep is _ (hJ s i hl hs) hnext]
        exact ⟨fun h _ ↦ ⟨(hstep s i hl hs).1 hnext, h⟩, fun h ↦ (h hl).2⟩
      · rw [exec_of_not_live (hdead _ hnext)]
        exact iff_of_false hnext fun h ↦ hnext ((hstep s i hl hs).2 (h hl).1)
    · rw [exec_of_not_live hl]
      exact iff_of_true hP fun hl' ↦ absurd hl' hl

/-- **A property of every log entry is a condition along the run.** Each step appends an entry,
and the entry has the property exactly when the step meets the condition. -/
theorem forall_log_iff (log : S → List L) (P : L → Prop) {J : S → Prop}
    (hJ : ∀ s i, live s → J s → J (step s i))
    (hlog : ∀ s i, live s → J s → ∃ e, log (step s i) = log s ++ [e] ∧ (P e ↔ C s i)) :
    ∀ (is : List I) (s : S), J s →
      ((∀ e ∈ log (exec live step s is), P e) ↔ (∀ e ∈ log s, P e) ∧ Along live step C s is)
  | [], s, _ => by simp [Along]
  | i :: is, s, hs => by
    by_cases hl : live s
    · have ih := forall_log_iff log P hJ hlog is (step s i) (hJ s i hl hs)
      obtain ⟨e, he, hP⟩ := hlog s i hl hs
      rw [exec_cons_of_live hl, ih, he]
      simp only [List.forall_mem_append, List.forall_mem_singleton, hP, Along, hl, true_implies,
        and_assoc]
    · rw [exec_of_not_live hl]
      simp [Along, hl]

end Effects.Run
