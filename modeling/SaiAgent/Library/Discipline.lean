import SaiAgent.Library.Oracle
import Mathlib.Data.List.Basic

/-!
# Callers that respect a discipline

What a caller may ask depends on what it was told: a `Discipline` says which calls are *licensed*
by a trace, and what the caller's state may hold, *backed* by a trace. Both only get easier as the
trace grows. A caller that starts out disciplined and obeys is disciplined ever after, whatever the
environment answers and also where it faults (`Obeys`).

The judgement is relative to a trace `t` the world has at least reached, so that a fact about `t`
stays available after any number of calls: where a rule hands over to the rest of the procedure,
the rest is judged at the longer trace. The value returned satisfies a fact about the trace then
reached.
-/

namespace Effects

variable {S C R σ ε α β : Type}

/-- From the `n`-th on, every call of the trace was licensed by what came before it. -/
def Lawful (licensed : List (C × R) → C → Prop) (n : ℕ) (t : List (C × R)) : Prop :=
  ∀ t₁ c r t₂, t = t₁ ++ (c, r) :: t₂ → n ≤ t₁.length → licensed t₁ c

variable {licensed : List (C × R) → C → Prop} {t t' : List (C × R)} {n : ℕ} {c : C} {r : R}

/-- No call was made from here on. -/
theorem lawful_length : Lawful licensed t.length t := by
  rintro t₁ c r t₂ rfl hn
  rw [List.length_append, List.length_cons] at hn
  omega

/-- The last call is licensed by all that came before it. -/
theorem lawful_concat (ht : Lawful licensed n t) (hc : licensed t c) :
    Lawful licensed n (t ++ [(c, r)]) := by
  intro t₁ c' r' t₂ h
  rcases t₂.eq_nil_or_concat with rfl | ⟨t₂, e, rfl⟩
  · obtain ⟨rfl, he⟩ := List.append_inj' h rfl
    cases he
    exact fun _ ↦ hc
  · rw [List.concat_eq_append, ← List.cons_append, ← List.append_assoc] at h
    exact ht t₁ c' r' t₂ (List.append_inj' h rfl).1

/-- What a caller may ask and hold, given a trace. -/
structure Discipline (S C R : Type) where
  /-- The calls before this one are none of its business. -/
  since : ℕ
  /-- The calls a trace licenses. -/
  licensed : List (C × R) → C → Prop
  /-- The states a trace backs. -/
  backed : List (C × R) → S → Prop
  licensed_mono : ∀ {t t' c}, t <+: t' → licensed t c → licensed t' c
  backed_mono : ∀ {t t' s}, t <+: t' → backed t s → backed t' s

namespace Discipline

variable (D : Discipline S C R)

/-- The calls were licensed, and the caller's state is backed. -/
structure Respected (w : OracleWorld S C R σ) : Prop where
  lawful : Lawful D.licensed D.since w.trace
  backed : D.backed w.trace w.state

/-- **From a world that has reached `t`** the procedure respects the discipline however it ends, and
what it returns satisfies `Q`. -/
def Obeys (t : List (C × R)) (p : Proc (OracleWorld S C R σ) ε α)
    (Q : α → List (C × R) → Prop) : Prop :=
  ∀ w : OracleWorld S C R σ, t <+: w.trace → D.Respected w →
    D.Respected (Proc.worldOf (EStateM.run p w)) ∧
      w.trace <+: (Proc.worldOf (EStateM.run p w)).trace ∧
        ∀ a w', EStateM.run p w = .ok a w' → Q a w'.trace

variable {D} {Q : α → List (C × R) → Prop}

theorem Obeys.pure {a : α} (h : ∀ t', t <+: t' → Q a t') :
    D.Obeys t (pure a : Proc (OracleWorld S C R σ) ε α) Q := by
  intro w ht hw
  refine ⟨hw, List.prefix_rfl, ?_⟩
  intro a' w' hr
  cases hr
  exact h _ ht

theorem Obeys.fault (e : ε) : D.Obeys t (Proc.fault e : Proc (OracleWorld S C R σ) ε α) Q :=
  fun _ _ hw ↦ ⟨hw, List.prefix_rfl, fun _ _ hr ↦ by cases hr⟩

/-- **Sequencing.** What follows is judged at the trace the first part reached. -/
theorem Obeys.bind {p : Proc (OracleWorld S C R σ) ε α} {f : α → Proc (OracleWorld S C R σ) ε β}
    {M : α → List (C × R) → Prop} {Q : β → List (C × R) → Prop} (hp : D.Obeys t p M)
    (hf : ∀ a t', t <+: t' → M a t' → D.Obeys t' (f a) Q) : D.Obeys t (p >>= f) Q := by
  intro w ht hw
  obtain ⟨hw₁, ht₁, hM⟩ := hp w ht hw
  rw [EStateM.run_bind]
  rcases hr : EStateM.run p w with ⟨a, w₁⟩ | ⟨e, w₁⟩
  · rw [hr] at hw₁ ht₁
    obtain ⟨hw₂, ht₂, hQ⟩ := hf a w₁.trace (ht.trans ht₁) (hM a w₁ hr) w₁ List.prefix_rfl hw₁
    exact ⟨hw₂, ht₁.trans ht₂, hQ⟩
  · rw [hr] at hw₁ ht₁
    exact ⟨hw₁, ht₁, fun _ _ h ↦ by cases h⟩

/-- What is computed from a value is known at the trace the value was. -/
theorem Obeys.bind_pure {p : Proc (OracleWorld S C R σ) ε α} {f : α → β}
    {M : α → List (C × R) → Prop} {Q : β → List (C × R) → Prop} (hp : D.Obeys t p M)
    (hf : ∀ a t', t <+: t' → M a t' → Q (f a) t') :
    D.Obeys t (p >>= fun a ↦ Pure.pure (f a)) Q := by
  intro w ht hw
  obtain ⟨hw₁, ht₁, hM⟩ := hp w ht hw
  rw [EStateM.run_bind]
  rcases hr : EStateM.run p w with ⟨a, w₁⟩ | ⟨e, w₁⟩
  · rw [hr] at hw₁ ht₁
    refine ⟨hw₁, ht₁, ?_⟩
    intro b w' hb
    cases hb
    exact hf a _ (ht.trans ht₁) (hM a w₁ hr)
  · rw [hr] at hw₁ ht₁
    exact ⟨hw₁, ht₁, fun _ _ h ↦ by cases h⟩

theorem Obeys.ite {b : Prop} [Decidable b] {p q : Proc (OracleWorld S C R σ) ε α}
    (hp : b → D.Obeys t p Q) (hq : ¬b → D.Obeys t q Q) : D.Obeys t (if b then p else q) Q := by
  by_cases hb : b
  · rw [if_pos hb]
    exact hp hb
  · rw [if_neg hb]
    exact hq hb

/-- Ask what is licensed. The answer is one the environment gives, and on record. -/
theorem Obeys.ask {E : Oracle C R σ} {Q : R → List (C × R) → Prop} (hc : D.licensed t c)
    (h : ∀ t' s, t <+: t' → Q (E c s).1 (t' ++ [(c, (E c s).1)])) :
    D.Obeys t (Proc.ask E c : Proc (OracleWorld S C R σ) ε R) Q := by
  intro w ht hw
  have hgrown : w.trace <+: (w.asked E c).trace := List.prefix_append _ _
  refine ⟨⟨lawful_concat hw.lawful (D.licensed_mono ht hc), D.backed_mono hgrown hw.backed⟩,
    hgrown, ?_⟩
  intro a w' hr
  cases hr
  exact h w.trace w.env ht

theorem Obeys.getState {g : S → α} (h : ∀ t' s, t <+: t' → D.backed t' s → Q (g s) t') :
    D.Obeys t (Proc.getState g : Proc (OracleWorld S C R σ) ε α) Q := by
  intro w ht hw
  refine ⟨hw, List.prefix_rfl, ?_⟩
  intro a w' hr
  cases hr
  exact h _ _ ht hw.backed

theorem Obeys.modState {g : S → S} {Q : Unit → List (C × R) → Prop}
    (h : ∀ t' s, t <+: t' → D.backed t' s → D.backed t' (g s) ∧ Q () t') :
    D.Obeys t (Proc.modState g : Proc (OracleWorld S C R σ) ε Unit) Q := by
  intro w ht hw
  have hg := h w.trace w.state ht hw.backed
  refine ⟨⟨hw.lawful, hg.1⟩, List.prefix_rfl, ?_⟩
  intro a w' hr
  cases hr
  exact hg.2

theorem Obeys.lift {x : Except ε α} (h : ∀ a, x = .ok a → ∀ t', t <+: t' → Q a t') :
    D.Obeys t (Proc.lift x : Proc (OracleWorld S C R σ) ε α) Q := by
  cases x with
  | ok a => exact Obeys.pure (h a rfl)
  | error e => exact Obeys.fault e

/-- What asks nothing and keeps all that the backing depends on. -/
theorem Obeys.of_keeps {γ : Type} {f : S → γ} {p : Proc (OracleWorld S C R σ) ε α}
    (hf : ∀ t s s', f s = f s' → D.backed t s → D.backed t s')
    (h : Proc.Keeps (fun w : OracleWorld S C R σ ↦ (w.trace, f w.state)) p)
    (hQ : ∀ a t', t <+: t' → Q a t') : D.Obeys t p Q := by
  intro w ht hw
  have hkept := h w
  have htrace : (Proc.worldOf (EStateM.run p w)).trace = w.trace := congrArg Prod.fst hkept
  have hstate : f (Proc.worldOf (EStateM.run p w)).state = f w.state := congrArg Prod.snd hkept
  refine ⟨⟨htrace.symm ▸ hw.lawful, htrace.symm ▸ hf _ _ _ hstate.symm hw.backed⟩,
    htrace.symm ▸ List.prefix_rfl, fun a w' hr ↦ hQ a _ ?_⟩
  rw [hr] at htrace
  exact htrace.symm ▸ ht

/-- Weaken what is known of the value. -/
theorem Obeys.mono {p : Proc (OracleWorld S C R σ) ε α} {Q' : α → List (C × R) → Prop}
    (h : D.Obeys t p Q) (hQ : ∀ a t', t <+: t' → Q a t' → Q' a t') : D.Obeys t p Q' := by
  intro w ht hw
  obtain ⟨hw', ht', hres⟩ := h w ht hw
  refine ⟨hw', ht', fun a w' hr ↦ ?_⟩
  rw [hr] at ht'
  exact hQ a _ (ht.trans ht') (hres a w' hr)

end Discipline

end Effects
