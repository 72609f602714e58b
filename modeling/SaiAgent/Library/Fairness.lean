import SaiAgent.Library.Refinement
import Mathlib.Order.Filter.AtTopBot.Basic

/-!
# Fair schedules

A machine whose turns are handed out for ever. A schedule is *fair* to a turn that comes again and
again. What a fair turn must bring about is brought about (`eventually_of_rank`): from the states of
a region that no turn leaves without bringing it about, where no other turn raises a rank and the
fair one lowers it. In a region that is never left, it is brought about infinitely often
(`frequently_of_rank`). The turns may be known to keep a condition (`Meets`).
-/

namespace Effects.Schedule

open Filter

variable {S T : Type} (step : S → T → S) (ω : ℕ → T)

/-- The state before the `n`th turn. -/
def stateAt (s : S) : ℕ → S
  | 0 => s
  | n + 1 => step (stateAt s n) (ω n)

/-- The schedule gives this turn again and again. -/
def Fair (t : T) : Prop := ∃ᶠ n in atTop, ω n = t

/-- Every turn meets this condition. -/
def Meets (C : S → T → Prop) (s : S) : Prop := ∀ n, C (stateAt step ω s n) (ω n)

variable {step ω} {s : S} {t : T} {P : S → Prop} {C G : S → T → Prop} {n m : ℕ}

theorem meets_true : Meets step ω (fun _ _ ↦ True) s := fun _ ↦ trivial

/-- What a finite part of a schedule leads to. -/
theorem stateAt_eq_exec (s : S) (n : ℕ) :
    stateAt step ω s n = Run.exec (fun _ ↦ True) step s ((List.range n).map ω) := by
  induction n with
  | zero => rfl
  | succ n ih =>
    rw [stateAt, ih, List.range_succ, List.map_append, List.map_singleton, Run.exec_append,
      Run.exec_cons_of_live trivial, Run.exec_nil]

/-- **Regions no turn leaves.** -/
theorem stays (hC : Meets step ω C s) (h : ∀ s t, C s t → P s → P (step s t))
    (hn : P (stateAt step ω s n)) (hnm : n ≤ m) : P (stateAt step ω s m) :=
  Nat.le_induction hn (fun k _ ih ↦ h _ _ (hC k) ih) m hnm

/-- Until the goal is brought about, the region is not left and the rank not raised. -/
theorem taken_or_stays (hC : Meets step ω C s) (rank : S → ℕ)
    (hkeep : ∀ s u, C s u → P s → G s u ∨ P (step s u) ∧ rank (step s u) ≤ rank s)
    (hn : P (stateAt step ω s n)) (hnm : n ≤ m) :
    (∃ k, n ≤ k ∧ G (stateAt step ω s k) (ω k)) ∨
      P (stateAt step ω s m) ∧ rank (stateAt step ω s m) ≤ rank (stateAt step ω s n) := by
  induction m, hnm using Nat.le_induction with
  | base => exact Or.inr ⟨hn, le_rfl⟩
  | succ m hm ih =>
    rcases ih with htaken | ⟨hP, hrank⟩
    · exact Or.inl htaken
    · rcases hkeep _ (ω m) (hC m) hP with hG | ⟨hP', hle⟩
      · exact Or.inl ⟨m, hm, hG⟩
      · exact Or.inr ⟨hP', hle.trans hrank⟩

/-- **What a fair turn brings about.** By induction on the rank: when the turn comes, either the
goal was brought about by then, or it is now, or the rank is lower. -/
theorem eventually_of_rank (hfair : Fair ω t) (hC : Meets step ω C s) (rank : S → ℕ)
    (hkeep : ∀ s u, C s u → P s → G s u ∨ P (step s u) ∧ rank (step s u) ≤ rank s)
    (hlower : ∀ s, C s t → P s → G s t ∨ rank (step s t) < rank s)
    (hn : P (stateAt step ω s n)) : ∃ m, n ≤ m ∧ G (stateAt step ω s m) (ω m) := by
  induction hr : rank (stateAt step ω s n) using Nat.strong_induction_on generalizing n with
  | _ r ih =>
    obtain ⟨m, hnm, hm⟩ := frequently_atTop.1 hfair n
    have hCm : C (stateAt step ω s m) t := hm ▸ hC m
    rcases taken_or_stays hC rank hkeep hn hnm with htaken | ⟨hP, hrank⟩
    · exact htaken
    rcases hlower _ hCm hP with hG | hlt
    · exact ⟨m, hnm, by rwa [hm]⟩
    rcases hkeep _ t hCm hP with hG | ⟨hP', -⟩
    · exact ⟨m, hnm, by rwa [hm]⟩
    have hnext : stateAt step ω s (m + 1) = step (stateAt step ω s m) t := by rw [stateAt, hm]
    obtain ⟨k, hk, hG⟩ := ih (rank (stateAt step ω s (m + 1))) (by rw [hnext]; omega)
      (n := m + 1) (by rwa [hnext]) rfl
    exact ⟨k, by omega, hG⟩

/-- **What happens again and again.** -/
theorem frequently_of_rank (hfair : Fair ω t) (hC : Meets step ω C s) (rank : S → ℕ)
    (hregion : ∀ s u, C s u → P s → P (step s u))
    (hkeep : ∀ s u, C s u → P s → G s u ∨ rank (step s u) ≤ rank s)
    (hlower : ∀ s, C s t → P s → G s t ∨ rank (step s t) < rank s)
    (hn : P (stateAt step ω s n)) : ∃ᶠ m in atTop, G (stateAt step ω s m) (ω m) := by
  refine frequently_atTop.2 fun k ↦ ?_
  have hP : P (stateAt step ω s (max n k)) := stays hC hregion hn (le_max_left n k)
  obtain ⟨m, hm, hG⟩ := eventually_of_rank hfair hC rank
    (fun s u hs hP ↦ (hkeep s u hs hP).imp_right fun hle ↦ ⟨hregion s u hs hP, hle⟩) hlower hP
  exact ⟨m, (le_max_right n k).trans hm, hG⟩

end Effects.Schedule
