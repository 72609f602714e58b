import Mathlib.Data.List.Forall2
import SaiAgent.Library.Run

/-!
# Refinement of one machine by another

A machine refines another when each of its steps is a run of the other's, on the inputs it passes
on: none where it stutters, one where it follows, several where it hides intermediate states. Runs
then correspond (`Refinement.exec`), and so do their outputs (`Refinement.outputs_eq`). Inputs that
change nothing may be left out (`Hides.exec_filter`, `Hides.outputs_filter`). What a run puts out
can be matched with the inputs it takes (`forall₂_outputs`).
-/

namespace Effects.Run

variable {S I T K O : Type} {live : S → Prop} [DecidablePred live] {step : S → I → S}
  {live' : T → Prop} [DecidablePred live'] {step' : T → K → T}

/-- A run continues where its first part ended. -/
theorem exec_append (s : S) (is js : List I) :
    exec live step s (is ++ js) = exec live step (exec live step s is) js := by
  induction is generalizing s with
  | nil => rfl
  | cons i is ih =>
    by_cases hl : live s
    · rw [List.cons_append, exec_cons_of_live hl, exec_cons_of_live hl, ih]
    · rw [exec_of_not_live hl, exec_of_not_live hl, exec_of_not_live hl]

variable (live step) in
/-- What the steps of a run put out, in order. -/
def outputs (out : S → I → List O) : S → List I → List O
  | _, [] => []
  | s, i :: is => if live s then out s i ++ outputs out (step s i) is else []

variable {out : S → I → List O}

@[simp] theorem outputs_nil (s : S) : outputs live step out s [] = [] := rfl

theorem outputs_cons_of_live {s : S} (h : live s) (i : I) (is : List I) :
    outputs live step out s (i :: is) = out s i ++ outputs live step out (step s i) is := by
  rw [outputs, if_pos h]

theorem outputs_of_not_live {s : S} (h : ¬live s) (is : List I) :
    outputs live step out s is = [] := by
  cases is with
  | nil => rfl
  | cons i is => rw [outputs, if_neg h]

/-- A single step of a live state. -/
theorem outputs_singleton {s : S} (h : live s) (i : I) :
    outputs live step out s [i] = out s i := by
  rw [outputs_cons_of_live h, outputs_nil, List.append_nil]

theorem outputs_append (s : S) (is js : List I) :
    outputs live step out s (is ++ js) =
      outputs live step out s is ++ outputs live step out (exec live step s is) js := by
  induction is generalizing s with
  | nil => rfl
  | cons i is ih =>
    by_cases hl : live s
    · rw [List.cons_append, outputs_cons_of_live hl, outputs_cons_of_live hl,
        exec_cons_of_live hl, ih, List.append_assoc]
    · rw [outputs_of_not_live hl, outputs_of_not_live hl, exec_of_not_live hl,
        outputs_of_not_live hl, List.append_nil]

/-- A log that grows by each step's output. -/
theorem log_exec {log : S → List O} {s : S} (is : List I)
    (h : ∀ s i, live s → log (step s i) = log s ++ out s i) :
    log (exec live step s is) = log s ++ outputs live step out s is := by
  induction is generalizing s with
  | nil => rw [exec_nil, outputs_nil, List.append_nil]
  | cons i is ih =>
    by_cases hl : live s
    · rw [exec_cons_of_live hl, outputs_cons_of_live hl, ih, h s i hl, List.append_assoc]
    · rw [exec_of_not_live hl, outputs_of_not_live hl, List.append_nil]

/-- What is read off the outputs is put out step by step, too. -/
theorem flatMap_outputs {P : Type} (f : O → List P) (s : S) (is : List I) :
    (outputs live step out s is).flatMap f =
      outputs live step (fun s i ↦ (out s i).flatMap f) s is := by
  induction is generalizing s with
  | nil => rfl
  | cons i is ih =>
    by_cases hl : live s
    · rw [outputs_cons_of_live hl, outputs_cons_of_live hl, List.flatMap_append, ih]
    · rw [outputs_of_not_live hl, outputs_of_not_live hl, List.flatMap_nil]

theorem map_outputs {P : Type} (f : O → P) (s : S) (is : List I) :
    (outputs live step out s is).map f = outputs live step (fun s i ↦ (out s i).map f) s is := by
  simp only [List.map_eq_flatMap, flatMap_outputs]

/-- Steps that put out alike in the states of an invariant. -/
theorem outputs_congr {out' : S → I → List O} {J : S → Prop}
    (hJ : ∀ s i, live s → J s → J (step s i)) (h : ∀ s i, live s → J s → out s i = out' s i)
    {s : S} (hs : J s) (is : List I) :
    outputs live step out s is = outputs live step out' s is := by
  induction is generalizing s with
  | nil => rfl
  | cons i is ih =>
    by_cases hl : live s
    · rw [outputs_cons_of_live hl, outputs_cons_of_live hl, h s i hl hs, ih (hJ s i hl hs)]
    · rw [outputs_of_not_live hl, outputs_of_not_live hl]

/-- Steps that put out at most what their input says. -/
theorem outputs_sublist {f : I → O} (h : ∀ s i, (out s i).Sublist [f i]) (s : S) (is : List I) :
    (outputs live step out s is).Sublist (is.map f) := by
  induction is generalizing s with
  | nil => exact List.Sublist.refl _
  | cons i is ih =>
    by_cases hl : live s
    · rw [outputs_cons_of_live hl]
      exact (h s i).append (ih _)
    · rw [outputs_of_not_live hl]
      exact List.nil_sublist _

variable (live step) in
/-- The inputs a run takes. -/
def taken (s : S) (is : List I) : List I := outputs live step (fun _ i ↦ [i]) s is

/-- Outputs that depend on the input only, of a run that never stops. -/
theorem outputs_eq_flatMap {f : I → List O} {J : S → Prop}
    (hJ : ∀ s i, live s → J s → J (step s i)) (hlive : ∀ s, J s → live s) {s : S} (hs : J s)
    (is : List I) : outputs live step (fun _ i ↦ f i) s is = is.flatMap f := by
  induction is generalizing s with
  | nil => rfl
  | cons i is ih =>
    rw [outputs_cons_of_live (hlive s hs), ih (hJ s i (hlive s hs) hs), List.flatMap_cons]

/-- What a run puts out a step puts out. -/
theorem exists_of_mem_outputs {o : O} {s : S} {is : List I}
    (h : o ∈ outputs live step out s is) : ∃ s' i, i ∈ is ∧ o ∈ out s' i := by
  induction is generalizing s with
  | nil => cases h
  | cons i is ih =>
    by_cases hl : live s
    · rw [outputs_cons_of_live hl] at h
      rcases List.mem_append.1 h with h | h
      · exact ⟨s, i, List.mem_cons_self, h⟩
      · obtain ⟨s', j, hj, ho⟩ := ih h
        exact ⟨s', j, List.mem_cons_of_mem i hj, ho⟩
    · rw [outputs_of_not_live hl] at h
      cases h

/-! ### Inputs that change nothing -/

variable (live step) in
/-- Related states stay related when the second machine is spared the inputs that are not kept;
`P` is what is known of all inputs. -/
structure Hides (keep P : I → Prop) (R : S → S → Prop) : Prop where
  live_iff : ∀ s t, R s t → (live s ↔ live t)
  hidden : ∀ s t i, live s → R s t → P i → ¬keep i → R (step s i) t
  kept : ∀ s t i, live s → R s t → P i → keep i → R (step s i) (step t i)

namespace Hides

variable {keep P : I → Prop} [DecidablePred keep] {R : S → S → Prop} {s t : S} {is : List I}

/-- A run amounts to the inputs that may change something. -/
theorem exec_filter (h : Hides live step keep P R) (hst : R s t) (hP : ∀ i ∈ is, P i) :
    R (exec live step s is) (exec live step t (is.filter keep)) := by
  induction is generalizing s t with
  | nil => exact hst
  | cons i is ih =>
    obtain ⟨hi, his⟩ := List.forall_mem_cons.1 hP
    by_cases hl : live s
    · rw [exec_cons_of_live hl]
      by_cases hk : keep i
      · rw [List.filter_cons_of_pos (by simpa using hk),
          exec_cons_of_live ((h.live_iff s t hst).1 hl)]
        exact ih (h.kept s t i hl hst hi hk) his
      · rw [List.filter_cons_of_neg (by simpa using hk)]
        exact ih (h.hidden s t i hl hst hi hk) his
    · rw [exec_of_not_live hl, exec_of_not_live fun hl' ↦ hl ((h.live_iff s t hst).2 hl')]
      exact hst

/-- The inputs that are kept put out the same without the others. -/
theorem outputs_filter (h : Hides live step keep P R) {out' : S → I → List O}
    (hhidden : ∀ s t i, live s → R s t → P i → ¬keep i → out s i = [])
    (hkept : ∀ s t i, live s → R s t → P i → keep i → out s i = out' t i) (hst : R s t)
    (hP : ∀ i ∈ is, P i) :
    outputs live step out s is = outputs live step out' t (is.filter keep) := by
  induction is generalizing s t with
  | nil => rfl
  | cons i is ih =>
    obtain ⟨hi, his⟩ := List.forall_mem_cons.1 hP
    by_cases hl : live s
    · rw [outputs_cons_of_live hl]
      by_cases hk : keep i
      · rw [List.filter_cons_of_pos (by simpa using hk),
          outputs_cons_of_live ((h.live_iff s t hst).1 hl), hkept s t i hl hst hi hk,
          ih (h.kept s t i hl hst hi hk) his]
      · rw [List.filter_cons_of_neg (by simpa using hk), hhidden s t i hl hst hi hk,
          List.nil_append, ih (h.hidden s t i hl hst hi hk) his]
    · rw [outputs_of_not_live hl, outputs_of_not_live fun hl' ↦ hl ((h.live_iff s t hst).2 hl')]

end Hides

/-- A machine that reads part of its inputs. -/
theorem exec_map (f : K → I) (s : S) (ks : List K) :
    exec live (fun s k ↦ step s (f k)) s ks = exec live step s (ks.map f) := by
  induction ks generalizing s with
  | nil => rfl
  | cons k ks ih =>
    by_cases hl : live s
    · rw [exec_cons_of_live hl, List.map_cons, exec_cons_of_live hl, ih]
    · rw [exec_of_not_live hl, exec_of_not_live hl]

variable (live step live' step') in
/-- The first machine refines the second. -/
structure Refinement where
  /-- The states of which the refinement is known. -/
  inv : S → Prop
  /-- What a state stands for. -/
  abs : S → T
  /-- The inputs a step passes on. -/
  pass : S → I → List K
  inv_step : ∀ s i, live s → inv s → inv (step s i)
  abs_step : ∀ s i, live s → inv s → abs (step s i) = exec live' step' (abs s) (pass s i)

namespace Refinement

variable (R : Refinement live step live' step') {s : S}

/-- The inputs a run passes on. -/
def passed (s : S) (is : List I) : List K := outputs live step R.pass s is

theorem passed_cons_of_live (h : live s) (i : I) (is : List I) :
    R.passed s (i :: is) = R.pass s i ++ R.passed (step s i) is :=
  outputs_cons_of_live h i is

theorem passed_of_not_live (h : ¬live s) (is : List I) : R.passed s is = [] :=
  outputs_of_not_live h is

theorem inv_exec (h : R.inv s) (is : List I) : R.inv (exec live step s is) :=
  exec_invariant_of_all (fun s i hl ↦ R.inv_step s i hl) is s h

/-- **Runs correspond.** -/
theorem exec (h : R.inv s) (is : List I) :
    R.abs (exec live step s is) = Run.exec live' step' (R.abs s) (R.passed s is) := by
  induction is generalizing s with
  | nil => rfl
  | cons i is ih =>
    by_cases hl : live s
    · rw [exec_cons_of_live hl, ih (R.inv_step s i hl h), R.passed_cons_of_live hl, exec_append,
        R.abs_step s i hl h]
    · rw [exec_of_not_live hl, R.passed_of_not_live hl, exec_nil]

/-- **Outputs correspond** when they do for each step. -/
theorem outputs_eq {out' : T → K → List O} (h : R.inv s)
    (hout : ∀ s i, live s → R.inv s →
      out s i = outputs live' step' out' (R.abs s) (R.pass s i)) (is : List I) :
    outputs live step out s is = outputs live' step' out' (R.abs s) (R.passed s is) := by
  induction is generalizing s with
  | nil => rfl
  | cons i is ih =>
    by_cases hl : live s
    · rw [outputs_cons_of_live hl, hout s i hl h, ih (R.inv_step s i hl h),
        R.passed_cons_of_live hl, outputs_append, R.abs_step s i hl h]
    · rw [outputs_of_not_live hl, R.passed_of_not_live hl, outputs_nil]

end Refinement

end Effects.Run
