import SaiAgent.Library.Refinement

/-!
# Independent requests

A machine reacts to a request with an answer and a new state. Two requests are *independent* in a
state when they may be exchanged there: each is answered alike in either order, and the state in the
end is the same. Where requests under different keys are independent, only the order under each key
matters (`react_eq_of_filter_eq`): two sequences that agree key by key lead to the same state, and
each key sees the same answers.
-/

namespace Effects.Independence

open Run

variable {S A O K : Type} (react : S → A → O × S)

/-- The state after these requests. -/
def final (s : S) (as : List A) : S := exec (fun _ ↦ True) (fun s a ↦ (react s a).2) s as

/-- The requests with their answers. -/
def dialogue (s : S) (as : List A) : List (A × O) :=
  outputs (fun _ ↦ True) (fun s a ↦ (react s a).2) (fun s a ↦ [(a, (react s a).1)]) s as

theorem final_cons (s : S) (a : A) (as : List A) :
    final react s (a :: as) = final react (react s a).2 as :=
  exec_cons_of_live trivial a as

theorem dialogue_cons (s : S) (a : A) (as : List A) :
    dialogue react s (a :: as) = (a, (react s a).1) :: dialogue react (react s a).2 as :=
  outputs_cons_of_live trivial a as

/-- The requests may be exchanged in this state. -/
structure Independent (s : S) (a b : A) : Prop where
  first : (react s a).1 = (react (react s b).2 a).1
  second : (react (react s a).2 b).1 = (react s b).1
  final : (react (react s a).2 b).2 = (react (react s b).2 a).2

variable {react} [DecidableEq K] (key : A → K)

/-- What is under the key. -/
def under (k : K) (as : List A) : List A := as.filter fun a ↦ key a = k

/-- The dialogue under the key. -/
def dialogueUnder (k : K) (d : List (A × O)) : List (A × O) := d.filter fun e ↦ key e.1 = k

variable {key} {P : A → Prop} {k : K} {s : S} {a : A}

theorem under_cons_of_eq (h : key a = k) (as : List A) :
    under key k (a :: as) = a :: under key k as :=
  List.filter_cons_of_pos (decide_eq_true h)

theorem under_cons_of_ne (h : key a ≠ k) (as : List A) : under key k (a :: as) = under key k as :=
  List.filter_cons_of_neg (by simpa using h)

theorem under_append (as bs : List A) : under key k (as ++ bs) = under key k as ++ under key k bs :=
  List.filter_append ..

/-- **A request that is independent of all before it** might as well have come first. -/
theorem react_move (hind : ∀ s a b, P a → P b → key a ≠ key b → Independent react s a b)
    {bs : List A} (ha : P a) : ∀ (as : List A) (s : S), (∀ b ∈ as, P b ∧ key b ≠ key a) →
      final react s (as ++ a :: bs) = final react s (a :: (as ++ bs)) ∧
        ∀ k, dialogueUnder key k (dialogue react s (as ++ a :: bs)) =
          dialogueUnder key k (dialogue react s (a :: (as ++ bs)))
  | [], _, _ => ⟨rfl, fun _ ↦ rfl⟩
  | b :: as, s, h => by
    obtain ⟨hb, has⟩ := List.forall_mem_cons.1 h
    obtain ⟨hfinal, hdialogue⟩ := react_move hind ha as (react s b).2 has
    have hi := hind s b a hb.1 ha hb.2
    constructor
    · rw [List.cons_append, final_cons, hfinal, final_cons, final_cons, List.cons_append,
        final_cons, hi.final]
    · intro k
      have hd := hdialogue k
      simp only [List.cons_append, dialogue_cons, dialogueUnder, List.filter_cons] at hd ⊢
      rw [hd, hi.first, hi.second, hi.final]
      -- At most one of the two requests is under the key, so their order is not seen.
      by_cases hbk : key b = k
      · have hak : key a ≠ k := fun hak ↦ hb.2 (hbk.trans hak.symm)
        simp [hbk, hak]
      · simp [hbk]

/-- **Only the order under each key matters.** -/
theorem react_eq_of_filter_eq
    (hind : ∀ s a b, P a → P b → key a ≠ key b → Independent react s a b) :
    ∀ (as bs : List A) (s : S), (∀ a ∈ as, P a) → (∀ b ∈ bs, P b) →
      (∀ k, under key k as = under key k bs) →
        final react s as = final react s bs ∧
          ∀ k, dialogueUnder key k (dialogue react s as) =
            dialogueUnder key k (dialogue react s bs)
  | [], bs, s, _, _, h => by
    have hnil : bs = [] := by
      rcases bs with _ | ⟨b, bs⟩
      · rfl
      · have hb := h (key b)
        rw [under_cons_of_eq rfl] at hb
        cases hb
    rw [hnil]
    exact ⟨rfl, fun _ ↦ rfl⟩
  | a :: as, bs, s, has, hbs, h => by
    -- The first request under its key in `bs` is `a`, and may be moved to the front.
    have ha := h (key a)
    rw [under_cons_of_eq rfl] at ha
    obtain ⟨bs₁, bs₂, rfl, hne, -, -⟩ := List.filter_eq_cons_iff.1 ha.symm
    have hfront : ∀ b ∈ bs₁, P b ∧ key b ≠ key a := fun b hb ↦
      ⟨hbs b (List.mem_append_left _ hb), by simpa using hne b hb⟩
    obtain ⟨hfinal, hdialogue⟩ :=
      react_move hind (has a List.mem_cons_self) bs₁ s hfront
    have hrest : ∀ k, under key k as = under key k (bs₁ ++ bs₂) := by
      intro k
      have hk := h k
      rw [under_append] at hk ⊢
      by_cases hak : key a = k
      · have hnil : under key k bs₁ = [] :=
          List.filter_eq_nil_iff.2 fun b hb ↦ by simpa [← hak] using (hfront b hb).2
        rw [under_cons_of_eq hak, under_cons_of_eq hak, hnil] at hk
        rw [hnil]
        exact (List.cons.inj hk).2
      · rwa [under_cons_of_ne hak, under_cons_of_ne hak] at hk
    have hP : ∀ b ∈ bs₁ ++ bs₂, P b := by
      intro b hb
      rcases List.mem_append.1 hb with hb | hb
      · exact hbs b (List.mem_append_left _ hb)
      · exact hbs b (List.mem_append_right _ (List.mem_cons_of_mem _ hb))
    obtain ⟨hfinal', hdialogue'⟩ := react_eq_of_filter_eq hind as (bs₁ ++ bs₂) (react s a).2
      (fun b hb ↦ has b (List.mem_cons_of_mem _ hb)) hP hrest
    refine ⟨?_, fun k ↦ ?_⟩
    · rw [hfinal, final_cons, final_cons]
      exact hfinal'
    · rw [hdialogue k]
      have hd := hdialogue' k
      simp only [dialogue_cons, dialogueUnder, List.filter_cons] at hd ⊢
      rw [hd]

end Effects.Independence
