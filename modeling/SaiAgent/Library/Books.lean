import SaiAgent.Library.Oracle
import Mathlib.Data.List.Induction
import Mathlib.Data.Multiset.AddSub

/-!
# Handles that are acquired and given back

The calls of a run are booked: each uses, acquires or releases handles (`Dealing`), and the `books`
hold what was acquired and not released yet. They are closed for good by a call that uses or
releases a handle they do not hold. Nothing is assumed about the handles an environment gives out;
one that is given out twice is held twice.

The judgement `Ends P p Q F` is for both ends of a procedure: from a world in `P`, value and world
satisfy `Q` where it returns, and the world satisfies `F` where it faults.
-/

namespace Effects

variable {H S C R σ ε α β W : Type}

/-! ### Both ends of a procedure -/

namespace Proc

/-- From a world in `P`, `p` returns with `Q` or faults with `F`. -/
def Ends (P : W → Prop) (p : Proc W ε α) (Q : α → W → Prop) (F : ε → W → Prop) : Prop :=
  ∀ w, P w → match EStateM.run p w with
    | .ok a w' => Q a w'
    | .error e w' => F e w'

variable {P : W → Prop} {Q : α → W → Prop} {F : ε → W → Prop}

theorem Ends.pure {a : α} (h : ∀ w, P w → Q a w) : Ends P (pure a : Proc W ε α) Q F := h

theorem Ends.fault {e : ε} (h : ∀ w, P w → F e w) : Ends P (fault e : Proc W ε α) Q F := h

/-- **Sequencing.** The midcondition is what the first part returns with. -/
theorem Ends.bind {p : Proc W ε α} {f : α → Proc W ε β} {M : α → W → Prop} {Q : β → W → Prop}
    (hp : Ends P p M F) (hf : ∀ a, Ends (M a) (f a) Q F) : Ends P (p >>= f) Q F := by
  intro w hw
  have hmid := hp w hw
  rw [EStateM.run_bind]
  rcases hr : EStateM.run p w with ⟨a, w₁⟩ | ⟨e, w₁⟩
  · rw [hr] at hmid
    exact hf a w₁ hmid
  · rw [hr] at hmid
    exact hmid

theorem Ends.ite {c : Prop} [Decidable c] {p q : Proc W ε α} (hp : c → Ends P p Q F)
    (hq : ¬c → Ends P q Q F) : Ends P (if c then p else q) Q F := by
  by_cases hc : c
  · rw [if_pos hc]
    exact hp hc
  · rw [if_neg hc]
    exact hq hc

theorem Ends.read {g : W → α} (h : ∀ w, P w → Q (g w) w) :
    Ends P (read g : Proc W ε α) Q F := h

theorem Ends.change {g : W → W} {Q : Unit → W → Prop} (h : ∀ w, P w → Q () (g w)) :
    Ends P (change g : Proc W ε Unit) Q F := h

theorem Ends.ask {P : OracleWorld S C R σ → Prop} {E : Oracle C R σ} {c : C}
    {Q : R → OracleWorld S C R σ → Prop} {F : ε → OracleWorld S C R σ → Prop}
    (h : ∀ w, P w → Q (E c w.env).1 (w.asked E c)) : Ends P (ask E c : Proc _ ε R) Q F := h

/-- Weaken on all sides. -/
theorem Ends.mono {P' : W → Prop} {p : Proc W ε α} {Q' : α → W → Prop} {F' : ε → W → Prop}
    (h : Ends P p Q F) (hP : ∀ w, P' w → P w) (hQ : ∀ a w, Q a w → Q' a w)
    (hF : ∀ e w, F e w → F' e w) : Ends P' p Q' F' := by
  intro w hw
  have hends := h w (hP w hw)
  rcases hr : EStateM.run p w with ⟨a, w'⟩ | ⟨e, w'⟩
  · rw [hr] at hends
    exact hQ a w' hends
  · rw [hr] at hends
    exact hF e w' hends

/-- A precondition that is known where the procedure starts may be used. -/
theorem Ends.of_forall {p : Proc W ε α} (h : ∀ w₀, P w₀ → Ends (fun w ↦ w = w₀) p Q F) :
    Ends P p Q F :=
  fun w hw ↦ h w hw w rfl

/-- From a known world that meets the precondition. -/
theorem Ends.known {p : Proc W ε α} {w₀ : W} (h : Ends P p Q F) (hw₀ : P w₀) :
    Ends (fun w ↦ w = w₀) p Q F :=
  h.mono (fun _ hw ↦ hw ▸ hw₀) (fun _ _ hw ↦ hw) fun _ _ hw ↦ hw

end Proc

/-! ### Books -/

/-- What a call means for the handles. -/
inductive Dealing (H : Type) where
  | uses (hs : List H)
  | acquires (h : H)
  | releases (h : H)
  deriving DecidableEq

/-- The handles a call must find held. -/
def Dealing.needs : Dealing H → List H
  | .uses hs => hs
  | .acquires _ => []
  | .releases h => [h]

variable [DecidableEq H]

/-- How often a handle was acquired. -/
def acquired (deal : C × R → Dealing H) (h : H) (t : List (C × R)) : ℕ :=
  t.countP fun e ↦ deal e = .acquires h

/-- How often a handle was released. -/
def released (deal : C × R → Dealing H) (h : H) (t : List (C × R)) : ℕ :=
  t.countP fun e ↦ deal e = .releases h

/-- Every call found what it needs: a handle acquired more often than released before it. -/
def InOrder (deal : C × R → Dealing H) (t : List (C × R)) : Prop :=
  ∀ t₁ e t₂, t = t₁ ++ e :: t₂ → ∀ h ∈ (deal e).needs, released deal h t₁ < acquired deal h t₁

/-- What is held after a call that found what it needs. -/
def Dealing.change : Dealing H → Multiset H → Multiset H
  | .uses _, held => held
  | .acquires h, held => h ::ₘ held
  | .releases h, held => held.erase h

/-- What is held after a call; the books are closed by one that does not find what it needs. -/
def Dealing.settle (d : Dealing H) (held : Multiset H) : Option (Multiset H) :=
  if ∀ h ∈ d.needs, h ∈ held then some (d.change held) else none

/-- What is held after these calls. -/
def books (deal : C × R → Dealing H) (t : List (C × R)) : Option (Multiset H) :=
  t.foldl (fun held e ↦ held.bind (deal e).settle) (some 0)

variable {deal : C × R → Dealing H} {t : List (C × R)} {e : C × R} {held : Multiset H} {h : H}

@[simp] theorem books_nil : books deal [] = some 0 := rfl

theorem books_concat : books deal (t ++ [e]) = (books deal t).bind (deal e).settle := by
  rw [books, List.foldl_append]
  rfl

theorem books_uses (ht : books deal t = some held) {hs : List H} (he : deal e = .uses hs)
    (hmem : ∀ h ∈ hs, h ∈ held) : books deal (t ++ [e]) = some held := by
  rw [books_concat, ht, Option.bind_some, he]
  exact if_pos hmem

theorem books_acquires (ht : books deal t = some held) (he : deal e = .acquires h) :
    books deal (t ++ [e]) = some (h ::ₘ held) := by
  rw [books_concat, ht, Option.bind_some, he]
  exact if_pos fun _ h ↦ by cases h

theorem books_releases (ht : books deal t = some (h ::ₘ held)) (he : deal e = .releases h) :
    books deal (t ++ [e]) = some held := by
  have hneeds : ∀ h' ∈ (Dealing.releases h).needs, h' ∈ h ::ₘ held := by
    intro h' hh'
    rw [List.mem_singleton.1 hh']
    exact Multiset.mem_cons_self h held
  rw [books_concat, ht, Option.bind_some, he, Dealing.settle, if_pos hneeds]
  exact congrArg some (Multiset.erase_cons_head h held)

/-! ### What the books say -/

/-- The last call found what it needs. -/
theorem exists_of_books_concat (h : books deal (t ++ [e]) = some held) :
    ∃ before, books deal t = some before ∧ (∀ h ∈ (deal e).needs, h ∈ before) ∧
      (deal e).change before = held := by
  rw [books_concat, Option.bind_eq_some_iff] at h
  obtain ⟨before, ht, hsettle⟩ := h
  obtain ⟨hneeds, hheld⟩ := Option.ite_none_right_eq_some.1 hsettle
  exact ⟨before, ht, hneeds, Option.some.inj hheld⟩

/-- What one call changes. -/
theorem count_change {d : Dealing H} (hneeds : ∀ h ∈ d.needs, h ∈ held) (h : H) :
    (d.change held).count h + (if d = .releases h then 1 else 0) =
      held.count h + (if d = .acquires h then 1 else 0) := by
  cases d with
  | uses hs => simp [Dealing.change]
  | acquires h' =>
    by_cases hh : h' = h
    · subst hh
      simp [Dealing.change]
    · simp [Dealing.change, hh, Multiset.count_cons_of_ne (Ne.symm hh)]
  | releases h' =>
    by_cases hh : h' = h
    · subst hh
      have hpos := Multiset.count_pos.2 (hneeds h' (List.mem_singleton.2 rfl))
      simp only [Dealing.change, Multiset.count_erase_self, if_true, reduceCtorEq, if_false]
      omega
    · simp [Dealing.change, hh, Multiset.count_erase_of_ne (Ne.symm hh)]

/-- **The books count.** Open books hold what was acquired and not released. -/
theorem count_books (h : H) : ∀ {t : List (C × R)} {held : Multiset H},
    books deal t = some held → acquired deal h t = released deal h t + held.count h := by
  intro t
  induction t using List.reverseRecOn with
  | nil =>
    intro held ht
    obtain rfl := Option.some.inj ht
    rfl
  | append_singleton t e ih =>
    intro held ht
    obtain ⟨before, hbefore, hneeds, rfl⟩ := exists_of_books_concat ht
    have hcount := count_change hneeds h
    have hrest := ih hbefore
    rw [acquired, released, List.countP_append, List.countP_append, List.countP_singleton,
      List.countP_singleton]
    rw [acquired, released] at hrest
    simp only [decide_eq_true_eq]
    omega

/-- **Open books are in order.** -/
theorem inOrder_of_books (h : (books deal t).isSome) : InOrder deal t := by
  induction t using List.reverseRecOn with
  | nil =>
    intro t₁ e t₂ ht
    cases t₁ <;> cases ht
  | append_singleton t e ih =>
    obtain ⟨held, hheld⟩ := Option.isSome_iff_exists.1 h
    obtain ⟨before, hbefore, hneeds, -⟩ := exists_of_books_concat hheld
    intro t₁ e' t₂ ht h' hh'
    rcases t₂.eq_nil_or_concat with rfl | ⟨t₂, e₂, rfl⟩
    · obtain ⟨rfl, he⟩ := List.append_inj' ht rfl
      cases he
      have hcount := count_books h' hbefore
      have hpos := Multiset.count_pos.2 (hneeds h' hh')
      omega
    · rw [List.concat_eq_append, ← List.cons_append, ← List.append_assoc] at ht
      exact ih (hbefore ▸ rfl) t₁ e' t₂ (List.append_inj' ht rfl).1 h' hh'

end Effects
