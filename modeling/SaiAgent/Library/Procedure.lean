import Mathlib.Logic.Basic

/-!
# Procedures that may stop with a fault

A procedure reads and rewrites a world `W`, returns a value, and may stop with a fault `ε`. It is
core's `EStateM`, whose result keeps the world also when the procedure faults, so what happened
before the fault stays visible.

Five judgements carry the results built on top:

* `Ensures P p Q` — partial correctness: from a world in `P`, whenever `p` returns, value and world
  satisfy `Q`. A fault promises nothing;
* `Returns P p Q` — total correctness: from a world in `P`, `p` returns, and value and world
  satisfy `Q`;
* `FaultsIn P p` — where `p` faults, the fault is in `P`;
* `Keeps f p` — the frame judgement: `p` leaves the observation `f` of the world as it was, also
  where it faults;
* `Preserves I p` — `p` leaves the invariant `I` as it found it, also where it faults.

The rules follow the structure of the program, so a fact about a long procedure is composed of the
facts about its steps; a frame carries every invariant over what it keeps (`Keeps.preserves`).
-/

namespace Effects

/-- A procedure over the world `W` with faults in `ε`. -/
abbrev Proc (W ε α : Type) := EStateM ε W α

variable {W ε α β γ : Type}

namespace Proc

/-- Replace the world by its image. -/
def change (f : W → W) : Proc W ε Unit := fun w ↦ .ok () (f w)

/-- Read an observation of the world. -/
def read (f : W → α) : Proc W ε α := fun w ↦ .ok (f w) w

/-- Stop with a fault. -/
def fault (e : ε) : Proc W ε α := fun w ↦ .error e w

/-- Run a computation that touches no world, keeping its fault. -/
def lift : Except ε α → Proc W ε α
  | .ok a => pure a
  | .error e => fault e

@[simp] theorem run_change (f : W → W) (w : W) :
    EStateM.run (change f : Proc W ε Unit) w = .ok () (f w) := rfl

@[simp] theorem run_read (f : W → α) (w : W) :
    EStateM.run (read f : Proc W ε α) w = .ok (f w) w := rfl

@[simp] theorem run_fault (e : ε) (w : W) :
    EStateM.run (fault e : Proc W ε α) w = .error e w := rfl

@[simp] theorem run_lift_ok (a : α) (w : W) :
    EStateM.run (lift (.ok a) : Proc W ε α) w = .ok a w := rfl

@[simp] theorem run_lift_error (e : ε) (w : W) :
    EStateM.run (lift (.error e) : Proc W ε α) w = .error e w := rfl

/-- The world a run leaves, also where it faults. -/
def worldOf : EStateM.Result ε W α → W
  | .ok _ w => w
  | .error _ w => w

/-- What a run returns. -/
def valueOf : EStateM.Result ε W α → Except ε α
  | .ok a _ => .ok a
  | .error e _ => .error e

@[simp] theorem worldOf_ok (a : α) (w : W) : worldOf (.ok a w : EStateM.Result ε W α) = w := rfl

@[simp] theorem worldOf_error (e : ε) (w : W) :
    worldOf (.error e w : EStateM.Result ε W α) = w := rfl

@[simp] theorem valueOf_ok (a : α) (w : W) : valueOf (.ok a w : EStateM.Result ε W α) = .ok a := rfl

@[simp] theorem valueOf_error (e : ε) (w : W) :
    valueOf (.error e w : EStateM.Result ε W α) = .error e := rfl

/-- A bind returns exactly when both of its parts do. -/
theorem run_bind_eq_ok {p : Proc W ε α} {f : α → Proc W ε β} {w w' : W} {b : β} :
    EStateM.run (p >>= f) w = .ok b w' ↔
      ∃ a w₁, EStateM.run p w = .ok a w₁ ∧ EStateM.run (f a) w₁ = .ok b w' := by
  rw [EStateM.run_bind]
  cases EStateM.run p w with
  | ok a w₁ =>
    constructor
    · intro h
      exact ⟨a, w₁, rfl, h⟩
    · rintro ⟨a', w₁', h, hf⟩
      cases h
      exact hf
  | error e w₁ => simp

/-! ### Partial correctness -/

/-- From a world in `P`, whenever `p` returns, its value and the world it leaves satisfy `Q`. -/
def Ensures (P : W → Prop) (p : Proc W ε α) (Q : α → W → Prop) : Prop :=
  ∀ w, P w → ∀ a w', EStateM.run p w = .ok a w' → Q a w'

theorem Ensures.pure {P : W → Prop} {Q : α → W → Prop} {a : α} (h : ∀ w, P w → Q a w) :
    Ensures P (pure a : Proc W ε α) Q := by
  intro w hw b w' hr
  cases hr
  exact h w hw

theorem Ensures.fault {P : W → Prop} {Q : α → W → Prop} (e : ε) :
    Ensures P (fault e : Proc W ε α) Q := by
  intro w _ a w' hr
  cases hr

/-- **Sequencing.** The midcondition is what the first part ensures. -/
theorem Ensures.bind {P : W → Prop} {p : Proc W ε α} {f : α → Proc W ε β}
    {R : α → W → Prop} {Q : β → W → Prop} (hp : Ensures P p R)
    (hf : ∀ a, Ensures (R a) (f a) Q) : Ensures P (p >>= f) Q := by
  intro w hw b w' hr
  obtain ⟨a, w₁, h₁, h₂⟩ := run_bind_eq_ok.1 hr
  exact hf a w₁ (hp w hw a w₁ h₁) b w' h₂

theorem Ensures.change {P : W → Prop} {g : W → W} {Q : Unit → W → Prop}
    (h : ∀ w, P w → Q () (g w)) : Ensures P (change g : Proc W ε Unit) Q := by
  intro w hw b w' hr
  cases hr
  exact h w hw

theorem Ensures.read {P : W → Prop} {g : W → α} {Q : α → W → Prop}
    (h : ∀ w, P w → Q (g w) w) : Ensures P (read g : Proc W ε α) Q := by
  intro w hw b w' hr
  cases hr
  exact h w hw

theorem Ensures.ite {P : W → Prop} {c : Prop} [Decidable c] {p q : Proc W ε α}
    {Q : α → W → Prop} (hp : c → Ensures P p Q) (hq : ¬c → Ensures P q Q) :
    Ensures P (if c then p else q) Q := by
  by_cases hc : c
  · rw [if_pos hc]
    exact hp hc
  · rw [if_neg hc]
    exact hq hc

theorem Ensures.lift {P : W → Prop} {x : Except ε α} {Q : α → W → Prop}
    (h : ∀ a, x = .ok a → ∀ w, P w → Q a w) : Ensures P (lift x : Proc W ε α) Q := by
  cases x with
  | ok a => exact Ensures.pure (h a rfl)
  | error e => exact Ensures.fault e

/-- Nothing is promised of a procedure one knows nothing about. -/
theorem Ensures.trivial {P : W → Prop} {p : Proc W ε α} : Ensures P p fun _ _ ↦ True :=
  fun _ _ _ _ _ ↦ True.intro

/-- Weaken on both sides. -/
theorem Ensures.mono {P P' : W → Prop} {p : Proc W ε α} {Q Q' : α → W → Prop}
    (h : Ensures P p Q) (hP : ∀ w, P' w → P w) (hQ : ∀ a w, Q a w → Q' a w) :
    Ensures P' p Q' :=
  fun w hw a w' hr ↦ hQ a w' (h w (hP w hw) a w' hr)

/-! ### Total correctness -/

/-- From a world in `P`, `p` returns, and its value and the world it leaves satisfy `Q`. -/
def Returns (P : W → Prop) (p : Proc W ε α) (Q : α → W → Prop) : Prop :=
  ∀ w, P w → ∃ a w', EStateM.run p w = .ok a w' ∧ Q a w'

theorem Returns.pure {P : W → Prop} {Q : α → W → Prop} {a : α} (h : ∀ w, P w → Q a w) :
    Returns P (pure a : Proc W ε α) Q :=
  fun w hw ↦ ⟨a, w, rfl, h w hw⟩

theorem Returns.change {P : W → Prop} {g : W → W} {Q : Unit → W → Prop}
    (h : ∀ w, P w → Q () (g w)) : Returns P (change g : Proc W ε Unit) Q :=
  fun w hw ↦ ⟨(), g w, rfl, h w hw⟩

theorem Returns.read {P : W → Prop} {g : W → α} {Q : α → W → Prop}
    (h : ∀ w, P w → Q (g w) w) : Returns P (read g : Proc W ε α) Q :=
  fun w hw ↦ ⟨g w, w, rfl, h w hw⟩

theorem Returns.lift {P : W → Prop} {a : α} {x : Except ε α} {Q : α → W → Prop} (hx : x = .ok a)
    (h : ∀ w, P w → Q a w) : Returns P (lift x : Proc W ε α) Q := by
  subst hx
  exact Returns.pure h

/-- **Sequencing.** The midcondition is what the first part establishes. -/
theorem Returns.bind {P : W → Prop} {p : Proc W ε α} {f : α → Proc W ε β}
    {R : α → W → Prop} {Q : β → W → Prop} (hp : Returns P p R)
    (hf : ∀ a, Returns (R a) (f a) Q) : Returns P (p >>= f) Q := by
  intro w hw
  obtain ⟨a, w₁, h₁, hr⟩ := hp w hw
  obtain ⟨b, w', h₂, hq⟩ := hf a w₁ hr
  exact ⟨b, w', run_bind_eq_ok.2 ⟨a, w₁, h₁, h₂⟩, hq⟩

theorem Returns.ite {P : W → Prop} {c : Prop} [Decidable c] {p q : Proc W ε α}
    {Q : α → W → Prop} (hp : c → Returns P p Q) (hq : ¬c → Returns P q Q) :
    Returns P (if c then p else q) Q := by
  by_cases hc : c
  · rw [if_pos hc]
    exact hp hc
  · rw [if_neg hc]
    exact hq hc

/-- Weaken on both sides. -/
theorem Returns.mono {P P' : W → Prop} {p : Proc W ε α} {Q Q' : α → W → Prop}
    (h : Returns P p Q) (hP : ∀ w, P' w → P w) (hQ : ∀ a w, Q a w → Q' a w) :
    Returns P' p Q' := by
  intro w hw
  obtain ⟨a, w', hr, hq⟩ := h w (hP w hw)
  exact ⟨a, w', hr, hQ a w' hq⟩

/-! ### Faults -/

/-- Where `p` faults, the fault is in `P`. -/
def FaultsIn (P : ε → Prop) (p : Proc W ε α) : Prop :=
  ∀ w e w', EStateM.run p w = .error e w' → P e

section FaultsIn

variable {P : ε → Prop}

theorem FaultsIn.pure (a : α) : FaultsIn P (pure a : Proc W ε α) :=
  fun _ _ _ h ↦ by cases h

theorem FaultsIn.fault {e : ε} (h : P e) : FaultsIn P (fault e : Proc W ε α) :=
  fun _ _ _ hrun ↦ by cases hrun; exact h

theorem FaultsIn.read (g : W → α) : FaultsIn P (read g : Proc W ε α) :=
  fun _ _ _ h ↦ by cases h

theorem FaultsIn.change (g : W → W) : FaultsIn P (change g : Proc W ε Unit) :=
  fun _ _ _ h ↦ by cases h

theorem FaultsIn.lift {x : Except ε α} (h : ∀ e, x = .error e → P e) :
    FaultsIn P (lift x : Proc W ε α) := by
  cases x with
  | ok a => exact FaultsIn.pure a
  | error e => exact FaultsIn.fault (h e rfl)

theorem FaultsIn.bind {p : Proc W ε α} {f : α → Proc W ε β} (hp : FaultsIn P p)
    (hf : ∀ a, FaultsIn P (f a)) : FaultsIn P (p >>= f) := by
  intro w e w' h
  rw [EStateM.run_bind] at h
  rcases hr : EStateM.run p w with ⟨a, w₁⟩ | ⟨e₁, w₁⟩
  · rw [hr] at h
    exact hf a w₁ e w' h
  · rw [hr] at h
    cases h
    exact hp w e w' hr

theorem FaultsIn.ite {c : Prop} [Decidable c] {p q : Proc W ε α} (hp : FaultsIn P p)
    (hq : FaultsIn P q) : FaultsIn P (if c then p else q) := by
  by_cases hc : c
  · rw [if_pos hc]
    exact hp
  · rw [if_neg hc]
    exact hq

/-- What always returns has no faults. -/
theorem Returns.faultsIn {p : Proc W ε α} {Q : α → W → Prop} (h : Returns (fun _ ↦ True) p Q) :
    FaultsIn P p := by
  intro w e w' hrun
  obtain ⟨a, w₁, hret, -⟩ := h w trivial
  cases hret.symm.trans hrun

end FaultsIn

/-! ### Frames -/

/-- However `p` ends, the observation `f` of the world is what it was. -/
def Keeps (f : W → γ) (p : Proc W ε α) : Prop := ∀ w, f (worldOf (EStateM.run p w)) = f w

variable {f : W → γ}

/-- The frame of a run that returned. -/
theorem Keeps.eq_of_ok {p : Proc W ε α} (h : Keeps f p) {w w' : W} {a : α}
    (hr : EStateM.run p w = .ok a w') : f w' = f w := by
  have := h w
  rwa [hr] at this

theorem Keeps.pure (a : α) : Keeps f (pure a : Proc W ε α) := fun _ ↦ rfl

theorem Keeps.fault (e : ε) : Keeps f (fault e : Proc W ε α) := fun _ ↦ rfl

theorem Keeps.read (g : W → α) : Keeps f (read g : Proc W ε α) := fun _ ↦ rfl

theorem Keeps.change {g : W → W} (h : ∀ w, f (g w) = f w) :
    Keeps f (change g : Proc W ε Unit) := h

theorem Keeps.lift (x : Except ε α) : Keeps f (lift x : Proc W ε α) := by
  cases x with
  | ok a => exact Keeps.pure a
  | error e => exact Keeps.fault e

theorem Keeps.bind {p : Proc W ε α} {q : α → Proc W ε β} (hp : Keeps f p)
    (hq : ∀ a, Keeps f (q a)) : Keeps f (p >>= q) := by
  intro w
  have hw := hp w
  rw [EStateM.run_bind]
  cases hr : EStateM.run p w with
  | ok a w₁ =>
    rw [hr] at hw
    exact (hq a w₁).trans hw
  | error e w₁ =>
    rw [hr] at hw
    exact hw

theorem Keeps.ite {c : Prop} [Decidable c] {p q : Proc W ε α} (hp : Keeps f p)
    (hq : Keeps f q) : Keeps f (if c then p else q) := by
  by_cases hc : c
  · rw [if_pos hc]
    exact hp
  · rw [if_neg hc]
    exact hq

/-- What comes after keeps the observation: it is as `p` leaves it. -/
theorem worldOf_bind_of_keeps {p : Proc W ε α} {q : α → Proc W ε β} (hq : ∀ a, Keeps f (q a))
    (w : W) : f (worldOf (EStateM.run (p >>= q) w)) = f (worldOf (EStateM.run p w)) := by
  rw [EStateM.run_bind]
  rcases EStateM.run p w with ⟨a, w₁⟩ | ⟨e, w₁⟩
  · exact hq a w₁
  · rfl

/-! ### Invariants -/

/-- However `p` ends, it leaves the invariant as it found it. -/
def Preserves (I : W → Prop) (p : Proc W ε α) : Prop := ∀ w, I w → I (worldOf (EStateM.run p w))

variable {I : W → Prop}

theorem Preserves.pure (a : α) : Preserves I (pure a : Proc W ε α) := fun _ h ↦ h

theorem Preserves.fault (e : ε) : Preserves I (fault e : Proc W ε α) := fun _ h ↦ h

theorem Preserves.change {g : W → W} (h : ∀ w, I w → I (g w)) :
    Preserves I (change g : Proc W ε Unit) := h

theorem Preserves.bind {p : Proc W ε α} {q : α → Proc W ε β} (hp : Preserves I p)
    (hq : ∀ a, Preserves I (q a)) : Preserves I (p >>= q) := by
  intro w hw
  have h₁ := hp w hw
  rw [EStateM.run_bind]
  rcases hr : EStateM.run p w with ⟨a, w₁⟩ | ⟨e, w₁⟩
  · rw [hr] at h₁
    exact hq a w₁ h₁
  · rw [hr] at h₁
    exact h₁

theorem Preserves.ite {c : Prop} [Decidable c] {p q : Proc W ε α} (hp : Preserves I p)
    (hq : Preserves I q) : Preserves I (if c then p else q) := by
  by_cases hc : c
  · rw [if_pos hc]
    exact hp
  · rw [if_neg hc]
    exact hq

/-- A frame carries any invariant that reads the kept observation only. -/
theorem Keeps.preserves {p : Proc W ε α} (h : Keeps f p) (J : γ → Prop) :
    Preserves (fun w ↦ J (f w)) p := by
  intro w hw
  show J (f (worldOf (EStateM.run p w)))
  rw [h w]
  exact hw

end Proc

end Effects
