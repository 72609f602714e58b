import SaiAgent.Library.Procedure

/-!
# Procedures that call an adversarial environment

The environment is an **oracle**: a function answering each call from a private state `σ` it may
rewrite at will. Quantifying over `σ` and the oracle covers every behaviour, including answering the
same call differently when it is repeated. A world records the calls made and their answers, oldest
first.
-/

namespace Effects

/-- An environment: answers a call from its private state. -/
abbrev Oracle (C R σ : Type) := C → σ → R × σ

variable {S C R σ ε α β : Type}

/-- The environment that answers from a script, and with `last` once the script is over. -/
def Oracle.scripted (last : R) : Oracle C R (List R)
  | _, [] => (last, [])
  | _, r :: script => (r, script)

/-- A world in which calls are recorded. -/
structure OracleWorld (S C R σ : Type) where
  /-- The caller's own state. -/
  state : S
  /-- The environment's private state. -/
  env : σ
  /-- The calls made and their answers, oldest first. -/
  trace : List (C × R)

namespace OracleWorld

/-- The world after a call. -/
def asked (w : OracleWorld S C R σ) (E : Oracle C R σ) (c : C) : OracleWorld S C R σ :=
  { w with env := (E c w.env).2, trace := w.trace ++ [(c, (E c w.env).1)] }

/-- The world with the caller's state rewritten. -/
def mapState (w : OracleWorld S C R σ) (f : S → S) : OracleWorld S C R σ :=
  { w with state := f w.state }

variable (w : OracleWorld S C R σ) (E : Oracle C R σ) (c : C) (f : S → S)

@[simp] theorem asked_state : (w.asked E c).state = w.state := rfl

@[simp] theorem asked_env : (w.asked E c).env = (E c w.env).2 := rfl

@[simp] theorem asked_trace : (w.asked E c).trace = w.trace ++ [(c, (E c w.env).1)] := rfl

@[simp] theorem mapState_state : (w.mapState f).state = f w.state := rfl

@[simp] theorem mapState_env : (w.mapState f).env = w.env := rfl

@[simp] theorem mapState_trace : (w.mapState f).trace = w.trace := rfl

end OracleWorld

namespace Proc

/-- Call the environment. -/
def ask (E : Oracle C R σ) (c : C) : Proc (OracleWorld S C R σ) ε R :=
  fun w ↦ .ok (E c w.env).1 (w.asked E c)

/-- Read the caller's state. -/
def getState (f : S → α) : Proc (OracleWorld S C R σ) ε α := read fun w ↦ f w.state

/-- Rewrite the caller's state. -/
def modState (f : S → S) : Proc (OracleWorld S C R σ) ε Unit := change fun w ↦ w.mapState f

@[simp] theorem run_ask (E : Oracle C R σ) (c : C) (w : OracleWorld S C R σ) :
    EStateM.run (ask E c : Proc _ ε R) w = .ok (E c w.env).1 (w.asked E c) := rfl

@[simp] theorem run_getState (f : S → α) (w : OracleWorld S C R σ) :
    EStateM.run (getState f : Proc _ ε α) w = .ok (f w.state) w := rfl

@[simp] theorem run_modState (f : S → S) (w : OracleWorld S C R σ) :
    EStateM.run (modState f : Proc _ ε Unit) w = .ok () (w.mapState f) := rfl

/-- The run of a read is the run of what follows it. -/
theorem run_getState_bind (f : S → β) (k : β → Proc (OracleWorld S C R σ) ε α)
    (w : OracleWorld S C R σ) :
    EStateM.run (getState f >>= k) w = EStateM.run (k (f w.state)) w := rfl

/-- The run of a write is the run of what follows it. -/
theorem run_modState_bind (f : S → S) (k : Unit → Proc (OracleWorld S C R σ) ε α)
    (w : OracleWorld S C R σ) :
    EStateM.run (modState f >>= k) w = EStateM.run (k ()) (w.mapState f) := rfl

theorem Returns.ask {P : OracleWorld S C R σ → Prop} {E : Oracle C R σ} {c : C}
    {Q : R → OracleWorld S C R σ → Prop} (h : ∀ w, P w → Q (E c w.env).1 (w.asked E c)) :
    Returns P (ask E c : Proc _ ε R) Q :=
  fun w hw ↦ ⟨_, _, rfl, h w hw⟩

theorem Returns.getState {P : OracleWorld S C R σ → Prop} {f : S → α}
    {Q : α → OracleWorld S C R σ → Prop} (h : ∀ w, P w → Q (f w.state) w) :
    Returns P (getState f : Proc _ ε α) Q :=
  Returns.read h

theorem Returns.modState {P : OracleWorld S C R σ → Prop} {f : S → S}
    {Q : Unit → OracleWorld S C R σ → Prop} (h : ∀ w, P w → Q () (w.mapState f)) :
    Returns P (modState f : Proc _ ε Unit) Q :=
  Returns.change h

theorem FaultsIn.ask {P : ε → Prop} (E : Oracle C R σ) (c : C) :
    FaultsIn P (ask E c : Proc (OracleWorld S C R σ) ε R) :=
  fun _ _ _ h ↦ by cases h

theorem FaultsIn.getState {P : ε → Prop} (f : S → α) :
    FaultsIn P (getState f : Proc (OracleWorld S C R σ) ε α) :=
  FaultsIn.read _

theorem FaultsIn.modState {P : ε → Prop} (f : S → S) :
    FaultsIn P (modState f : Proc (OracleWorld S C R σ) ε Unit) :=
  FaultsIn.change _

/-- A call keeps whatever does not look at the environment or at this call in the trace. -/
theorem Keeps.ask {f : OracleWorld S C R σ → β} {E : Oracle C R σ} {c : C}
    (h : ∀ w, f (w.asked E c) = f w) : Keeps f (ask E c : Proc _ ε R) := h

theorem Keeps.getState {f : OracleWorld S C R σ → β} (g : S → α) :
    Keeps f (getState g : Proc _ ε α) :=
  Keeps.read _

theorem Keeps.modState {f : OracleWorld S C R σ → β} {g : S → S}
    (h : ∀ w, f (w.mapState g) = f w) : Keeps f (modState g : Proc _ ε Unit) :=
  Keeps.change h

end Proc

end Effects
