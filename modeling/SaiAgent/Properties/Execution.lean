import SaiAgent.Library.Plan
import SaiAgent.Model.Switch

/-!
# Executing plans through `SAI_RET_ERR`

The abstract view of an operation of the agent: a plan of SAI calls, abandoned at the first one
that is refused. The C functions execute such plans with one peculiarity: a refused call that
`SAI_RET_ERR` wraps is made once more (`retried`), and the answer of the repetition is what the
function returns. `Executes` says that a function does just that; its rules follow the shapes the C
functions are built from: a call wrapped in the macro, a call whose status is tested by hand, a
final `return`.
-/

namespace SaiAgent

open Effects Effects.Proc Effects.Plan

variable {σ A α β : Type} {E : SaiBackend σ} {rt : Runtime} {w : World σ}

/-! ### Plans over SAI -/

/-- Where a plan leads. -/
inductive Verdict where
  /-- The operation was carried out. -/
  | complete
  /-- The agent gives up for a reason of its own. -/
  | failed
  /-- The program runs into undefined behaviour. -/
  | stuck
  deriving DecidableEq, Repr

/-- The calls an operation intends to make. -/
abbrev SaiPlan := Plan SaiCall SaiResp Verdict

/-- The calls `SAI_RET_ERR` wraps, as they are when it repeats them: a `get` passes the
attribute array its first evaluation left. -/
def retried : SaiCall → SaiResp → Option SaiCall
  | .saiApiQuery api, _ => some (.saiApiQuery api)
  | .getSwitchAttribute o n _, r => some (.getSwitchAttribute o n r.attr)
  | .setSwitchAttribute o a, _ => some (.setSwitchAttribute o a)
  | .getBridgeAttribute o n _, r => some (.getBridgeAttribute o n r.attr)
  | .setBridgePortAttribute o a, _ => some (.setBridgePortAttribute o a)
  | .getVlanAttribute o n _, r => some (.getVlanAttribute o n r.attr)
  | .setPortAttribute o a, _ => some (.setPortAttribute o a)
  | _, _ => none

/-- More entries are stored than an object-id array has, in the room the attribute array
announces. -/
def Overlong (attr : List SaiAttribute) (r : SaiResp) : Prop :=
  64 < (r.list.take (attrValue attr 0).getCount.toNat).length

/-- A repeated list query that overruns its array: the room it announces is the length the first
evaluation stored. -/
def Overruns : SaiCall → SaiResp → Prop
  | .getSwitchAttribute _ _ attr, r => Overlong attr r
  | .getBridgeAttribute _ _ attr, r => Overlong attr r
  | .getVlanAttribute _ _ attr, r => Overlong attr r
  | _, _ => False

/-- How the C function answers for the way its plan was executed; after a repetition, the answer of
the repetition decides. Undefined behaviour has no answer. -/
def settled : Outcome SaiCall SaiResp Verdict → Option Bool
  | .finished .complete => some true
  | .finished .failed => some false
  | .finished .stuck => none
  | .refused _ _ => some false
  | .repeated _ r => some r.ok

/-- The execution runs into undefined behaviour; `overrun` says which repetitions do. -/
def Crashes (overrun : SaiCall → SaiResp → Prop) : Outcome SaiCall SaiResp Verdict → Prop
  | .finished .stuck => True
  | .repeated c r => overrun c r
  | _ => False

/-- The result fits the way the plan was executed: `good` where the C function answers
success, `bad` where it answers failure, a fault where the execution crashes. -/
def Carries (overrun : SaiCall → SaiResp → Prop) (good bad : α → Prop)
    (o : Outcome SaiCall SaiResp Verdict) : Except Fault α → Prop
  | .ok a => ¬Crashes overrun o ∧ ((settled o = some true ∧ good a) ∨
    (settled o = some false ∧ bad a))
  | .error _ => Crashes overrun o

/-- The procedure executes the plan the way `SAI_RET_ERR` has it. -/
abbrev Executes (overrun : SaiCall → SaiResp → Prop) (E : SaiBackend σ) (p : AgentM σ α)
    (w : World σ) (plan : SaiPlan) (good bad : α → Prop) : Prop :=
  Follows SaiResp.ok retried E p w plan (Carries overrun good bad)

/-- A procedure of the C code that returns a `sai_status_t`. -/
abbrev ExecutesStatus (overrun : SaiCall → SaiResp → Prop) (E : SaiBackend σ)
    (p : AgentM σ SaiStatus) (w : World σ) (plan : SaiPlan) : Prop :=
  Executes overrun E p w plan (· = saiStatusSuccess) (· ≠ saiStatusSuccess)

/-! ### Rules -/

variable {overrun : SaiCall → SaiResp → Prop}

/-- Turn the result of a procedure into another, without a call. -/
theorem executes_bind {p : AgentM σ α} {k : α → AgentM σ β} {plan : SaiPlan} {good bad : α → Prop}
    {good' bad' : β → Prop} (h : Executes overrun E p w plan good bad)
    (hgood : ∀ a, good a → ∀ w', ∃ b, EStateM.run (k a) w' = .ok b w' ∧ good' b)
    (hbad : ∀ a, bad a → ∀ w', ∃ b, EStateM.run (k a) w' = .ok b w' ∧ bad' b) :
    Executes overrun E (p >>= k) w plan good' bad' := by
  refine Follows.bind h (fun o a w' hc ↦ ?_) fun o e hc ↦ hc
  rcases hc with ⟨hcrash, ⟨ho, ha⟩ | ⟨ho, ha⟩⟩
  · obtain ⟨b, hb, hg⟩ := hgood a ha w'
    rw [hb]
    exact ⟨rfl, hcrash, Or.inl ⟨ho, hg⟩⟩
  · obtain ⟨b, hb, hg⟩ := hbad a ha w'
    rw [hb]
    exact ⟨rfl, hcrash, Or.inr ⟨ho, hg⟩⟩

/-- What a call stores, it stores without another call. -/
structure Stores (overrun : SaiCall → SaiResp → Prop) (mk : A → SaiCall)
    (store : A → SaiResp → AgentM σ A) : Prop where
  trace : ∀ a r (w : World σ), (worldOf (EStateM.run (store a r) w)).trace = w.trace
  env : ∀ a r (w : World σ), (worldOf (EStateM.run (store a r) w)).env = w.env
  /-- It faults where the answer overruns an array. -/
  overrun : ∀ a r (w : World σ), (∃ e, valueOf (EStateM.run (store a r) w) = .error e) ↔
    overrun (mk a) r

/-- **A call wrapped in `SAI_RET_ERR`.** Its first evaluation stores what the answer gives and
goes on from there; a second one is the last thing the function does. -/
theorem executes_saiRetErr {mk : A → SaiCall} {store : A → SaiResp → AgentM σ A} {a : A}
    {rest : A → AgentM σ SaiStatus} {next : SaiResp → SaiPlan} (hstore : Stores overrun mk store)
    (h : ∀ r, ∃ a' w', EStateM.run (store a r) (w.asked E (mk a)) = .ok a' w' ∧
      retried (mk a) r = some (mk a') ∧
      (w'.trace = (w.asked E (mk a)).trace → w'.env = (w.asked E (mk a)).env →
        ExecutesStatus overrun E (rest a') w' (next r))) :
    ExecutesStatus overrun E (saiRetErr (saiCall E mk store) a rest) w (.call (mk a) next) := by
  have hrun : saiRetErr (saiCall E mk store) a rest = ask E (mk a) >>= fun r ↦ store a r >>=
      fun a' ↦ if r.status ≠ saiStatusSuccess then
        ask E (mk a') >>= fun r' ↦ store a' r' >>= fun _ ↦ pure r'.status
      else rest a' := by
    simp only [saiRetErr, saiCall, bind_assoc, pure_bind]
  obtain ⟨a', w', hfirst, hc, hrest⟩ := h (E (mk a) w.env).1
  have htrace := hstore.trace a (E (mk a) w.env).1 (w.asked E (mk a))
  have henv := hstore.env a (E (mk a) w.env).1 (w.asked E (mk a))
  rw [hfirst] at htrace henv
  rw [hrun]
  -- The macro's second evaluation asks with the arguments the first one left.
  refine Follows.ask_twice (mk a') (fun r' ↦ store a' r' >>= fun _ ↦ pure r'.status) w'
    (fun hok ↦ ?_) (fun _ ↦ hc) htrace henv (fun hbad ↦ ?_) fun r' w'' ↦ ?_
  · refine Follows.quiet hfirst htrace henv ?_
    rw [if_neg (not_ne_iff.2 (SaiResp.ok_iff.1 hok))]
    exact hrest htrace henv
  · rw [EStateM.run_bind, hfirst]
    dsimp only
    rw [if_pos (SaiResp.ok_eq_false_iff.1 hbad)]
  · have htrace' := hstore.trace a' r' w''
    have henv' := hstore.env a' r' w''
    have hover := hstore.overrun a' r' w''
    rw [EStateM.run_bind]
    cases hst : EStateM.run (store a' r') w'' with
    | ok a'' w₃ =>
      rw [hst] at htrace' henv' hover
      have hcrash : ¬overrun (mk a') r' := fun ho ↦ by
        obtain ⟨e, he⟩ := hover.2 ho
        cases he
      refine ⟨htrace', henv', hcrash, ?_⟩
      cases hr : r'.ok with
      | true => exact Or.inl ⟨congrArg some hr, SaiResp.ok_iff.1 hr⟩
      | false => exact Or.inr ⟨congrArg some hr, SaiResp.ok_eq_false_iff.1 hr⟩
    | error e w₃ =>
      rw [hst] at htrace' henv' hover
      exact ⟨htrace', henv', hover.1 ⟨e, rfl⟩⟩

/-- A wrapped call that stores nothing. -/
theorem executes_plainCall {c : SaiCall} {rest : Unit → AgentM σ SaiStatus}
    {next : SaiResp → SaiPlan} (hagain : ∀ r, retried c r = some c) (hover : ∀ r, ¬overrun c r)
    (h : ∀ r, ExecutesStatus overrun E (rest ()) (w.asked E c) (next r)) :
    ExecutesStatus overrun E (saiRetErr (plainCall E c) () rest) w (.call c next) := by
  refine executes_saiRetErr ⟨fun _ _ _ ↦ rfl, fun _ _ _ ↦ rfl, fun _ r _ ↦
    iff_of_false (by rintro ⟨e, he⟩; cases he) (hover r)⟩ fun r ↦
      ⟨(), w.asked E c, rfl, hagain r, fun _ _ ↦ h r⟩

/-- **A call whose status is tested by hand**, after an assignment from its answer: on a failure the
function returns at once. -/
theorem executes_ask_assign {c : SaiCall} {g : SaiResp → Agent → Agent}
    {k : SaiResp → AgentM σ SaiStatus} {bad : SaiResp → SaiStatus} {next : SaiResp → SaiPlan}
    (hagain : ∀ r, retried c r = none)
    (hbad : ∀ r, r.status ≠ saiStatusSuccess → bad r ≠ saiStatusSuccess)
    (h : ∀ r, ExecutesStatus overrun E (k r) ((w.asked E c).mapState (g r)) (next r)) :
    ExecutesStatus overrun E (ask E c >>= fun r ↦ modState (g r) >>= fun _ ↦
      if r.status ≠ saiStatusSuccess then pure (bad r) else k r) w (.call c next) := by
  refine Follows.ask_once (fun hok ↦ ?_) (fun _ ↦ hagain _) fun hr ↦ ?_
  · rw [if_neg (not_ne_iff.2 (SaiResp.ok_iff.1 hok))]
    exact Follows.modState (h _)
  · rw [if_pos (SaiResp.ok_eq_false_iff.1 hr)]
    exact ⟨_, _, rfl, rfl, rfl, id, Or.inr ⟨rfl, hbad _ (SaiResp.ok_eq_false_iff.1 hr)⟩⟩

/-- A call whose status is tested by hand. -/
theorem executes_ask {c : SaiCall} {k : SaiResp → AgentM σ SaiStatus} {bad : SaiResp → SaiStatus}
    {next : SaiResp → SaiPlan} (hagain : ∀ r, retried c r = none)
    (hbad : ∀ r, r.status ≠ saiStatusSuccess → bad r ≠ saiStatusSuccess)
    (h : ∀ r, ExecutesStatus overrun E (k r) (w.asked E c) (next r)) :
    ExecutesStatus overrun E (ask E c >>= fun r ↦
      if r.status ≠ saiStatusSuccess then pure (bad r) else k r) w (.call c next) :=
  executes_ask_assign (g := fun _ a ↦ a) hagain hbad h

/-- The function returns success. -/
theorem executes_success :
    ExecutesStatus overrun E (pure saiStatusSuccess : AgentM σ SaiStatus) w (.done .complete) :=
  Follows.pure ⟨id, Or.inl ⟨rfl, rfl⟩⟩

/-- The function gives up without having been refused. -/
theorem executes_failure :
    ExecutesStatus overrun E (pure saiStatusFailure : AgentM σ SaiStatus) w (.done .failed) :=
  Follows.pure ⟨id, Or.inr ⟨rfl, by decide⟩⟩

/-- The function runs into undefined behaviour. -/
theorem executes_fault (e : Fault) {good bad : α → Prop} :
    Executes overrun E (fault e : AgentM σ α) w (.done .stuck) good bad :=
  Follows.fault trivial

/-- The plan that ends with this call. -/
def lastCall (c : SaiCall) : SaiPlan := .call c fun _ ↦ .done .complete

theorem executes_lastCall {c : SaiCall} (hagain : ∀ r, retried c r = some c)
    (hover : ∀ r, ¬overrun c r) :
    ExecutesStatus overrun E (saiRetErr (plainCall E c) () fun _ ↦ pure saiStatusSuccess) w
      (lastCall c) :=
  executes_plainCall hagain hover fun _ ↦ executes_success

end SaiAgent
