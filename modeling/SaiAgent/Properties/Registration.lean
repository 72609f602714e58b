import SaiAgent.Properties.SwitchInit
import SaiAgent.Model.Ipc

/-!
# The initialisers

What the five initialisers of a `SWITCH_INIT` leave behind. Each registers a fixed list of handlers;
`saiagent_vlan_init` reads the default VLAN first and puts it into the cache (`vlanInitRun`). The
status an initialiser returns is what its unassigned local held: no registration can fail, since
every command number is in range.
-/

namespace SaiAgent

open Effects Effects.Proc Effects.Plan

variable {σ : Type} {E : SaiBackend σ} {rt : Runtime} {w : World σ}

/-! ### Tables -/

theorem Handler.cmdType_injective {g h : Handler} (hgh : g.cmdType = h.cmdType) : g = h := by
  revert hgh
  cases g <;> cases h <;> decide

/-- Register handlers one after the other, each under its own number. -/
def Agent.registerAll (a : Agent) (handlers : List Handler) : Agent :=
  handlers.foldl (fun a h ↦ a.register h.cmdType h) a

/-- The handlers are in the table. -/
def Registered (table : ℕ → Option Handler) (handlers : List Handler) : Prop :=
  ∀ h ∈ handlers, table h.cmdType = some h

namespace Agent

variable (a : Agent) (handlers : List Handler)

theorem registerAll_append (handlers' : List Handler) :
    a.registerAll (handlers ++ handlers') = (a.registerAll handlers).registerAll handlers' :=
  List.foldl_append ..

@[simp] theorem registerAll_swInfo : (a.registerAll handlers).swInfo = a.swInfo := by
  induction handlers generalizing a with
  | nil => rfl
  | cons h t ih => exact ih (a.register h.cmdType h)

@[simp] theorem registerAll_vlanList : (a.registerAll handlers).vlanList = a.vlanList := by
  induction handlers generalizing a with
  | nil => rfl
  | cons h t ih => exact ih (a.register h.cmdType h)

theorem registerAll_pushVlan (v : VlanInfo) :
    (a.pushVlan v).registerAll handlers = (a.registerAll handlers).pushVlan v := by
  induction handlers generalizing a with
  | nil => rfl
  | cons h t ih => exact ih (a.register h.cmdType h)

variable {handlers}

/-- Other numbers keep their entry. -/
theorem registerAll_of_not_mem {c : ℕ} (hc : ∀ h ∈ handlers, h.cmdType ≠ c) :
    (a.registerAll handlers).ipcCbList c = a.ipcCbList c := by
  induction handlers generalizing a with
  | nil => rfl
  | cons h t ih =>
    have hne : c ≠ h.cmdType := fun e ↦ hc h List.mem_cons_self e.symm
    refine (ih (a.register h.cmdType h) fun g hg ↦ hc g (List.mem_cons_of_mem _ hg)).trans ?_
    exact Function.update_of_ne hne ..

/-- Afterwards they are registered, in whatever order. -/
theorem registered_registerAll : Registered (a.registerAll handlers).ipcCbList handlers := by
  induction handlers generalizing a with
  | nil => exact fun _ h ↦ absurd h List.not_mem_nil
  | cons h t ih =>
    intro g hg
    by_cases hmem : g ∈ t
    · exact ih (a.register h.cmdType h) g hmem
    · obtain rfl : g = h := (List.mem_cons.1 hg).resolve_right hmem
      -- No later registration uses its number.
      refine (registerAll_of_not_mem (a.register g.cmdType g) fun k hk e ↦ hmem ?_).trans
        (Function.update_self ..)
      exact Handler.cmdType_injective e ▸ hk

/-- **A registration changes nothing exactly when it was made before.** -/
theorem ipcCbList_registerAll_eq_iff :
    (a.registerAll handlers).ipcCbList = a.ipcCbList ↔ Registered a.ipcCbList handlers := by
  constructor
  · intro h
    rw [← h]
    exact a.registered_registerAll
  · intro h
    induction handlers generalizing a with
    | nil => rfl
    | cons g t ih =>
      have hsame : (a.register g.cmdType g).ipcCbList = a.ipcCbList := by
        rw [register, ← h g List.mem_cons_self]
        exact Function.update_eq_self ..
      refine (ih (a.register g.cmdType g) ?_).trans hsame
      rw [hsame]
      exact fun k hk ↦ h k (List.mem_cons_of_mem _ hk)

end Agent

theorem registered_append {table : ℕ → Option Handler} {handlers handlers' : List Handler} :
    Registered table (handlers ++ handlers') ↔
      Registered table handlers ∧ Registered table handlers' :=
  List.forall_mem_append

/-! ### The lists -/

/-- What `saiagent_switch_init` registers. -/
def switchHandlers : List Handler := [.switchReset, .switchAttrSet, .keepaliveInit]

/-- What `saiagent_port_init` registers. -/
def portHandlers : List Handler := [.portInfoGet, .portAttrSet, .portAttrGet]

/-- What `saiagent_fdb_init` registers. -/
def fdbHandlers : List Handler := [.fdbFlushPort]

/-- What `saiagent_vlan_init` registers. -/
def vlanHandlers : List Handler :=
  [.vlanCreate, .vlanDelete, .vlanPortSet, .vlanPvidSet, .stpPortSet]

/-- What `saiagent_router_init` registers. -/
def routerHandlers : List Handler :=
  [.routerMpHashSet, .routerVrCreate, .routerVrDel, .routerLpmAdd, .routerLpmDel]

theorem run_saiagentPortInit : EStateM.run (saiagentPortInit rt) w =
    .ok rt.portInitStatus (w.mapState fun a ↦ a.registerAll portHandlers) := by
  have hrun : EStateM.run (saiagentPortInit rt) w =
      .ok (rt.portInitStatus ||| rcStatusOk ||| rcStatusOk ||| rcStatusOk)
        (w.mapState fun a ↦ a.registerAll portHandlers) := rfl
  rw [hrun]
  simp only [rcStatusOk, UInt32.or_zero]

theorem run_saiagentFdbInit : EStateM.run (saiagentFdbInit rt) w =
    .ok rt.fdbInitStatus (w.mapState fun a ↦ a.registerAll fdbHandlers) := by
  have hrun : EStateM.run (saiagentFdbInit rt) w = .ok (rt.fdbInitStatus ||| rcStatusOk)
      (w.mapState fun a ↦ a.registerAll fdbHandlers) := rfl
  rw [hrun]
  simp only [rcStatusOk, UInt32.or_zero]

theorem run_saiagentRouterInit : EStateM.run (saiagentRouterInit rt) w =
    .ok rt.routerInitStatus (w.mapState fun a ↦ a.registerAll routerHandlers) := by
  have hrun : EStateM.run (saiagentRouterInit rt) w =
      .ok (rt.routerInitStatus ||| rcStatusOk ||| rcStatusOk ||| rcStatusOk ||| rcStatusOk |||
        rcStatusOk) (w.mapState fun a ↦ a.registerAll routerHandlers) := rfl
  rw [hrun]
  simp only [rcStatusOk, UInt32.or_zero]

/-- `saiagent_switch_init` returns the same status whether SAI failed or not. -/
theorem run_saiagentSwitchInit {status : SaiStatus} {w' : World σ}
    (h : EStateM.run (saiSwitchInit E rt) w = .ok status w') :
    EStateM.run (saiagentSwitchInit E rt) w = .ok rt.switchInitStatus
      (w'.mapState fun a ↦ a.registerAll
          (if status = saiStatusSuccess then switchHandlers else [])) := by
  rw [saiagentSwitchInit, EStateM.run_bind, h]
  by_cases hs : status = saiStatusSuccess
  · have hrun : EStateM.run (if status ≠ saiStatusSuccess then pure rt.switchInitStatus else do
          let s₁ ← saiagentIpcCbSet PresteraCmdType.switchReset .switchReset
          let s₂ ← saiagentIpcCbSet PresteraCmdType.switchAttrSet .switchAttrSet
          let s₃ ← saiagentIpcCbSet PresteraCmdType.keepaliveInit .keepaliveInit
          return rt.switchInitStatus ||| s₁ ||| s₂ ||| s₃) w' =
        .ok (rt.switchInitStatus ||| rcStatusOk ||| rcStatusOk ||| rcStatusOk)
          (w'.mapState fun a ↦ a.registerAll switchHandlers) := by
      rw [if_neg (not_ne_iff.2 hs)]
      rfl
    rw [if_pos hs]
    refine hrun.trans ?_
    simp only [rcStatusOk, UInt32.or_zero]
  · dsimp only
    rw [if_pos hs, if_neg hs]
    rfl

/-! ### The default VLAN -/

/-- The attribute array `sai_vlan_default_init` passes. -/
def vlanIdQuery : List SaiAttribute := [⟨.vlanVlanId, .u16 0⟩]

/-- The plan of `sai_vlan_default_init`: read the id of the default VLAN, and cache it. -/
def vlanDefaultPlan (rt : Runtime) (vlanOid : Oid) : SaiPlan :=
  .call (.saiApiQuery .vlan) fun _ ↦
    if vlanOid = saiNullObjectId then
      .done .failed
    else
      .call (.getVlanAttribute vlanOid 1 vlanIdQuery) fun _ ↦
        .done (if rt.vlanInfoCalloc then .complete else .failed)

/-- The plan of `saiagent_vlan_init`. -/
def vlanInitPlan (rt : Runtime) (vlanOid : Oid) : SaiPlan :=
  .call (.saiLogSet .vlan .debug) fun _ ↦ vlanDefaultPlan rt vlanOid

/-- What a run of `sai_vlan_default_init` from `w` leaves, against the execution of its plan: the
VLAN is cached where the plan finished, and the status is success also where a repeated call
succeeded. -/
structure CachesVlan (x : Plan.Run SaiCall SaiResp Verdict σ) (w : World σ) (status : SaiStatus)
    (w' : World σ) : Prop where
  trace : w'.trace = w.trace ++ x.trace
  status : status = saiStatusSuccess ↔ settled x.outcome = some true
  state : (x.outcome = .finished .complete ∧
      ∃ id, w'.state = w.state.pushVlan ⟨id, w.state.swInfo.defaultVlanOid⟩) ∨
    (x.outcome ≠ .finished .complete ∧ w'.state = w.state)

/-- A repeated call is the last of the function. -/
theorem cachesVlan_of_repeated {x : Plan.Run SaiCall SaiResp Verdict σ} {c : SaiCall} {r : SaiResp}
    {w' : World σ} (hx : x.outcome = .repeated c r) (htrace : w'.trace = w.trace ++ x.trace)
    (hstate : w'.state = w.state) : CachesVlan x w r.status w' := by
  refine ⟨htrace, ?_, Or.inr ⟨by rw [hx]; nofun, hstate⟩⟩
  rw [hx, settled, Option.some_inj, SaiResp.ok_iff]

/-- A function that gave up without having been refused. -/
theorem cachesVlan_of_failed {x : Plan.Run SaiCall SaiResp Verdict σ} {w' : World σ}
    (hx : x.outcome = .finished .failed) (htrace : w'.trace = w.trace ++ x.trace)
    (hstate : w'.state = w.state) : CachesVlan x w saiStatusFailure w' := by
  refine ⟨htrace, ?_, Or.inr ⟨by rw [hx]; nofun, hstate⟩⟩
  rw [hx]
  decide

/-- **`sai_vlan_default_init` always returns**, whatever SAI answers. -/
theorem run_saiVlanDefaultInit (E : SaiBackend σ) (rt : Runtime) (w : World σ) :
    ∃ status w', EStateM.run (saiVlanDefaultInit E rt) w = .ok status w' ∧
      CachesVlan ((vlanDefaultPlan rt w.state.swInfo.defaultVlanOid).exec SaiResp.ok retried E
        w.env) w status w' := by
  rcases h₁ : (E (.saiApiQuery .vlan) w.env).1.ok with _ | _
  · refine ⟨_, _, run_saiRetErr_plainCall_of_refused h₁, ?_⟩
    rw [vlanDefaultPlan, exec_call_repeated h₁ rfl]
    exact cachesVlan_of_repeated rfl (List.append_assoc _ _ _) rfl
  have hrun : EStateM.run (saiVlanDefaultInit E rt) w = _ := run_saiRetErr_plainCall_of_ok h₁
  rw [run_getState_bind, OracleWorld.asked_state] at hrun
  rw [vlanDefaultPlan, exec_call_ok h₁]
  by_cases hnull : w.state.swInfo.defaultVlanOid = saiNullObjectId
  · rw [if_pos hnull] at hrun ⊢
    exact ⟨_, _, hrun, cachesVlan_of_failed rfl rfl rfl⟩
  rw [if_neg hnull] at hrun ⊢
  rcases h₂ : (E (.getVlanAttribute w.state.swInfo.defaultVlanOid 1 vlanIdQuery)
      (E (.saiApiQuery .vlan) w.env).2).1.ok with _ | _
  · refine ⟨_, _, hrun.trans (run_saiRetErr_of_refused h₂ rfl rfl), ?_⟩
    rw [exec_call_repeated h₂ rfl]
    exact cachesVlan_of_repeated rfl
      ((List.append_assoc _ _ _).trans (List.append_assoc _ _ _)) rfl
  have hrun := hrun.trans (run_saiRetErr_of_ok h₂ rfl)
  rw [exec_call_ok h₂]
  -- The id is known; the cache entry may still be missing its memory.
  rcases hcalloc : rt.vlanInfoCalloc with _ | _
  · have hnone : ∀ id oid, saiagentVlanAddNew rt id oid = (pure none : AgentM σ _) := fun _ _ ↦
      if_neg (by rw [hcalloc]; decide)
    rw [hnone] at hrun
    exact ⟨_, _, hrun, cachesVlan_of_failed rfl (List.append_assoc _ _ _) rfl⟩
  · have hsome : ∀ id oid, saiagentVlanAddNew rt id oid = (_ : AgentM σ _) :=
      fun _ _ ↦ if_pos hcalloc
    rw [hsome] at hrun
    exact ⟨_, _, hrun, List.append_assoc _ _ _, ⟨fun _ ↦ rfl, fun _ ↦ rfl⟩, Or.inl ⟨rfl, _, rfl⟩⟩

/-- **What `saiagent_vlan_init` leaves**: it returns, and its handlers are registered where it
believes that the default VLAN was read. -/
structure VlanInitRun (E : SaiBackend σ) (rt : Runtime) (x : Plan.Run SaiCall SaiResp Verdict σ)
    (w w' : World σ) : Prop where
  run : ∃ rc, EStateM.run (saiagentVlanInit E rt) w = .ok rc w'
  trace : w'.trace = w.trace ++ x.trace
  state : (x.outcome = .finished .complete ∧ ∃ id, w'.state =
      (w.state.pushVlan ⟨id, w.state.swInfo.defaultVlanOid⟩).registerAll vlanHandlers) ∨
    (x.outcome ≠ .finished .complete ∧
      w'.state = w.state.registerAll (if settled x.outcome = some true then vlanHandlers else []))

theorem vlanInitRun (E : SaiBackend σ) (rt : Runtime) (w : World σ) :
    ∃ w', VlanInitRun E rt ((vlanInitPlan rt w.state.swInfo.defaultVlanOid).exec SaiResp.ok retried
      E w.env) w w' := by
  rcases h : (E (.saiLogSet .vlan .debug) w.env).1.ok with _ | _
  · have hstatus := SaiResp.ok_eq_false_iff.1 h
    rw [vlanInitPlan, exec_call_refused h rfl]
    refine ⟨w.asked E (.saiLogSet .vlan .debug), ⟨rcStatusErr, ?_⟩, rfl, Or.inr ⟨nofun, rfl⟩⟩
    rw [saiagentVlanInit, EStateM.run_bind, run_ask]
    dsimp only
    rw [if_pos hstatus]
    rfl
  have hstatus := SaiResp.ok_iff.1 h
  obtain ⟨status, w₁, hrun, hx⟩ := run_saiVlanDefaultInit E rt (w.asked E (.saiLogSet .vlan .debug))
  rw [OracleWorld.asked_state, OracleWorld.asked_env] at hx
  rw [vlanInitPlan, exec_call_ok h]
  have hinit : EStateM.run (saiagentVlanInit E rt) w =
      EStateM.run (if status ≠ saiStatusSuccess then pure rcStatusErr else do
        let s₁ ← saiagentIpcCbSet PresteraCmdType.vlanCreate .vlanCreate
        let s₂ ← saiagentIpcCbSet PresteraCmdType.vlanDelete .vlanDelete
        let s₃ ← saiagentIpcCbSet PresteraCmdType.vlanPortSet .vlanPortSet
        let s₄ ← saiagentIpcCbSet PresteraCmdType.vlanPvidSet .vlanPvidSet
        let s₅ ← saiagentIpcCbSet PresteraCmdType.stpPortSet .stpPortSet
        return rt.vlanInitStatus ||| s₁ ||| s₂ ||| s₃ ||| s₄ ||| s₅) w₁ := by
    rw [saiagentVlanInit, EStateM.run_bind, run_ask]
    dsimp only
    rw [if_neg (not_ne_iff.2 hstatus), EStateM.run_bind, hrun]
  -- The handlers are registered on the status alone, which a repeated call may have set.
  by_cases hs : status = saiStatusSuccess
  · rw [if_neg (not_ne_iff.2 hs)] at hinit
    refine ⟨w₁.mapState fun a ↦ a.registerAll vlanHandlers, ⟨_, hinit⟩,
      hx.trace.trans (List.append_assoc _ _ _), ?_⟩
    obtain ⟨ho, id, hstate⟩ | ⟨ho, hstate⟩ := hx.state
    · exact Or.inl ⟨ho, id, congrArg (Agent.registerAll · vlanHandlers) hstate⟩
    · refine Or.inr ⟨ho, ?_⟩
      rw [Run.cons_outcome, if_pos (hx.status.1 hs), OracleWorld.mapState_state, hstate]
      rfl
  · rw [if_pos hs] at hinit
    refine ⟨w₁, ⟨_, hinit⟩, hx.trace.trans (List.append_assoc _ _ _), ?_⟩
    obtain ⟨ho, -⟩ | ⟨ho, hstate⟩ := hx.state
    · -- The VLAN was cached, so the function believes that it succeeded.
      exact absurd (hx.status.2 (by rw [ho]; rfl)) hs
    · refine Or.inr ⟨ho, ?_⟩
      rw [Run.cons_outcome, if_neg fun e ↦ hs (hx.status.2 e), hstate]
      rfl

/-- `saiagent_vlan_init` creates and removes no switch. -/
theorem VlanInitRun.live {x : Plan.Run SaiCall SaiResp Verdict σ} {w' : World σ}
    (h : VlanInitRun E rt x w w') : liveSwitches w'.trace = liveSwitches w.trace := by
  have hkeeps : Keeps (fun w : World σ ↦ liveSwitches w.trace) (saiagentVlanInit E rt) :=
    keeps_saiagentVlanInit blind_liveSwitches.quiet (fun _ _ ↦ rfl) fun _ _ _ ↦ rfl
  obtain ⟨rc, hrun⟩ := h.run
  exact hkeeps.eq_of_ok hrun

end SaiAgent
