import SaiAgent.Model.Loop
import SaiAgent.Properties.Dispatch
import SaiAgent.Properties.Registration

/-!
# The SWITCH_INIT request

`saiagent_ipc_process_switch_init` runs `sai_switch_init` and the five initialisers, but looks
at two statuses only, and both of them hold what an unassigned local held: that of
`saiagent_switch_init` after the SAI steps, and that of `saiagent_router_init` at the end.

* `switchInitAck_iff`: when the acknowledgement says whether the initialisation succeeded;
* `refusedInit_iff`: when a refused request leaves the agent and SAI as they were.
-/

namespace SaiAgent

open Effects Effects.Proc Effects.Plan

variable {σ : Type} {E : SaiBackend σ} {rt : Runtime} {w w' : World σ} {request reply : SaiagentMsg}

/-! ### The two statuses -/

/-- The response says that the request succeeded. -/
theorem run_switchInitResponse (hr : IsReply reply) (numPorts : UInt64) (w : World σ) :
    ∃ r, EStateM.run (lift (replaceWith reply (switchInitResponse numPorts).bytes) :
        AgentM σ SaiagentMsg) w = .ok r w ∧ replyStatus r = presteraCmdAckOk := by
  obtain ⟨r, h, -, hp, -⟩ := replaceWith_eq hr (n := 6)
    (PresteraMsgSwitchInitResp.length_bytes (switchInitResponse numPorts)) (by decide)
  refine ⟨r, by rw [h, run_lift_ok], ?_⟩
  rw [PresteraMsgSwitchInitResp.bytes, List.append_assoc, List.append_assoc,
    List.append_assoc] at hp
  exact replyStatus_of_payload hp

/-- An acknowledged error is a failure. -/
theorem run_switchInitError (hr : IsReply reply) (w : World σ) :
    ∃ r, EStateM.run (lift (saiagentIpcPutReplyAck reply rcStatusErr) : AgentM σ SaiagentMsg) w =
      .ok r w ∧ replyStatus r = presteraCmdAckFailed := by
  obtain ⟨r, hrun, hstatus⟩ := run_lift_putReplyAck hr rcStatusErr w
  exact ⟨r, hrun, hstatus.trans (ackResponse_status_eq_failed.2 (by decide))⟩

/-- Undefined behaviour in `sai_switch_init` is the end of the request. -/
theorem run_processSwitchInit_of_fault {e : Fault}
    (h : EStateM.run (saiSwitchInit E rt) w = .error e w') :
    EStateM.run (saiagentIpcProcessSwitchInit E rt request reply) w = .error e w' := by
  simp only [saiagentIpcProcessSwitchInit, saiagentSwitchInit, EStateM.run_bind, h]

/-- **The first status holds an error**: the request ends after the first initialiser. -/
theorem run_processSwitchInit_of_ne {status : SaiStatus} (request : SaiagentMsg)
    (hsg : rt.switchInitStatus ≠ rcStatusOk)
    (hr : IsReply reply) (h : EStateM.run (saiSwitchInit E rt) w = .ok status w') :
    ∃ r, EStateM.run (saiagentIpcProcessSwitchInit E rt request reply) w =
        .ok r (w'.mapState fun a ↦
          a.registerAll (if status = saiStatusSuccess then switchHandlers else [])) ∧
      replyStatus r = presteraCmdAckFailed := by
  rw [saiagentIpcProcessSwitchInit, EStateM.run_bind, run_saiagentSwitchInit h]
  dsimp only
  rw [if_pos (Ne.symm hsg)]
  exact run_switchInitError hr _

/-- **The first status holds success**: every initialiser runs, whatever SAI did, and the last
status is what the reply says. -/
theorem run_processSwitchInit_of_eq {status : SaiStatus} (request : SaiagentMsg)
    (hsg : rt.switchInitStatus = rcStatusOk)
    (hr : IsReply reply) (h : EStateM.run (saiSwitchInit E rt) w = .ok status w') :
    ∃ r w₃, EStateM.run (saiagentIpcProcessSwitchInit E rt request reply) w =
        .ok r (w₃.mapState fun a ↦ a.registerAll routerHandlers) ∧
      replyStatus r = (if rt.routerInitStatus = rcStatusOk then presteraCmdAckOk
        else presteraCmdAckFailed) ∧
      VlanInitRun E rt
        ((vlanInitPlan rt w'.state.swInfo.defaultVlanOid).exec SaiResp.ok retried E w'.env)
        (w'.mapState fun a ↦ a.registerAll
          ((if status = saiStatusSuccess then switchHandlers else []) ++
            (portHandlers ++ fdbHandlers))) w₃ := by
  obtain ⟨w₃, hvlan⟩ := vlanInitRun E rt (w'.mapState fun a ↦ a.registerAll
    ((if status = saiStatusSuccess then switchHandlers else []) ++ (portHandlers ++ fdbHandlers)))
  rw [OracleWorld.mapState_state, OracleWorld.mapState_env, Agent.registerAll_swInfo] at hvlan
  obtain ⟨rc, hrun⟩ := hvlan.run
  -- Everything up to the last group, whatever became of the VLAN.
  have hlast : EStateM.run (saiagentIpcProcessSwitchInit E rt request reply) w =
      EStateM.run (if rcStatusOk ≠ rt.routerInitStatus then
          lift (saiagentIpcPutReplyAck reply rcStatusErr)
        else lift (replaceWith reply (switchInitResponse (w'.state.swInfo.numPorts)).bytes))
        (w₃.mapState fun a ↦ a.registerAll routerHandlers) := by
    rw [saiagentIpcProcessSwitchInit, EStateM.run_bind, run_saiagentSwitchInit h]
    dsimp only
    rw [if_neg (not_ne_iff.2 hsg.symm), run_getState_bind, EStateM.run_bind, run_saiagentPortInit]
    dsimp only
    rw [EStateM.run_bind, run_saiagentFdbInit]
    dsimp only
    have hworld : ((w'.mapState fun a ↦ a.registerAll
          (if status = saiStatusSuccess then switchHandlers else [])).mapState
          fun a ↦ a.registerAll portHandlers).mapState (fun a ↦ a.registerAll fdbHandlers) =
        w'.mapState fun a ↦ a.registerAll
          ((if status = saiStatusSuccess then switchHandlers else []) ++
            (portHandlers ++ fdbHandlers)) := by
      simp only [OracleWorld.mapState, Agent.registerAll_append]
    rw [EStateM.run_bind, hworld, hrun]
    dsimp only
    rw [EStateM.run_bind, run_saiagentRouterInit, OracleWorld.mapState_state,
      Agent.registerAll_swInfo]
  by_cases hrg : rt.routerInitStatus = rcStatusOk
  · rw [if_neg (not_ne_iff.2 hrg.symm)] at hlast
    obtain ⟨r, hreply, hstatus⟩ := run_switchInitResponse hr w'.state.swInfo.numPorts
      (w₃.mapState fun a ↦ a.registerAll routerHandlers)
    exact ⟨r, w₃, hlast.trans hreply, by rw [if_pos hrg, hstatus], hvlan⟩
  · rw [if_pos (Ne.symm hrg)] at hlast
    obtain ⟨r, hreply, hstatus⟩ := run_switchInitError hr
      (w₃.mapState fun a ↦ a.registerAll routerHandlers)
    exact ⟨r, w₃, hlast.trans hreply, by rw [if_neg hrg, hstatus], hvlan⟩

/-! ### What is acknowledged -/

/-- The plan of a whole initialisation. -/
def initPlan (rt : Runtime) (a : Agent) : SaiPlan := switchPlan rt a (vlanInitPlan rt)

/-- What the five initialisers register. -/
def initHandlers : List Handler :=
  switchHandlers ++ (portHandlers ++ fdbHandlers) ++ vlanHandlers ++ routerHandlers

/-- Every call of the initialisation, made one after the other, succeeds, and so do its
allocations. -/
def InitSucceeds (E : SaiBackend σ) (rt : Runtime) (w : World σ) : Prop :=
  ((initPlan rt w.state).exec SaiResp.ok never E w.env).outcome = .finished .complete

/-- The request that led from `w` to `w'` carried the initialisation out: it made every call
and each succeeded, the handlers are registered, and the default VLAN is cached. -/
structure InitPerformed (E : SaiBackend σ) (rt : Runtime) (w w' : World σ) : Prop where
  succeeds : InitSucceeds E rt w
  calls : w'.trace = w.trace ++ ((initPlan rt w.state).exec SaiResp.ok never E w.env).trace
  registered : Registered w'.state.ipcCbList initHandlers
  cached : ∃ id, w'.state.vlanList = ⟨id, w'.state.swInfo.defaultVlanOid⟩ :: w.state.vlanList

/-- The request is answered, with success exactly where `performed` holds of the world it leaves and
with a failure elsewhere. -/
def AckExact (performed : World σ → Prop) : EStateM.Result Fault (World σ) SaiagentMsg → Prop
  | .ok reply w' => (replyStatus reply = presteraCmdAckOk ↔ performed w') ∧
      (¬performed w' → replyStatus reply = presteraCmdAckFailed)
  | .error _ _ => False

/-- A reply that says failure is exact where nothing was performed. -/
theorem ackExact_of_failed {performed : World σ → Prop}
    (h : replyStatus reply = presteraCmdAckFailed) :
    AckExact performed (.ok reply w') ↔ ¬performed w' := by
  rw [AckExact, h]
  exact ⟨fun ha hp ↦ absurd (ha.1.2 hp) (by decide),
    fun hp ↦ ⟨iff_of_false (by decide) hp, fun _ ↦ rfl⟩⟩

/-- A reply that says success is exact where the work was performed. -/
theorem ackExact_of_ok {performed : World σ → Prop} (h : replyStatus reply = presteraCmdAckOk) :
    AckExact performed (.ok reply w') ↔ performed w' := by
  rw [AckExact, h]
  exact ⟨fun ha ↦ ha.1.1 rfl, fun hp ↦ ⟨iff_of_true rfl hp, fun hn ↦ absurd hp hn⟩⟩

/-- An initialisation that succeeds, as the run that carries it out sees it. -/
theorem InitSucceeds.run (h : InitSucceeds E rt w) :
    ∃ t w', EStateM.run (saiSwitchInit E rt) w = .ok saiStatusSuccess w' ∧ w'.trace = w.trace ++ t ∧
      ((vlanInitPlan rt w'.state.swInfo.defaultVlanOid).exec SaiResp.ok retried E w'.env).outcome =
        .finished .complete ∧
      ((initPlan rt w.state).exec SaiResp.ok never E w.env).trace =
        t ++ ((vlanInitPlan rt w'.state.swInfo.defaultVlanOid).exec SaiResp.ok retried E
          w'.env).trace := by
  obtain ⟨t, w', hrun, htrace, hexec⟩ := exec_switchPlan_of_finished h
  have hfinished := h
  rw [InitSucceeds, initPlan, hexec, Run.prepend_outcome] at hfinished
  have hretried := exec_eq_of_finished hfinished retried
  refine ⟨t, w', hrun, htrace, ?_, ?_⟩
  · rw [hretried, hfinished]
  · rw [initPlan, hexec, Run.prepend_trace, hretried]

/-- A request that ended after the first initialiser did not carry the initialisation out. -/
theorem not_initPerformed_of_ne {status : SaiStatus} {handlers : List Handler}
    (h : EStateM.run (saiSwitchInit E rt) w = .ok status w') :
    ¬InitPerformed E rt w (w'.mapState fun a ↦ a.registerAll handlers) := by
  intro hp
  obtain ⟨t, w₁, hrun, htrace, -, hcalls⟩ := hp.succeeds.run
  cases hrun.symm.trans h
  have hlast := hp.calls
  rw [OracleWorld.mapState_trace, htrace, hcalls] at hlast
  -- The calls of `saiagent_vlan_init` are missing.
  exact exec_call_trace_ne_nil (List.self_eq_append_right.1 (List.append_cancel_left hlast))

/-- `sai_switch_init` does not touch the VLAN cache. -/
theorem vlanList_saiSwitchInit {status : SaiStatus}
    (h : EStateM.run (saiSwitchInit E rt) w = .ok status w') :
    w'.state.vlanList = w.state.vlanList := by
  have hkeeps : Keeps (fun w : World σ ↦ w.state.vlanList) (saiSwitchInit E rt) :=
    keeps_saiSwitchInit (fun _ _ ↦ rfl) (fun _ _ ↦ rfl) (fun _ _ ↦ rfl) (fun _ _ ↦ rfl)
      fun _ _ _ _ ↦ rfl
  exact hkeeps.eq_of_ok h

/-- **A request that ran every initialiser carried out an initialisation that succeeds.** -/
theorem initPerformed_of_succeeds (hsucc : InitSucceeds E rt w) {status : SaiStatus} {w₃ : World σ}
    (h : EStateM.run (saiSwitchInit E rt) w = .ok status w')
    (hvlan : VlanInitRun E rt
      ((vlanInitPlan rt w'.state.swInfo.defaultVlanOid).exec SaiResp.ok retried E w'.env)
      (w'.mapState fun a ↦ a.registerAll
        ((if status = saiStatusSuccess then switchHandlers else []) ++
          (portHandlers ++ fdbHandlers))) w₃) :
    InitPerformed E rt w (w₃.mapState fun a ↦ a.registerAll routerHandlers) := by
  obtain ⟨t, w₁, hrun, htrace, hfinished, hcalls⟩ := hsucc.run
  cases hrun.symm.trans h
  obtain ⟨-, id, hstate⟩ | ⟨hne, -⟩ := hvlan.state
  · rw [if_pos rfl, OracleWorld.mapState_state, Agent.registerAll_swInfo] at hstate
    have hfinal : (w₃.mapState fun a ↦ a.registerAll routerHandlers).state =
        (w'.state.registerAll initHandlers).pushVlan ⟨id, w'.state.swInfo.defaultVlanOid⟩ := by
      rw [OracleWorld.mapState_state, hstate, Agent.registerAll_pushVlan,
        Agent.registerAll_pushVlan, ← Agent.registerAll_append, ← Agent.registerAll_append]
      rfl
    refine ⟨hsucc, ?_, ?_, id, ?_⟩
    · rw [OracleWorld.mapState_trace, hvlan.trace, OracleWorld.mapState_trace, htrace, hcalls,
        List.append_assoc]
    · rw [hfinal]
      exact w'.state.registered_registerAll
    · rw [hfinal, ← vlanList_saiSwitchInit h, ← w'.state.registerAll_vlanList initHandlers,
        ← w'.state.registerAll_swInfo initHandlers]
      rfl
  · exact absurd hfinished hne

/-! ### The acknowledgement -/

variable (E rt w request)

/-- **SWITCH_INIT is acknowledged exactly when it was carried out** where `sai_switch_init`
runs into no undefined behaviour and, the first status holding success, the last one holds success
exactly when the initialisation succeeds. It is acknowledged exactly when the initialisation *can*
be carried out where both statuses hold success just then. -/
theorem switchInitAck_iff (out : MsgBuffer) :
    (AckExact (InitPerformed E rt w) (EStateM.run
        (saiagentIpcProcessSwitchInit E rt request (freshReply out.bytes)) w) ↔
      ¬Crashes Overruns (switchOutcome E rt w) ∧
        (rt.switchInitStatus = rcStatusOk →
          (rt.routerInitStatus = rcStatusOk ↔ InitSucceeds E rt w))) ∧
    (AckExact (fun _ ↦ InitSucceeds E rt w) (EStateM.run
        (saiagentIpcProcessSwitchInit E rt request (freshReply out.bytes)) w) ↔
      ¬Crashes Overruns (switchOutcome E rt w) ∧
        (rt.switchInitStatus = rcStatusOk ∧ rt.routerInitStatus = rcStatusOk ↔
          InitSucceeds E rt w)) := by
  have hr := isReply_freshReply out.length_eq
  have hvalue := (@executes_saiSwitchInit σ E rt w).value
  rcases hrun : EStateM.run (saiSwitchInit E rt) w with ⟨status, w'⟩ | ⟨e, w'⟩
  · rw [hrun] at hvalue
    have hcrash : ¬Crashes Overruns (switchOutcome E rt w) := hvalue.1
    rw [and_iff_right hcrash, and_iff_right hcrash]
    -- The group's own status decides the reply, whatever `sai_switch_init` returned.
    by_cases hsg : rt.switchInitStatus = rcStatusOk
    · obtain ⟨r, w₃, hreply, hstatus, hvlan⟩ :=
        run_processSwitchInit_of_eq request hsg hr hrun
      have hperformed : InitPerformed E rt w (w₃.mapState fun a ↦ a.registerAll routerHandlers) ↔
          InitSucceeds E rt w :=
        ⟨InitPerformed.succeeds, fun h ↦ initPerformed_of_succeeds h hrun hvlan⟩
      by_cases hrg : rt.routerInitStatus = rcStatusOk
      · rw [if_pos hrg] at hstatus
        rw [hreply, ackExact_of_ok hstatus, ackExact_of_ok hstatus, hperformed]
        simp only [hsg, hrg, true_implies, true_iff, and_self]
      · rw [if_neg hrg] at hstatus
        rw [hreply, ackExact_of_failed hstatus, ackExact_of_failed hstatus, hperformed]
        simp only [hsg, hrg, true_implies, false_iff, and_false, and_self]
    · obtain ⟨r, hreply, hstatus⟩ := run_processSwitchInit_of_ne request hsg hr hrun
      rw [hreply, ackExact_of_failed hstatus, ackExact_of_failed hstatus]
      simp only [hsg, not_initPerformed_of_ne hrun, not_false_eq_true, false_implies, false_and,
        false_iff, and_self]
  · rw [hrun] at hvalue
    have hcrash : Crashes Overruns (switchOutcome E rt w) := hvalue
    rw [run_processSwitchInit_of_fault hrun]
    simp only [AckExact, hcrash, not_true_eq_false, false_and, and_self]

/-- A SAI that refuses everything, with both statuses holding success: the request is acknowledged
though no switch exists. -/
theorem ack_without_switch :
    ¬AckExact (InitPerformed scriptedSai (Runtime.calm 0) ⟨Agent.zero, [], []⟩)
      (EStateM.run (saiagentIpcProcessSwitchInit scriptedSai (Runtime.calm 0)
        (handedRequest zeroBuffer 4) (freshReply zeroBuffer)) ⟨Agent.zero, [], []⟩) := by
  have hrun : EStateM.run (saiSwitchInit scriptedSai (Runtime.calm 0))
      (⟨Agent.zero, [], []⟩ : World (List SaiResp)) = _ := run_saiRetErr_plainCall_of_refused rfl
  obtain ⟨r, w₃, hreply, hstatus, -⟩ := run_processSwitchInit_of_eq
    (handedRequest zeroBuffer 4) rfl (isReply_freshReply length_zeroBuffer) hrun
  rw [hreply, ackExact_of_ok hstatus]
  intro hp
  cases hp.succeeds

/-! ### What a refused request leaves -/

/-- The dispatch table, `sw_info`, the VLAN cache and the live switches are what they were. -/
structure Untouched (w w' : World σ) : Prop where
  table : w'.state.ipcCbList = w.state.ipcCbList
  swInfo : w'.state.swInfo = w.state.swInfo
  vlanList : w'.state.vlanList = w.state.vlanList
  live : liveSwitches w'.trace = liveSwitches w.trace

/-- If the request is answered with a failure, nothing is left behind. There is no answer from a
null pointer; an array that was overrun may be followed by any. -/
def RefusedCleanly (w : World σ) : EStateM.Result Fault (World σ) SaiagentMsg → Prop
  | .ok reply w' => replyStatus reply = presteraCmdAckFailed → Untouched w w'
  | .error e _ => e = .nullDeref

/-- How `saiagent_vlan_init` fares when it runs after a `sai_switch_init` that created no switch. -/
def laterOutcome (E : SaiBackend σ) (rt : Runtime) (w : World σ) :
    Outcome SaiCall SaiResp Verdict :=
  ((vlanInitPlan rt w.state.swInfo.defaultVlanOid).exec SaiResp.ok retried E
    ((switchPlan rt w.state fun _ ↦ .done .complete).exec SaiResp.ok retried E w.env).env).outcome

/-- The initialisers after the first one find their handlers registered, and no VLAN is cached. -/
def LaterIdle (E : SaiBackend σ) (rt : Runtime) (w : World σ) : Prop :=
  Registered w.state.ipcCbList (portHandlers ++ fdbHandlers) ∧
    laterOutcome E rt w ≠ .finished .complete ∧
    (settled (laterOutcome E rt w) = some true → Registered w.state.ipcCbList vlanHandlers) ∧
    Registered w.state.ipcCbList routerHandlers

/-- The way `sai_switch_init` went leaves nothing behind: no switch was created, the
out-parameter of `create_switch` holds what it held, what is registered was registered before; or
there was no memory, and there is no answer. -/
def FailsIdle (E : SaiBackend σ) (rt : Runtime) (w : World σ) :
    Outcome SaiCall SaiResp Verdict → Prop
  | .finished .stuck => True
  | .finished _ => False
  | .refused _ r => r.oid.getD w.state.swInfo.switchOid = w.state.swInfo.switchOid ∧
      (rt.switchInitStatus = rcStatusOk → LaterIdle E rt w)
  | .repeated (.saiApiQuery _) r => (r.ok = true → Registered w.state.ipcCbList switchHandlers) ∧
      (rt.switchInitStatus = rcStatusOk → LaterIdle E rt w)
  | .repeated _ _ => False

variable {E rt w request}

theorem registered_ite {table : ℕ → Option Handler} {c : Prop} [Decidable c]
    {handlers : List Handler} : Registered table (if c then handlers else []) ↔
        (c → Registered table handlers) := by
  by_cases hc : c
  · rw [if_pos hc]
    exact ⟨fun h _ ↦ h, fun h ↦ h hc⟩
  · rw [if_neg hc]
    exact iff_of_true (fun _ h ↦ absurd h List.not_mem_nil) fun h ↦ absurd h hc

/-- Only the out-parameter was assigned: `sw_info` is the same exactly when it holds what it
held. -/
theorem swInfo_setSwitchOid_eq_iff {a : Agent} {o : Oid} :
    (a.setSwitchOid o).swInfo = a.swInfo ↔ o = a.swInfo.switchOid := by
  constructor
  · intro h
    exact congrArg SaiagentSwitchInfo.switchOid h
  · rintro rfl
    rfl

/-- Registrations on top of a world that differs in the switch identifier at most. -/
theorem untouched_registerAll_iff {o : Oid} {w₁ : World σ} {handlers : List Handler}
    (hstate : w₁.state = (w.state.setSwitchOid o).registerAll handlers)
    (hlive : liveSwitches w₁.trace = liveSwitches w.trace) :
    Untouched w w₁ ↔ o = w.state.swInfo.switchOid ∧ Registered w.state.ipcCbList handlers := by
  have htable : w₁.state.ipcCbList = w.state.ipcCbList ↔ Registered w.state.ipcCbList handlers := by
    rw [hstate]
    exact (w.state.setSwitchOid o).ipcCbList_registerAll_eq_iff
  have hinfo : w₁.state.swInfo = w.state.swInfo ↔ o = w.state.swInfo.switchOid := by
    rw [hstate, Agent.registerAll_swInfo]
    exact swInfo_setSwitchOid_eq_iff
  have hvlan : w₁.state.vlanList = w.state.vlanList := by
    rw [hstate, Agent.registerAll_vlanList]
    rfl
  exact ⟨fun h ↦ ⟨hinfo.1 h.swInfo, htable.1 h.table⟩,
    fun h ↦ ⟨htable.2 h.2, hinfo.2 h.1, hvlan, hlive⟩⟩

/-- The later initialisers, after a `sai_switch_init` that created no switch. -/
theorem untouched_of_vlanInit {status : SaiStatus} {o : Oid} {w₃ : World σ}
    (hstate : w'.state = w.state.setSwitchOid o)
    (hlive : liveSwitches w'.trace = liveSwitches w.trace)
    (henv : w'.env =
      ((switchPlan rt w.state fun _ ↦ .done .complete).exec SaiResp.ok retried E w.env).env)
    (hvlan : VlanInitRun E rt
      ((vlanInitPlan rt w'.state.swInfo.defaultVlanOid).exec SaiResp.ok retried E w'.env)
      (w'.mapState fun a ↦ a.registerAll
        ((if status = saiStatusSuccess then switchHandlers else []) ++
          (portHandlers ++ fdbHandlers))) w₃) :
    Untouched w (w₃.mapState fun a ↦ a.registerAll routerHandlers) ↔
      o = w.state.swInfo.switchOid ∧
        (status = saiStatusSuccess → Registered w.state.ipcCbList switchHandlers) ∧
        LaterIdle E rt w := by
  have hplan : ((vlanInitPlan rt w'.state.swInfo.defaultVlanOid).exec SaiResp.ok retried E
      w'.env).outcome = laterOutcome E rt w := by
    rw [laterOutcome, hstate, henv]
    rfl
  have hlive₃ : liveSwitches w₃.trace = liveSwitches w.trace := hvlan.live.trans hlive
  have hvlanState := hvlan.state
  rw [hplan] at hvlanState
  obtain ⟨hfinished, id, hstate₃⟩ | ⟨hne, hstate₃⟩ := hvlanState
  · -- The default VLAN went into the cache.
    refine iff_of_false (fun h ↦ ?_) fun h ↦ h.2.2.2.1 hfinished
    have hlist := h.vlanList
    rw [OracleWorld.mapState_state, hstate₃, Agent.registerAll_pushVlan, Agent.registerAll_pushVlan,
      OracleWorld.mapState_state, hstate] at hlist
    simp only [Agent.pushVlan, Agent.registerAll_vlanList] at hlist
    exact List.cons_ne_self _ _ hlist
  · -- Only registrations are left, and they change a table that lacks one of the handlers.
    have hfinal : (w₃.mapState fun a ↦ a.registerAll routerHandlers).state =
        (w.state.setSwitchOid o).registerAll
          ((if status = saiStatusSuccess then switchHandlers else []) ++
            (portHandlers ++ fdbHandlers) ++
            (if settled (laterOutcome E rt w) = some true then vlanHandlers else []) ++
            routerHandlers) := by
      rw [Agent.registerAll_append, Agent.registerAll_append, OracleWorld.mapState_state, hstate₃,
        OracleWorld.mapState_state, hstate]
    rw [untouched_registerAll_iff hfinal hlive₃]
    simp only [registered_append, registered_ite, LaterIdle, hne, ne_eq, not_false_eq_true,
      true_and, and_assoc]

/-- **`sai_switch_init` returned without having created a switch.** -/
theorem refusedCleanly_iff_of_early {status : SaiStatus} {o : Oid} (hr : IsReply reply)
    (hrun : EStateM.run (saiSwitchInit E rt) w = .ok status w')
    (hstate : w'.state = w.state.setSwitchOid o)
    (hlive : liveSwitches w'.trace = liveSwitches w.trace) :
    RefusedCleanly w (EStateM.run (saiagentIpcProcessSwitchInit E rt request reply) w) ↔
      (rt.switchInitStatus = rcStatusOk ∧ rt.routerInitStatus = rcStatusOk) ∨
        o = w.state.swInfo.switchOid ∧
          (status = saiStatusSuccess → Registered w.state.ipcCbList switchHandlers) ∧
          (rt.switchInitStatus = rcStatusOk → LaterIdle E rt w) := by
  have henv := (@executes_saiSwitchInit σ E rt w).env
  rw [hrun, worldOf_ok] at henv
  by_cases hsg : rt.switchInitStatus = rcStatusOk
  · obtain ⟨r, w₃, hreply, hstatus, hvlan⟩ :=
      run_processSwitchInit_of_eq request hsg hr hrun
    rw [hreply]
    -- An acknowledged request is not a refused one.
    by_cases hrg : rt.routerInitStatus = rcStatusOk
    · rw [if_pos hrg] at hstatus
      exact iff_of_true (fun h ↦ absurd (hstatus.symm.trans h) (by decide)) (Or.inl ⟨hsg, hrg⟩)
    · rw [if_neg hrg] at hstatus
      have hu := untouched_of_vlanInit hstate hlive henv hvlan
      rw [RefusedCleanly]
      simp only [hstatus, true_implies, hu, hsg, hrg, and_false, false_or]
  · obtain ⟨r, hreply, hstatus⟩ := run_processSwitchInit_of_ne request hsg hr hrun
    have hu : Untouched w (w'.mapState fun a ↦ a.registerAll
        (if status = saiStatusSuccess then switchHandlers else [])) ↔ _ :=
      untouched_registerAll_iff (congrArg (Agent.registerAll · _) hstate) hlive
    rw [hreply, RefusedCleanly]
    simp only [hstatus, true_implies, hu, registered_ite, hsg, false_and, false_or, false_implies,
      and_true]

/-- Once a switch exists, it is left behind. -/
theorem not_failsIdle_query (oid : Oid) (s : σ) : ¬FailsIdle E rt w
    ((queryPlan oid fun _ ↦ .done .complete).exec SaiResp.ok retried E s).outcome := by
  obtain ⟨c, r, ho, hc⟩ | ⟨v, ho, hv⟩ := queryPlan_outcome E oid s
  · rw [ho]
    cases c with
    | saiApiQuery api => exact absurd rfl (hc api)
    | _ => exact id
  · rw [ho]
    cases v with
    | stuck => exact absurd rfl hv
    | _ => exact id

/-- **A switch was created**: the request leaves it behind whenever it is answered with a
failure. -/
theorem refusedCleanly_iff_of_created {status : SaiStatus} {oid : Oid} (hr : IsReply reply)
    (hrun : EStateM.run (saiSwitchInit E rt) w = .ok status w')
    (hlive : liveSwitches w'.trace = liveSwitches w.trace ++ [oid]) :
    RefusedCleanly w (EStateM.run (saiagentIpcProcessSwitchInit E rt request reply) w) ↔
      rt.switchInitStatus = rcStatusOk ∧ rt.routerInitStatus = rcStatusOk := by
  have htouched : ∀ w₁ : World σ, liveSwitches w₁.trace = liveSwitches w'.trace →
      ¬Untouched w w₁ := by
    intro w₁ h₁ hu
    have hlength := congrArg List.length (h₁.symm.trans hu.live)
    rw [hlive, List.length_append] at hlength
    exact absurd hlength (Nat.succ_ne_self _)
  by_cases hsg : rt.switchInitStatus = rcStatusOk
  · obtain ⟨r, w₃, hreply, hstatus, hvlan⟩ :=
      run_processSwitchInit_of_eq request hsg hr hrun
    rw [hreply, RefusedCleanly, hstatus]
    by_cases hrg : rt.routerInitStatus = rcStatusOk
    · rw [if_pos hrg]
      exact iff_of_true (fun h ↦ absurd h (by decide)) ⟨hsg, hrg⟩
    · rw [if_neg hrg]
      exact iff_of_false (fun h ↦ htouched (w₃.mapState _) hvlan.live (h rfl)) fun h ↦ hrg h.2
  · obtain ⟨r, hreply, hstatus⟩ := run_processSwitchInit_of_ne request hsg hr hrun
    rw [hreply, RefusedCleanly, hstatus]
    exact iff_of_false (fun h ↦ htouched (w'.mapState _) rfl (h rfl)) fun h ↦ hsg h.1

variable (E rt w request)

/-- **A refused SWITCH_INIT leaves nothing behind** exactly where `sai_switch_init` runs into no
undefined behaviour and the two statuses acknowledge the request anyway, or where it fails before
it has changed anything and the later initialisers, where they run, find their work done. -/
theorem refusedInit_iff (out : MsgBuffer) :
    RefusedCleanly w (EStateM.run
        (saiagentIpcProcessSwitchInit E rt request (freshReply out.bytes)) w) ↔
      (¬Crashes Overruns (switchOutcome E rt w) ∧
        rt.switchInitStatus = rcStatusOk ∧ rt.routerInitStatus = rcStatusOk) ∨
        FailsIdle E rt w (switchOutcome E rt w) := by
  have hr := isReply_freshReply out.length_eq
  have hvalue := (@executes_saiSwitchInit σ E rt w).value
  obtain ⟨api, r, w', hout, hrun, hstate, hlive⟩ | ⟨w', hout, hrun, -⟩ |
    ⟨c, r, w', hout, hstatus, hrun, hstate, hlive⟩ |
    ⟨t, oid, w₁, hexec, hrun, -, hstate, hlive⟩ := switchInitRun E rt w
  · have hcrash : ¬Crashes Overruns (switchOutcome E rt w) := by
      rw [hrun] at hvalue
      exact hvalue.1
    rw [refusedCleanly_iff_of_early (o := w.state.swInfo.switchOid) hr hrun hstate hlive,
      and_iff_right hcrash, switchOutcome, hout, FailsIdle, SaiResp.ok_iff, eq_self_iff_true,
      true_and]
  · rw [run_processSwitchInit_of_fault hrun, switchOutcome, hout]
    exact iff_of_true rfl (Or.inr trivial)
  · have hcrash : ¬Crashes Overruns (switchOutcome E rt w) := by
      rw [hrun] at hvalue
      exact hvalue.1
    rw [refusedCleanly_iff_of_early hr hrun hstate hlive, and_iff_right hcrash, switchOutcome,
      hout, FailsIdle]
    simp only [hstatus, false_implies, true_and]
  · -- A switch was created, so a request that is answered did not fail without a trace.
    have hidle : ¬FailsIdle E rt w (switchOutcome E rt w) := by
      rw [switchOutcome, hexec]
      exact not_failsIdle_query oid w₁.env
    rw [or_iff_left hidle]
    rcases hquery : EStateM.run (saiSwitchQuery E) w₁ with ⟨status, w'⟩ | ⟨e, w'⟩
    · rw [hrun, hquery] at hvalue
      have hkeeps : Keeps (fun w : World σ ↦ liveSwitches w.trace) (saiSwitchQuery E) :=
        keeps_saiSwitchQuery blind_liveSwitches.quiet (fun _ _ ↦ rfl) (fun _ _ ↦ rfl)
          fun _ _ _ _ ↦ rfl
      have hlive' := (hkeeps.eq_of_ok hquery).trans hlive
      have hcrash : ¬Crashes Overruns (switchOutcome E rt w) := hvalue.1
      rw [refusedCleanly_iff_of_created hr (hrun.trans hquery) hlive', and_iff_right hcrash]
    · rw [hrun, hquery] at hvalue
      have hcrash : Crashes Overruns (switchOutcome E rt w) := hvalue
      rw [run_processSwitchInit_of_fault (hrun.trans hquery)]
      refine iff_of_false (fun hnull ↦ ?_) fun h ↦ h.1 hcrash
      cases (faultsIn_saiSwitchQuery w₁ e w' hquery).symm.trans hnull

/-- A SAI that creates a switch and answers no query about it. -/
def orphanScript : List SaiResp :=
  [SaiResp.bare saiStatusSuccess, SaiResp.bare saiStatusSuccess, ⟨saiStatusSuccess, some 7, [], []⟩]

/-- A switch that cannot be queried stays behind a refused request. -/
theorem refused_leaves_switch :
    ¬RefusedCleanly (⟨Agent.zero, orphanScript, []⟩ : World (List SaiResp))
      (EStateM.run (saiagentIpcProcessSwitchInit scriptedSai (Runtime.calm 1)
        (handedRequest zeroBuffer 4) (freshReply zeroBuffer)) ⟨Agent.zero, orphanScript, []⟩) := by
  have hrun : EStateM.run (saiSwitchInit scriptedSai (Runtime.calm 1))
      (⟨Agent.zero, orphanScript, []⟩ : World (List SaiResp)) = .ok saiStatusFailure _ := rfl
  obtain ⟨r, hreply, hstatus⟩ := run_processSwitchInit_of_ne
    (handedRequest zeroBuffer 4) (by decide) (isReply_freshReply length_zeroBuffer) hrun
  rw [hreply, RefusedCleanly, hstatus]
  intro h
  cases (h rfl).live

end SaiAgent
