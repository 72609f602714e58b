import SaiAgent.Properties.Execution
import SaiAgent.Properties.ReplyLayout

/-!
# Fail-stop acknowledgements

What the agent *should* do for a request that sets something in SAI is a plan: a sequence of calls,
abandoned at the first one that is refused, acknowledged when it was carried out to its end.
The plans of `VLAN_PORT_SET`, `VLAN_PVID_SET` and `PORT_ATTR_SET` of the PHY mode are
`vlanPortPlan`, `portPvidPlan` and `portAdminPlan`; `executes_handler` says that the handlers
execute them through `SAI_RET_ERR`. So the acknowledgement is fail-stop exactly when the plan is not
refused at a call the macro makes once more (`failStopAck_iff`).
-/

namespace SaiAgent

open Effects Effects.Proc Effects.Plan Effects.Bytes

variable {σ A α β : Type} {E : SaiBackend σ} {rt : Runtime} {w : World σ}

/-! ### Ports -/

/-- Continue with a port the request names; a number from 64 on is no entry of the list. -/
def withPort (list : OidArray) (portId : UInt32) (next : Oid → SaiPlan) : SaiPlan :=
  match list.get portId.toNat with
  | .ok oid => next oid
  | .error _ => .done .stuck

/-- `PORT_ATTR_SET` of the PHY mode: query the port API, set the port's admin state. -/
def portAdminPlan (a : Agent) (portId : UInt32) (admin : UInt8) : SaiPlan :=
  .call (.saiApiQuery .port) fun _ ↦ withPort a.swInfo.portList portId fun portOid ↦
    lastCall (.setPortAttribute portOid ⟨.portAdminState, .booldata (admin ≠ 0)⟩)

/-- `VLAN_PVID_SET`: query the port API, set the port's VLAN id. -/
def portPvidPlan (a : Agent) (portId : UInt32) (vid : UInt16) : SaiPlan :=
  withPort a.swInfo.portList portId fun portOid ↦ .call (.saiApiQuery .port) fun _ ↦
    lastCall (.setPortAttribute portOid ⟨.portPortVlanId, .u16 vid⟩)

theorem executes_withPort {list : OidArray} {portId : UInt32} {k : Oid → AgentM σ SaiStatus}
    {next : Oid → SaiPlan} (h : ∀ oid, ExecutesStatus Overruns E (k oid) w (next oid)) :
    ExecutesStatus Overruns E (lift (list.get portId.toNat) >>= k) w
        (withPort list portId next) := by
  unfold withPort
  cases hget : list.get portId.toNat with
  | ok oid => exact Follows.lift_ok rfl (h oid)
  | error e => exact Follows.lift_error rfl trivial

theorem executes_portFind {portId : UInt32} {rest : Oid → AgentM σ SaiStatus}
    {next : Oid → SaiPlan} (h : ∀ portOid, ExecutesStatus Overruns E (rest portOid) w
    (next portOid)) :
    ExecutesStatus Overruns E (saiRetErr (saiSwitchPortFind portId) saiNullObjectId rest) w
      (withPort w.state.swInfo.portList portId next) := by
  have hrun : saiRetErr (saiSwitchPortFind portId) saiNullObjectId rest =
      (getState fun a ↦ a.swInfo.portList) >>= fun portList ↦
        lift (portList.get portId.toNat) >>= rest := by
    simp only [saiRetErr, saiSwitchPortFind, bind_assoc, pure_bind, ne_eq, not_true_eq_false,
      if_false]
  rw [hrun]
  exact Follows.getState (executes_withPort h)

theorem executes_portAdminStateSet (portId : UInt32) (admin : UInt8) :
    ExecutesStatus Overruns E (saiPortAdminStateSet E portId admin) w
      (portAdminPlan w.state portId admin) :=
  executes_plainCall (fun _ ↦ rfl) (fun _ ↦ id) fun _ ↦ executes_portFind fun _ ↦
    executes_lastCall (fun _ ↦ rfl) fun _ ↦ id

theorem executes_portPvidSet (portId : UInt32) (vid : UInt16) :
    ExecutesStatus Overruns E (saiPortPvidSet E portId vid) w (portPvidPlan w.state portId vid) :=
  executes_portFind fun _ ↦ executes_plainCall (fun _ ↦ rfl) (fun _ ↦ id) fun _ ↦
    executes_lastCall (fun _ ↦ rfl) fun _ ↦ id

/-! ### VLANs -/

/-- Set the bridge port up. -/
def enablePlan (brPortOid : Oid) : SaiPlan :=
  lastCall (.setBridgePortAttribute brPortOid ⟨.bridgePortAdminState, .booldata true⟩)

/-- Ask each member what it belongs to until one is the port's; `found` gets it, or null. -/
def scanPlan (vlanOid brPortOid : Oid) (members : OidArray) (found : Oid → SaiPlan) :
    ℕ → ℕ → SaiPlan
  | 0, _ => found saiNullObjectId
  | n + 1, i =>
    match members.get i with
    | .error _ => .done .stuck
    | .ok member => .call (memberQuery member) fun r ↦
      if vlanOid = (attrValue r.attr 0).getOid ∧ brPortOid = (attrValue r.attr 1).getOid then
        found member
      else
        scanPlan vlanOid brPortOid members found n (i + 1)

/-- Create the member unless there is one, and set the bridge port up. -/
def ensurePlan (switchOid vlanOid brPortOid : Oid) (tag : Bool) (portVlanOid : Oid) : SaiPlan :=
  if portVlanOid ≠ saiNullObjectId then
    enablePlan brPortOid
  else
    .call (createMember switchOid vlanOid brPortOid tag) fun _ ↦ enablePlan brPortOid

/-- Read the VLAN's member list and continue with the array and its length. -/
def memberListPlan (rt : Runtime) (vlanOid : Oid) (next : OidArray → ℕ → SaiPlan) : SaiPlan :=
  .call (.getVlanAttribute vlanOid 1 [⟨.vlanMemberList, .objlist OidArray.arrayLen⟩]) fun r ↦
    match rt.vlanMemberList.store OidArray.arrayLen r.list with
    | .error _ => .done .stuck
    | .ok members => next members (attrValue r.attr 0).getCount.toNat

/-- Use the cached VLAN, or create one and cache it. -/
def vlanPlan (a : Agent) (rt : Runtime) (vid : UInt16) (next : Oid → SaiPlan) : SaiPlan :=
  match saiagentVlanGet a.vlanList vid with
  | some info => next info.oid
  | none => .call (.createVlan a.swInfo.switchOid 1 [⟨.vlanVlanId, .u16 vid⟩]) fun r ↦
    if rt.vlanInfoCalloc then next (r.outOid.getD saiNullObjectId) else .done .failed

/-- `VLAN_PORT_SET`. -/
def vlanPortPlan (a : Agent) (rt : Runtime) (vid : UInt16) (portId : UInt32)
    (tag : Bool) : SaiPlan :=
  .call (.saiApiQuery .vlan) fun _ ↦ .call (.saiApiQuery .bridge) fun _ ↦
    withPort a.swInfo.brPortList portId fun brPortOid ↦
      if brPortOid = saiNullObjectId then
        .done .failed
      else
        vlanPlan a rt vid fun vlanOid ↦ memberListPlan rt vlanOid fun members n ↦
          scanPlan vlanOid brPortOid members
            (ensurePlan a.swInfo.switchOid vlanOid brPortOid tag) n 0

theorem executes_enableBridgePort (brPortOid : Oid) :
    ExecutesStatus Overruns E (enableBridgePort E brPortOid) w (enablePlan brPortOid) :=
  executes_lastCall (fun _ ↦ rfl) fun _ ↦ id

theorem executes_ensureMember (vlanOid brPortOid : Oid) (tag : Bool) (portVlanOid : Oid) :
    ExecutesStatus Overruns E (ensureMember E vlanOid brPortOid tag portVlanOid) w
      (ensurePlan w.state.swInfo.switchOid vlanOid brPortOid tag portVlanOid) := by
  unfold ensureMember ensurePlan
  by_cases h : portVlanOid ≠ saiNullObjectId
  · rw [if_pos h, if_pos h]
    exact executes_enableBridgePort brPortOid
  · rw [if_neg h, if_neg h]
    exact Follows.getState (executes_ask (fun _ ↦ rfl) (fun _ hr ↦ hr) fun _ ↦
      executes_enableBridgePort brPortOid)

/-- The scan makes no assignment, so what follows it starts in the agent's state of before. -/
theorem executes_scanMembers {vlanOid brPortOid : Oid} {members : OidArray}
    {rest : Oid → AgentM σ SaiStatus} {found : Oid → SaiPlan} {a : Agent}
    (h : ∀ (w : World σ) o, w.state = a → ExecutesStatus Overruns E (rest o) w (found o)) :
    ∀ (n i : ℕ) (w : World σ), w.state = a →
      ExecutesStatus Overruns E (scanMembers E vlanOid brPortOid members rest n i) w
        (scanPlan vlanOid brPortOid members found n i)
  | 0, _, w, hw => h w saiNullObjectId hw
  | n + 1, i, w, hw => by
    unfold scanMembers scanPlan
    cases hget : members.get i with
    | error e => exact Follows.lift_error rfl trivial
    | ok member =>
      refine Follows.lift_ok rfl (executes_ask (fun _ ↦ rfl) (fun _ _ ↦ by decide) fun r ↦ ?_)
      split
      · exact h _ member hw
      · exact executes_scanMembers h n (i + 1) _ hw

/-- What the member list query stores stays in the locals. -/
theorem stores_memberListCall (vlanOid : Oid) :
    Stores Overruns (fun l : List SaiAttribute × OidArray ↦ .getVlanAttribute vlanOid 1 l.1)
      fun l r ↦ (do
        let list ← lift (l.2.store (attrValue l.1 0).getCount r.list)
        return (r.attr, list) : AgentM σ _) := by
  refine ⟨fun l r w ↦ ?_, fun l r w ↦ ?_, fun l r w ↦ ?_⟩
  · cases l.2.store (attrValue l.1 0).getCount r.list <;> rfl
  · cases l.2.store (attrValue l.1 0).getCount r.list <;> rfl
  · refine Iff.trans ?_ (l.2.store_eq_error_iff (attrValue l.1 0).getCount r.list)
    cases l.2.store (attrValue l.1 0).getCount r.list with
    | ok list => exact iff_of_false (by rintro ⟨e, he⟩; cases he) (by rintro ⟨e, he⟩; cases he)
    | error e => exact iff_of_true ⟨e, rfl⟩ ⟨e, rfl⟩

theorem executes_memberList {vlanOid : Oid}
    {rest : List SaiAttribute × OidArray → AgentM σ SaiStatus} {next : OidArray → ℕ → SaiPlan}
    (h : ∀ (w' : World σ) attr members, w'.state = w.state →
      ExecutesStatus Overruns E (rest (attr, members)) w'
        (next members (attrValue attr 0).getCount.toNat)) :
    ExecutesStatus Overruns E (saiRetErr (memberListCall E vlanOid)
      ([⟨.vlanMemberList, .objlist OidArray.arrayLen⟩], rt.vlanMemberList) rest) w
      (memberListPlan rt vlanOid next) := by
  refine executes_saiRetErr (stores_memberListCall vlanOid) fun r ↦ ?_
  obtain ⟨members, hm, -⟩ := rt.vlanMemberList.store_arrayLen r.list
  have hstore : rt.vlanMemberList.store
      (attrValue [⟨.vlanMemberList, .objlist OidArray.arrayLen⟩] 0).getCount r.list =
        .ok members := hm
  rw [hstore, hm]
  exact ⟨(r.attr, members), _, rfl, rfl, fun _ _ ↦ h _ r.attr members rfl⟩

theorem executes_useOrCreateVlan {vid : UInt16} {rest : Oid → AgentM σ SaiStatus}
    {next : Oid → SaiPlan}
    (h : ∀ (w' : World σ) vlanOid, w'.state.swInfo = w.state.swInfo →
      ExecutesStatus Overruns E (rest vlanOid) w' (next vlanOid)) :
    ExecutesStatus Overruns E (useOrCreateVlan E rt vid rest) w (vlanPlan w.state rt vid next) := by
  refine Follows.getState ?_
  unfold vlanPlan
  cases saiagentVlanGet w.state.vlanList vid with
  | some info => exact h w info.oid rfl
  | none =>
    refine Follows.getState (executes_ask (fun _ ↦ rfl) (fun _ hr ↦ hr) fun r ↦ ?_)
    unfold saiagentVlanAddNew
    cases rt.vlanInfoCalloc with
    | true =>
      simp only [if_true, bind_assoc, pure_bind]
      exact Follows.modState (h _ _ rfl)
    | false => exact executes_failure

theorem executes_vlanAddPortMember (vid : UInt16) (portId : UInt32) (tag : Bool) :
    ExecutesStatus Overruns E (saiVlanAddPortMember E rt vid portId tag) w
      (vlanPortPlan w.state rt vid portId tag) := by
  refine executes_plainCall (fun _ ↦ rfl) (fun _ ↦ id) fun _ ↦
    executes_plainCall (fun _ ↦ rfl) (fun _ ↦ id) fun _ ↦ ?_
  simp only [saiagentSwitchBridgePortFind, bind_assoc]
  refine Follows.getState (executes_withPort fun brPortOid ↦ ?_)
  by_cases hnull : brPortOid = saiNullObjectId
  · rw [if_pos hnull, if_pos hnull]
    exact executes_failure
  · rw [if_neg hnull, if_neg hnull]
    refine executes_useOrCreateVlan fun w₁ vlanOid hw₁ ↦
      executes_memberList fun w₂ attr members hw₂ ↦
        executes_scanMembers (a := w₁.state) (fun w₃ o hw₃ ↦ ?_) _ 0 w₂ hw₂
    have hswitch : w₃.state.swInfo.switchOid = w.state.swInfo.switchOid := by
      rw [hw₃, hw₁]
      rfl
    rw [← hswitch]
    exact executes_ensureMember vlanOid brPortOid tag o

/-! ### Requests -/

/-- The plan of a request that sets something in SAI, as its handler reads it from the buffer. -/
def operationPlan (rt : Runtime) (a : Agent) (buf : List UInt8) : Handler → Option SaiPlan
  | .vlanPortSet =>
    let req := PresteraMsgVlanReq.ofBuff buf
    some (vlanPortPlan a rt req.vid req.port (req.isTagged ≠ 0))
  | .vlanPvidSet =>
    let req := PresteraMsgVlanReq.ofBuff buf
    some (portPvidPlan a req.port req.vid)
  | .portAttrSet =>
    let req := PresteraMsgPortAttrReq.ofBuff buf
    if req.attr = PresteraCmdPortAttr.phyMode then
      some (portAdminPlan a req.port req.phyAdmin)
    else
      none
  | _ => none

/-- The calls that set a port or a bridge port. -/
def SaiCall.IsSet : SaiCall → Prop
  | .setPortAttribute _ _ => True
  | .setBridgePortAttribute _ _ => True
  | _ => False

variable {P : SaiCall → Prop} {v : Verdict}

theorem endsWith_withPort {list : OidArray} {portId : UInt32} {next : Oid → SaiPlan}
    (hstuck : v ≠ .stuck) (h : ∀ o, list.get portId.toNat = .ok o → (next o).EndsWith P v) :
    (withPort list portId next).EndsWith P v := by
  unfold withPort
  cases hget : list.get portId.toNat with
  | ok o => exact h o hget
  | error e => exact hstuck.symm

theorem endsWith_lastCall {c : SaiCall} (hc : P c) : (lastCall c).EndsWith P v :=
  fun _ ↦ Or.inl ⟨_, rfl, hc⟩

theorem endsWith_scanPlan {vlanOid brPortOid : Oid} {members : OidArray} {found : Oid → SaiPlan}
    (hstuck : v ≠ .stuck) (h : ∀ o, (found o).EndsWith P v) :
    ∀ n i, (scanPlan vlanOid brPortOid members found n i).EndsWith P v
  | 0, _ => h _
  | n + 1, i => by
    unfold scanPlan
    cases members.get i with
    | error e => exact hstuck.symm
    | ok member =>
      refine fun r ↦ Or.inr ?_
      dsimp only
      split
      · exact h member
      · exact endsWith_scanPlan hstuck h n (i + 1)

/-- Every way through `VLAN_PORT_SET` ends with enabling the bridge port, unless it was given up
before: for want of a bridge port or of memory. -/
theorem endsWith_vlanPortPlan {a : Agent} {vid : UInt16} {portId : UInt32} {tag : Bool}
    (hstuck : v ≠ .stuck)
    (hnull : ∀ b, a.swInfo.brPortList.get portId.toNat = .ok b → b = saiNullObjectId → v ≠ .failed)
    (hcalloc : rt.vlanInfoCalloc = false → v ≠ .failed)
    (henable : ∀ b, a.swInfo.brPortList.get portId.toNat = .ok b → (enablePlan b).EndsWith P v) :
    (vlanPortPlan a rt vid portId tag).EndsWith P v := by
  refine fun _ ↦ Or.inr fun _ ↦ Or.inr (endsWith_withPort hstuck fun b hb ↦ ?_)
  -- The scan ends in the calls that make the port a member and enable its bridge port.
  have hscan : ∀ vlanOid, (memberListPlan rt vlanOid fun members n ↦
      scanPlan vlanOid b members (ensurePlan a.swInfo.switchOid vlanOid b tag) n
          0).EndsWith P v := by
    refine fun vlanOid r ↦ Or.inr ?_
    dsimp only
    cases rt.vlanMemberList.store OidArray.arrayLen r.list with
    | error e => exact hstuck.symm
    | ok members =>
      refine endsWith_scanPlan hstuck (fun o ↦ ?_) _ 0
      unfold ensurePlan
      split
      · exact henable b hb
      · exact fun _ ↦ Or.inr (henable b hb)
  split
  · exact (hnull b hb ‹_›).symm
  · unfold vlanPlan
    split
    · exact hscan _
    · refine fun r ↦ Or.inr ?_
      dsimp only
      split
      · exact hscan _
      · exact (hcalloc (Bool.not_eq_true _ ▸ ‹¬_›)).symm

/-- **Every operation's path ends with the call that sets the port or the bridge port.** -/
theorem endsWith_operationPlan {a : Agent} {buf : List UInt8} {handler : Handler} {plan : SaiPlan}
    (hplan : operationPlan rt a buf handler = some plan) :
    plan.EndsWith SaiCall.IsSet .complete := by
  cases handler with
  | vlanPortSet =>
    cases hplan
    exact endsWith_vlanPortPlan nofun (fun _ _ _ ↦ nofun) (fun _ ↦ nofun) fun _ _ ↦
      endsWith_lastCall trivial
  | vlanPvidSet =>
    cases hplan
    exact endsWith_withPort nofun fun _ _ _ ↦ Or.inr (endsWith_lastCall trivial)
  | portAttrSet =>
    simp only [operationPlan] at hplan
    split at hplan
    · cases hplan
      exact fun _ ↦ Or.inr (endsWith_withPort nofun fun _ _ ↦ endsWith_lastCall trivial)
    · cases hplan
  | switchInit | keepaliveInit | switchReset | portInfoGet | portAttrGet | switchAttrSet
  | vlanCreate | vlanDelete | stpPortSet | fdbFlushPort | routerMpHashSet | routerVrCreate
  | routerVrDel | routerLpmAdd | routerLpmDel => cases hplan

/-- Acknowledge what SAI answered. -/
theorem executes_ackSaiStatus {p : AgentM σ SaiStatus} {plan : SaiPlan} {reply : SaiagentMsg}
    (hr : IsReply reply) (h : ExecutesStatus Overruns E p w plan) :
    Executes Overruns E (p >>= fun saiStatus ↦
      if saiStatus ≠ saiStatusSuccess then lift (saiagentIpcPutReplyAck reply rcStatusErr)
      else lift (saiagentIpcPutReplyAck reply rcStatusOk)) w plan
      (fun r ↦ replyStatus r = presteraCmdAckOk)
      (fun r ↦ replyStatus r = presteraCmdAckFailed) := by
  refine executes_bind h (fun s hs w' ↦ ?_) fun s hs w' ↦ ?_
  · rw [if_neg (not_ne_iff.2 hs)]
    exact run_lift_putReplyAck hr rcStatusOk w'
  · rw [if_pos hs]
    exact run_lift_putReplyAck hr rcStatusErr w'

/-- **A handler executes its plan and acknowledges the way it was executed.** -/
theorem executes_handler {handler : Handler} {request reply : SaiagentMsg} {plan : SaiPlan}
    (hr : IsReply reply)
    (hplan : operationPlan rt w.state (request.buff.getD []) handler = some plan) :
    Executes Overruns E (handler.run E rt request reply) w plan
      (fun r ↦ replyStatus r = presteraCmdAckOk)
      (fun r ↦ replyStatus r = presteraCmdAckFailed) := by
  cases handler with
  | vlanPortSet =>
    cases hplan
    exact executes_ackSaiStatus hr (executes_vlanAddPortMember _ _ _)
  | vlanPvidSet =>
    cases hplan
    have hstatus : Executes Overruns E (saiagentPortPvidSet E _ _) w _ (· = rcStatusOk)
        (· = rcStatusErr) :=
      executes_bind (executes_portPvidSet (PresteraMsgVlanReq.ofBuff (request.buff.getD [])).port
          (PresteraMsgVlanReq.ofBuff (request.buff.getD [])).vid)
        (fun s hs w' ↦ ⟨rcStatusOk, by rw [if_neg (not_ne_iff.2 hs)]; rfl, rfl⟩)
        fun s hs w' ↦ ⟨rcStatusErr, by rw [if_pos hs]; rfl, rfl⟩
    refine executes_bind hstatus (fun s hs w' ↦ ?_) fun s hs w' ↦ ?_
    · rw [hs]
      exact run_lift_putReplyAck hr rcStatusOk w'
    · rw [hs]
      exact run_lift_putReplyAck hr rcStatusErr w'
  | portAttrSet =>
    simp only [operationPlan] at hplan
    simp only [Handler.run, saiagentIpcProcessPortAttrSet]
    split at hplan
    · cases hplan
      rw [if_pos ‹_›]
      exact executes_ackSaiStatus hr (executes_portAdminStateSet _ _)
    · cases hplan
  | switchInit | keepaliveInit | switchReset | portInfoGet | portAttrGet | switchAttrSet
  | vlanCreate | vlanDelete | stpPortSet | fdbFlushPort | routerMpHashSet | routerVrCreate
  | routerVrDel | routerLpmAdd | routerLpmDel => cases hplan

/-! ### Soundness of the acknowledgement -/

/-- The run of a request is fail-stop, and so is its acknowledgement: no call is made after one
that was refused; success is acknowledged only when the plan was carried out to its end, every call
answered with success and the last one setting the port; after a refusal, failure is. A run that
stops at an access past an array acknowledges nothing: of it, only the calls made before are spoken
of. -/
structure FailStopAck (E : SaiBackend σ) (plan : SaiPlan) (w : World σ)
    (res : EStateM.Result Fault (World σ) SaiagentMsg) (calls : List (SaiCall × SaiResp)) :
    Prop where
  trace : (worldOf res).trace = w.trace ++ calls
  failStop : FailStop SaiResp.ok calls
  ackOk : ∀ reply, valueOf res = .ok reply → replyStatus reply = presteraCmdAckOk →
    AllOk SaiResp.ok calls ∧ (∃ calls' e, calls = calls' ++ [e] ∧ e.1.IsSet) ∧
      calls = (plan.exec SaiResp.ok never E w.env).trace ∧
      (plan.exec SaiResp.ok never E w.env).outcome = .finished .complete
  ackFailed : ∀ reply, valueOf res = .ok reply → ¬AllOk SaiResp.ok calls →
    replyStatus reply = presteraCmdAckFailed

/-- What executes a plan acknowledges it soundly exactly when the plan is not refused at a call
that is made once more. -/
theorem failStopAck_iff_of_executes {p : AgentM σ SaiagentMsg} {plan : SaiPlan}
    (hends : plan.EndsWith SaiCall.IsSet .complete)
    (h : Executes Overruns E p w plan (fun r ↦ replyStatus r = presteraCmdAckOk)
      (fun r ↦ replyStatus r = presteraCmdAckFailed)) :
    (∃ calls, FailStopAck E plan w (EStateM.run p w) calls) ↔
      ¬(plan.exec SaiResp.ok never E w.env).outcome.RefusedAt retried := by
  rw [← isRepeated_iff_refusedAt, ← failStop_exec_iff]
  constructor
  · rintro ⟨calls, hack⟩
    have hcalls := List.append_cancel_left (hack.trace.symm.trans h.trace)
    rw [← hcalls]
    exact hack.failStop
  · intro hstop
    have hrep := failStop_exec_iff (E := E) plan w.env |>.1 hstop
    refine ⟨_, h.trace, hstop, fun reply hreply hok ↦ ?_, fun reply hreply hbad ↦ ?_⟩
    · -- An acknowledged reply: only a plan that was finished as complete is acknowledged.
      have hvalue := h.value
      rw [hreply] at hvalue
      cases ho : (plan.exec SaiResp.ok retried E w.env).outcome with
      | finished v =>
        rw [ho] at hvalue
        cases v with
        | complete =>
          rw [exec_eq_of_finished ho never]
          exact ⟨allOk_of_finished ho, hends.exists_last ho, rfl, ho⟩
        | failed =>
          rcases hvalue with ⟨-, ⟨hv, -⟩ | ⟨-, hv⟩⟩
          · cases hv
          · exact absurd (hok.symm.trans hv) (by decide)
        | stuck => exact absurd trivial hvalue.1
      | refused c r =>
        rw [ho] at hvalue
        rcases hvalue with ⟨-, ⟨hv, -⟩ | ⟨-, hv⟩⟩
        · cases hv
        · exact absurd (hok.symm.trans hv) (by decide)
      | repeated c r =>
        rw [ho] at hrep
        exact absurd trivial hrep
    · have hvalue := h.value
      rw [hreply] at hvalue
      cases ho : (plan.exec SaiResp.ok retried E w.env).outcome with
      | finished v => exact absurd (allOk_of_finished ho) hbad
      | refused c r =>
        rw [ho] at hvalue
        rcases hvalue with ⟨-, ⟨hv, -⟩ | ⟨-, hv⟩⟩
        · cases hv
        · exact hv
      | repeated c r =>
        rw [ho] at hrep
        exact absurd trivial hrep

/-- **Which acknowledgements are fail-stop sound.** For every SAI, every state of the agent
and every request that sets something: exactly those where the operation's plan, executed fail-stop,
is not refused at a call that `SAI_RET_ERR` wraps. -/
theorem failStopAck_iff {buf out : List UInt8} {size : UInt64} {handler : Handler} {plan : SaiPlan}
    (hbuf : buf.length = saiagentMsgMaxSize) (hout : out.length = saiagentMsgMaxSize)
    (hsel : selected w.state.ipcCbList buf size = some handler)
    (hplan : operationPlan rt w.state buf handler = some plan) :
    (∃ calls, FailStopAck E plan w (EStateM.run (saiagentIpcProcessReq E rt buf size (some out)
      (UInt64.ofNat saiagentMsgMaxSize)) w) calls) ↔
      ¬(plan.exec SaiResp.ok never E w.env).outcome.RefusedAt retried := by
  have hmax : saiagentMsgMaxSize = 1500 := rfl
  rw [run_processReq (by omega), hsel]
  exact failStopAck_iff_of_executes (endsWith_operationPlan hplan)
    (executes_handler (isReply_freshReply hout) hplan)

/-- A `VLAN_PVID_SET` whose two calls succeed is acknowledged soundly. -/
theorem failStopAck_iff_vlanPvidSet :
    ∃ calls, FailStopAck scriptedSai (portPvidPlan Agent.zero 0 0)
      (worldWith .vlanPvidSet [SaiResp.bare saiStatusSuccess, SaiResp.bare saiStatusSuccess])
      (EStateM.run (saiagentIpcProcessReq scriptedSai (Runtime.calm 0) (bareRequest .vlanPvidSet) 16
        (some zeroBuffer) (UInt64.ofNat saiagentMsgMaxSize))
        (worldWith .vlanPvidSet [SaiResp.bare saiStatusSuccess, SaiResp.bare saiStatusSuccess]))
      calls :=
  (failStopAck_iff (length_bareRequest _) length_zeroBuffer
    (selected_register (by decide) (cmdOf_bareRequest .vlanPvidSet)) rfl).2 id

/-- A query that fails and succeeds when it is repeated is acknowledged as a success, though nothing
was set. -/
theorem ack_after_refusal :
    ¬∃ calls, FailStopAck scriptedSai (portPvidPlan Agent.zero 0 0)
      (worldWith .vlanPvidSet [SaiResp.bare saiStatusFailure, SaiResp.bare saiStatusSuccess])
      (EStateM.run (saiagentIpcProcessReq scriptedSai (Runtime.calm 0) (bareRequest .vlanPvidSet) 16
        (some zeroBuffer) (UInt64.ofNat saiagentMsgMaxSize))
        (worldWith .vlanPvidSet [SaiResp.bare saiStatusFailure, SaiResp.bare saiStatusSuccess]))
      calls := by
  rintro ⟨calls, h⟩
  have hcalls : calls = [(.saiApiQuery .port, SaiResp.bare saiStatusFailure),
      (.saiApiQuery .port, SaiResp.bare saiStatusSuccess)] :=
    h.trace.symm.trans (by decide +kernel)
  have hstop := h.failStop
  rw [hcalls] at hstop
  exact not_failStop_cons_cons rfl hstop

end SaiAgent
