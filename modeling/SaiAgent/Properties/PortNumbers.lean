import SaiAgent.Properties.OneSwitch
import SaiAgent.Properties.ReplyLayout
import SaiAgent.Properties.Returning

/-!
# Port numbers

The port number of a request is used as it arrives. `portValidated_iff` says for which numbers a
request is handled as if the number had been checked first: those of a port, when they are below the
length of the arrays as well. Every other number is either used past the end of an array, or carried
out on an entry that is no port, or acknowledged.
-/

namespace SaiAgent

open Effects Effects.Proc

variable {σ : Type} {E : SaiBackend σ} {rt : Runtime} {w : World σ}

/-- The calls that configure a port, a bridge port or a VLAN. -/
def SaiCall.configures : SaiCall → Bool
  | .setPortAttribute _ _ => true
  | .setBridgePortAttribute _ _ => true
  | .createVlan _ _ _ => true
  | .createVlanMember _ _ _ => true
  | _ => false

/-- The requests about a port: their handlers, and the attribute for `PORT_ATTR_SET`. -/
inductive PortRequest (buf : List UInt8) : Handler → Prop where
  | vlanPortSet : PortRequest buf .vlanPortSet
  | vlanPvidSet : PortRequest buf .vlanPvidSet
  | portAttrSet (h : (PresteraMsgPortAttrReq.ofBuff buf).attr = PresteraCmdPortAttr.phyMode) :
    PortRequest buf .portAttrSet
  | portInfoGet : PortRequest buf .portInfoGet

/-- The request is handled as if its port number had been checked: no array is indexed past its
end, and a number that is no port's is refused before anything is configured. SAI and the C runtime
are arbitrary; where SAI keeps to the room it is given, the arrays indexed by the port number are
the only ones that can be overrun. -/
def PortValidated (a : Agent) (buf : List UInt8) (size : UInt64) (out : List UInt8)
    (port : UInt32) : Prop :=
  ∀ (σ : Type) (E : SaiBackend σ) (rt : Runtime) (env : σ),
    let run := EStateM.run (saiagentIpcProcessReq E rt buf size (some out)
      (UInt64.ofNat saiagentMsgMaxSize)) ⟨a, env, []⟩
    (KeepsRoom E → ∀ w', run ≠ .error .outOfBounds w') ∧
    (¬port.toUInt64 < a.swInfo.numPorts → ∃ reply w', run = .ok reply w' ∧
      replyStatus reply = presteraCmdAckFailed ∧ ∀ e ∈ w'.trace, e.1.configures = false)

/-! ### The lookups -/

theorem run_saiSwitchPortFind_of_lt {port : UInt32} (h : port < 64) (v : Oid) :
    ∃ oid, w.state.swInfo.portList.get port.toNat = .ok oid ∧
      EStateM.run (saiSwitchPortFind port v) w = .ok (saiStatusSuccess, oid) w := by
  have hget := w.state.swInfo.portList.get_of_lt (UInt32.lt_iff_toNat_lt.1 h)
  refine ⟨_, hget, ?_⟩
  rw [saiSwitchPortFind, run_getState_bind, EStateM.run_bind, hget]
  rfl

theorem run_saiSwitchPortFind_of_le {port : UInt32} (h : ¬port < 64) (v : Oid) :
    EStateM.run (saiSwitchPortFind port v) w = .error .outOfBounds w := by
  have hle : 64 ≤ port.toNat := Nat.le_of_not_lt fun hlt ↦ h (UInt32.lt_iff_toNat_lt.2 hlt)
  rw [saiSwitchPortFind, run_getState_bind, EStateM.run_bind, w.state.swInfo.portList.get_of_le hle]
  rfl

/-- A port number below 64 is looked up, and the function goes on with the entry. -/
theorem run_saiRetErr_portFind_of_lt {port : UInt32} (h : port < 64) (v : Oid)
    (rest : Oid → AgentM σ SaiStatus) :
    ∃ oid, w.state.swInfo.portList.get port.toNat = .ok oid ∧
      EStateM.run (saiRetErr (saiSwitchPortFind port) v rest) w = EStateM.run (rest oid) w := by
  obtain ⟨oid, hget, hrun⟩ := run_saiSwitchPortFind_of_lt (w := w) h v
  refine ⟨oid, hget, ?_⟩
  rw [saiRetErr, EStateM.run_bind, hrun]
  rfl

theorem run_saiRetErr_portFind_of_le {port : UInt32} (h : ¬port < 64) (v : Oid)
    (rest : Oid → AgentM σ SaiStatus) :
    EStateM.run (saiRetErr (saiSwitchPortFind port) v rest) w = .error .outOfBounds w := by
  rw [saiRetErr, EStateM.run_bind, run_saiSwitchPortFind_of_le h]

/-- A bridge port is looked up in the same way. -/
theorem run_bridgePortFind_of_le {port : UInt32} (h : ¬port < 64) :
    EStateM.run (saiagentSwitchBridgePortFind port) w = .error .outOfBounds w := by
  have hle : 64 ≤ port.toNat := Nat.le_of_not_lt fun hlt ↦ h (UInt32.lt_iff_toNat_lt.2 hlt)
  rw [saiagentSwitchBridgePortFind, run_getState_bind, w.state.swInfo.brPortList.get_of_le hle]
  rfl

/-! ### Numbers from 64 on -/

variable {request reply : SaiagentMsg} {handler : Handler} {port : UInt32}

/-- **A number from 64 on is used past the end of an array**, when SAI lets the request come that
far. -/
theorem run_handler_of_le (hquery : ∀ api s, (E (.saiApiQuery api) s).1.ok = true)
    (hreq : PortRequest (request.buff.getD []) handler)
    (hport : port ∈ portOf handler (request.buff.getD [])) (hne : handler ≠ .portInfoGet)
    (hle : ¬port < 64) :
    ∃ w', EStateM.run (handler.run E rt request reply) w = .error .outOfBounds w' := by
  rcases hreq with _ | _ | hattr | _
  · obtain rfl := Option.some.inj hport
    rw [Handler.run, saiagentIpcProcessVlanPortSet, EStateM.run_bind, saiVlanAddPortMember,
      run_saiRetErr_plainCall_of_ok (hquery _ _), run_saiRetErr_plainCall_of_ok (hquery _ _),
      EStateM.run_bind, run_bridgePortFind_of_le hle]
    exact ⟨_, rfl⟩
  · obtain rfl := Option.some.inj hport
    rw [Handler.run, saiagentIpcProcessVlanPvidSet, EStateM.run_bind, saiagentPortPvidSet,
      EStateM.run_bind, saiPortPvidSet, run_saiRetErr_portFind_of_le hle]
    exact ⟨_, rfl⟩
  · obtain rfl := Option.some.inj hport
    rw [Handler.run, saiagentIpcProcessPortAttrSet, if_pos hattr, EStateM.run_bind,
      saiPortAdminStateSet, run_saiRetErr_plainCall_of_ok (hquery _ _),
        run_saiRetErr_portFind_of_le hle]
    exact ⟨_, rfl⟩
  · exact absurd rfl hne

/-! ### Numbers that are no port's -/

/-- The handler acknowledges once its operation reported success. -/
theorem run_ack_of_success {p : AgentM σ SaiStatus} {w' : World σ} (hr : IsReply reply)
    (h : EStateM.run p w = .ok saiStatusSuccess w') :
    ∃ reply', EStateM.run (p >>= fun status ↦
        if status ≠ saiStatusSuccess then lift (saiagentIpcPutReplyAck reply rcStatusErr)
        else lift (saiagentIpcPutReplyAck reply rcStatusOk)) w = .ok reply' w' ∧
      replyStatus reply' = presteraCmdAckOk := by
  obtain ⟨reply', hack, hstatus⟩ := run_lift_putReplyAck hr rcStatusOk w'
  refine ⟨reply', ?_, by rw [hstatus]; exact ackResponse_status_eq_ok.2 rfl⟩
  rw [EStateM.run_bind, h]
  exact hack

/-- A SAI that refuses one call and accepts everything after it. -/
def hesitantSai : SaiBackend Bool := fun _ hesitates ↦
  (SaiResp.bare (if hesitates then saiStatusFailure else saiStatusSuccess), false)

/-- A hesitant SAI refuses the first query of a function, and its second answer is the
function's. -/
theorem run_saiRetErr_hesitant {a : Agent} {t : List (SaiCall × SaiResp)} (c : SaiCall)
    (rest : Unit → AgentM Bool SaiStatus) :
    ∃ w', EStateM.run (saiRetErr (plainCall hesitantSai c) () rest) ⟨a, true, t⟩ =
      .ok saiStatusSuccess w' :=
  ⟨_, run_saiRetErr_plainCall_of_refused rfl⟩

/-- **Whatever its port number, some SAI gets the request acknowledged** — unless it is used past
the end of an array. -/
theorem exists_ack (a : Agent) (hr : IsReply reply)
    (hreq : PortRequest (request.buff.getD []) handler) (hport : port ∈ portOf handler
    (request.buff.getD [])) : (∃ w', EStateM.run (handler.run hesitantSai rt request reply)
        ⟨a, true, []⟩ = .error .outOfBounds w') ∨
      ∃ reply' w', EStateM.run (handler.run hesitantSai rt request reply) ⟨a, true, []⟩ =
        .ok reply' w' ∧ replyStatus reply' = presteraCmdAckOk := by
  -- The first refused call is repeated, and its second answer is what is acknowledged.
  rcases hreq with _ | _ | hattr | _
  · obtain ⟨w', hw⟩ := run_saiRetErr_hesitant (.saiApiQuery .vlan) _
    obtain ⟨reply', hrun, hack⟩ := run_ack_of_success hr hw
    exact Or.inr ⟨reply', w', hrun, hack⟩
  · by_cases hlt : (PresteraMsgVlanReq.ofBuff (request.buff.getD [])).port < 64
    · obtain ⟨oid, -, hfind⟩ := run_saiRetErr_portFind_of_lt (w := (⟨a, true, []⟩ : World Bool)) hlt
        saiNullObjectId _
      obtain ⟨w', hw⟩ := run_saiRetErr_hesitant (.saiApiQuery .port) _
      obtain ⟨reply', hack, hstatus⟩ := run_lift_putReplyAck hr rcStatusOk w'
      refine Or.inr ⟨reply', w', ?_, by rw [hstatus]; exact ackResponse_status_eq_ok.2 rfl⟩
      rw [Handler.run, saiagentIpcProcessVlanPvidSet, EStateM.run_bind, saiagentPortPvidSet,
        EStateM.run_bind, saiPortPvidSet, hfind, hw]
      exact hack
    · refine Or.inl ⟨⟨a, true, []⟩, ?_⟩
      rw [Handler.run, saiagentIpcProcessVlanPvidSet, EStateM.run_bind, saiagentPortPvidSet,
        EStateM.run_bind, saiPortPvidSet, run_saiRetErr_portFind_of_le hlt]
  · obtain ⟨w', hw⟩ := run_saiRetErr_hesitant (.saiApiQuery .port) _
    obtain ⟨reply', hrun, hack⟩ := run_ack_of_success hr hw
    refine Or.inr ⟨reply', w', ?_, hack⟩
    rw [Handler.run, saiagentIpcProcessPortAttrSet, if_pos hattr]
    exact hrun
  · obtain ⟨reply', h, -, hp, -⟩ := replaceWith_eq hr (n := 5)
      (PresteraMsgPortInfoResp.length_bytes ⟨PresteraMsgRet.ackOk,
        (PresteraMsgPortInfoReq.ofBuff (request.buff.getD [])).port, 1,
        (PresteraMsgPortInfoReq.ofBuff (request.buff.getD [])).port.toUInt16, 0⟩) (by decide)
    refine Or.inr ⟨reply', ⟨a, true, []⟩, ?_, ?_⟩
    · rw [Handler.run, saiagentIpcProcessPortInfoGet, h, run_lift_ok]
    · rw [PresteraMsgPortInfoResp.bytes, List.append_assoc, List.append_assoc, List.append_assoc]
        at hp
      rw [replyStatus_of_payload hp]
      rfl

/-! ### The condition -/

theorem PortRequest.ne (h : PortRequest (request.buff.getD []) handler) :
    handler ≠ .switchInit ∧ handler ≠ .switchReset := by
  rcases h with _ | _ | _ | _ <;> exact ⟨nofun, nofun⟩

/-- A request about a port returns when the number is below 64, and that of `PORT_INFO_GET`
always. -/
theorem total_portRequest (hroom : KeepsRoom E) (hr : IsReply reply)
    (hreq : PortRequest (request.buff.getD []) handler)
    (hport : port ∈ portOf handler (request.buff.getD []))
    (hlt : handler ≠ .portInfoGet → port < 64) : Total (handler.run E rt request reply) := by
  by_cases hinfo : handler = .portInfoGet
  · subst hinfo
    exact total_replaceWith hr (n := 5) (PresteraMsgPortInfoResp.length_bytes _) (by decide)
  · refine total_handler hroom hr (fun p hp ↦ ?_) hreq.ne.1 hreq.ne.2
    obtain rfl := Option.some.inj (hport.symm.trans hp)
    exact hlt hinfo

/-- **The port numbers that are handled as if they were checked** are those of the ports, as far as
they are below 64; `PORT_INFO_GET` indexes no array. -/
theorem portValidated_iff {a : Agent} {buf out : List UInt8} {size : UInt64} {handler : Handler}
    {port : UInt32} (hbuf : buf.length = saiagentMsgMaxSize)
    (hout : out.length = saiagentMsgMaxSize) (hsel : selected a.ipcCbList buf size = some handler)
    (hreq : PortRequest buf handler) (hport : port ∈ portOf handler buf) :
    PortValidated a buf size out port ↔
      port.toUInt64 < a.swInfo.numPorts ∧ (handler ≠ .portInfoGet → port < 64) := by
  have hbuf4 : 4 ≤ buf.length := by
    rw [hbuf]
    decide
  have hfresh := isReply_freshReply hout
  have hrun : ∀ (σ : Type) (E : SaiBackend σ) (rt : Runtime) (env : σ),
      EStateM.run (saiagentIpcProcessReq E rt buf size (some out) (UInt64.ofNat saiagentMsgMaxSize))
          ⟨a, env, []⟩ =
        EStateM.run (handler.run E rt (handedRequest buf size) (freshReply out)) ⟨a, env, []⟩ := by
    intro σ E rt env
    have hselected : selected (⟨a, env, []⟩ : World σ).state.ipcCbList buf size = some handler :=
      hsel
    rw [run_processReq hbuf4, hselected]
  constructor
  · intro h
    have hlt : port.toUInt64 < a.swInfo.numPorts := by
      by_contra hnot
      obtain ⟨reply, w', hok, hfailed, -⟩ := (h Bool hesitantSai (Runtime.calm 0) true).2 hnot
      rw [hrun] at hok
      -- Over a SAI that accepts a repeated call, the request is acknowledged or leaves the array.
      obtain ⟨w'', herror⟩ | ⟨reply', w'', hack, hstatus⟩ :=
        @exists_ack (Runtime.calm 0) (handedRequest buf size) _ _ _ a hfresh hreq hport
      · cases hok.symm.trans herror
      · cases hok.symm.trans hack
        exact absurd (hstatus.symm.trans hfailed) (by decide)
    refine ⟨hlt, fun hne ↦ by_contra fun hle ↦ ?_⟩
    obtain ⟨w', hfault⟩ := @run_handler_of_le _ calmSai (Runtime.calm 0)
      ⟨a, (), []⟩ (handedRequest buf size) (freshReply out) _ _
      saneSai_calmSai.query_ok hreq hport hne hle
    exact (h Unit calmSai (Runtime.calm 0) ()).1 saneSai_calmSai.toKeepsRoom w'
      ((hrun Unit calmSai (Runtime.calm 0) ()).trans hfault)
  · rintro ⟨hlt, hindex⟩ σ E rt env
    refine ⟨fun hroom w' hfault ↦ ?_, fun hnot ↦ absurd hlt hnot⟩
    obtain ⟨reply, w'', hret, -⟩ := @total_portRequest _ E rt (handedRequest buf size) _ _ _
      hroom hfresh hreq hport hindex ⟨a, env, []⟩ trivial
    cases ((hrun σ E rt env).trans hret).symm.trans hfault

/-- A bare VLAN_PVID_SET names port 0, one of two. -/
theorem portValidated_iff_vlanPvidSet :
    PortValidated ((Agent.zero.register Handler.vlanPvidSet.cmdType .vlanPvidSet).setDefaults 2 1 2)
      (bareRequest .vlanPvidSet) 16 zeroBuffer 0 :=
  (portValidated_iff (length_bareRequest _) length_zeroBuffer
    (selected_register (a := Agent.zero.setDefaults 2 1 2) (by decide) (cmdOf_bareRequest _))
    PortRequest.vlanPvidSet (by decide +kernel)).2 ⟨by decide, fun _ ↦ by decide⟩

/-- A SAI that brings up a switch with the ports 16 and 17, and their bridge ports 32 and 33. -/
def twoPorts : List SaiResp :=
  [SaiResp.bare saiStatusSuccess, SaiResp.bare saiStatusSuccess, ⟨saiStatusSuccess, some 7, [], []⟩,
    ⟨saiStatusSuccess, none, [⟨.switchPortList, .objlist 2⟩, ⟨.switchDefault1qBridgeId, .oid 1⟩,
      ⟨.switchDefaultVlanId, .oid 2⟩], [16, 17]⟩,
    ⟨saiStatusSuccess, none, [⟨.bridgePortList, .objlist 2⟩], [32, 33]⟩,
    SaiResp.bare saiStatusSuccess, SaiResp.bare saiStatusSuccess, SaiResp.bare saiStatusSuccess,
    ⟨saiStatusSuccess, none, [⟨.vlanVlanId, .u16 1⟩], []⟩]

/-- The agent after its first SWITCH_INIT over that SAI. -/
def twoPortsAgent : Agent :=
  (Session.exec scriptedSai (Session.start twoPorts)
    [{ switchInitInput with rt := Runtime.calm 0 }]).world.state

/-- `PORT_ATTR_SET` of the PHY mode of port 5. -/
def portFiveRequest : List UInt8 :=
  bufferOf (Bytes.le32 (UInt32.ofNat PresteraCmdType.portAttrSet) ++
    Bytes.le32 PresteraCmdPortAttr.phyMode ++ Bytes.le32 5)

/-- The switch has two ports, and a request about port 5 is acknowledged. -/
theorem unknown_port_acknowledged :
    ¬PortValidated twoPortsAgent portFiveRequest 144 zeroBuffer 5 := by
  intro h
  obtain ⟨reply, w', hrun, hfailed, -⟩ := (h Unit calmSai (Runtime.calm 0) ()).2 (by decide +kernel)
  have hack : (match EStateM.run (saiagentIpcProcessReq calmSai (Runtime.calm 0) portFiveRequest 144
      (some zeroBuffer) (UInt64.ofNat saiagentMsgMaxSize)) ⟨twoPortsAgent, (), []⟩ with
      | .ok reply _ => replyStatus reply
      | .error _ _ => presteraCmdAckFailed) = presteraCmdAckOk := by decide +kernel
  rw [hrun] at hack
  exact absurd (hack.symm.trans hfailed) (by decide)

end SaiAgent
