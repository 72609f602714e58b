import SaiAgent.Model.Reply

/-!
# Ports

`saiagent_port.c` and the two lookups of `saiagent_switch.c` that index `sw_info` by the
driver's port number. The port number of a request is used as an index as it arrives.
-/

namespace SaiAgent

open Effects Effects.Proc

variable {σ : Type} (E : SaiBackend σ)

/-- `saiagent_switch_bridge_port_find`. -/
def saiagentSwitchBridgePortFind (portId : UInt32) : AgentM σ Oid := do
  let brPortList ← getState fun a ↦ a.swInfo.brPortList
  lift (brPortList.get portId.toNat)

/-- `sai_switch_port_find`, storing through `port_oid`. -/
def saiSwitchPortFind (portId : UInt32) (_portOid : Oid) : AgentM σ (SaiStatus × Oid) := do
  let portList ← getState fun a ↦ a.swInfo.portList
  let portOid ← lift (portList.get portId.toNat)
  return (saiStatusSuccess, portOid)

/-- `sai_port_admin_state_set`. -/
def saiPortAdminStateSet (portId : UInt32) (admin : UInt8) : AgentM σ SaiStatus :=
  saiRetErr (plainCall E (.saiApiQuery .port)) () fun _ ↦
  saiRetErr (saiSwitchPortFind portId) saiNullObjectId fun portOid ↦
  saiRetErr (plainCall E
    (.setPortAttribute portOid ⟨.portAdminState, .booldata (admin ≠ 0)⟩)) () fun _ ↦
  return saiStatusSuccess

/-- `sai_port_pvid_set`. -/
def saiPortPvidSet (portId : UInt32) (vid : UInt16) : AgentM σ SaiStatus :=
  saiRetErr (saiSwitchPortFind portId) saiNullObjectId fun portOid ↦
  saiRetErr (plainCall E (.saiApiQuery .port)) () fun _ ↦
  saiRetErr (plainCall E
    (.setPortAttribute portOid ⟨.portPortVlanId, .u16 vid⟩)) () fun _ ↦
  return saiStatusSuccess

/-- `saiagent_port_pvid_set`. -/
def saiagentPortPvidSet (portId : UInt32) (vid : UInt16) : AgentM σ Rc := do
  let status ← saiPortPvidSet E portId vid
  if status ≠ saiStatusSuccess then
    return rcStatusErr
  else
    return rcStatusOk

/-! ### Request handlers -/

/-- `saiagent_ipc_process_port_info_get`. -/
def saiagentIpcProcessPortInfoGet (request reply : SaiagentMsg) : Except Fault SaiagentMsg :=
  let req := PresteraMsgPortInfoReq.ofBuff (request.buff.getD [])
  let param : PresteraMsgPortInfoResp :=
    { ret := PresteraMsgRet.ackOk
      hwId := req.port
      devId := 1
      fpId := req.port.toUInt16
      pad := 0 }
  replaceWith reply param.bytes

/-- `saiagent_ipc_process_port_attr_set`. Only the PHY mode reaches SAI; the other attributes are
logged. -/
def saiagentIpcProcessPortAttrSet (request reply : SaiagentMsg) : AgentM σ SaiagentMsg :=
  let req := PresteraMsgPortAttrReq.ofBuff (request.buff.getD [])
  if req.attr = PresteraCmdPortAttr.phyMode then do
    let saiStatus ← saiPortAdminStateSet E req.port req.phyAdmin
    if saiStatus ≠ saiStatusSuccess then
      lift (saiagentIpcPutReplyAck reply rcStatusErr)
    else
      lift (saiagentIpcPutReplyAck reply rcStatusOk)
  else
    lift (saiagentIpcPutReplyAck reply rcStatusOk)

/-- The counters of a statistics response: all zero but the 64-octet packets. -/
def zeroStats : List UInt64 :=
  (List.replicate presteraPortCntMax 0).set presteraPortPkts64OctetsCnt 42

/-- The two responses `saiagent_ipc_process_port_attr_get` holds in its locals after its switch
on the attribute: the attribute response, and the statistics response where it was filled. -/
def portAttrResponses (attr : UInt32) :
    PresteraMsgPortAttrResp × Option PresteraMsgPortStatsResp :=
  let resp : PresteraMsgPortAttrResp := ⟨PresteraMsgRet.ackOk, PresteraMsgPortParam.zero⟩
  if attr = PresteraCmdPortAttr.capability then
    ({ resp with param := resp.param.setCap 0 0 0 0 }, none)
  else if attr = PresteraCmdPortAttr.stats then
    (resp, some ⟨PresteraMsgRet.ackOk, zeroStats, by decide⟩)
  else
    (resp, none)

/-- `saiagent_ipc_process_port_attr_get`: whichever response was filled, the attribute response is
sent. -/
def saiagentIpcProcessPortAttrGet (request reply : SaiagentMsg) : Except Fault SaiagentMsg :=
  let req := PresteraMsgPortAttrReq.ofBuff (request.buff.getD [])
  replaceWith reply (portAttrResponses req.attr).1.bytes

/-- `saiagent_port_init`. -/
def saiagentPortInit (rt : Runtime) : AgentM σ Rc := do
  let s₁ ← saiagentIpcCbSet PresteraCmdType.portInfoGet .portInfoGet
  let s₂ ← saiagentIpcCbSet PresteraCmdType.portAttrSet .portAttrSet
  let s₃ ← saiagentIpcCbSet PresteraCmdType.portAttrGet .portAttrGet
  return rt.portInitStatus ||| s₁ ||| s₂ ||| s₃

end SaiAgent
