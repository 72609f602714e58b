import SaiAgent.Model.Thread
import SaiAgent.Model.Vlan

/-!
# The switch, the router and the forwarding database

`saiagent_switch.c`, `saiagent_router.c` and `saiagent_fdb.c`: bringing the switch up and down, the
keepalive thread, and the handlers that acknowledge what they do not carry out.
-/

namespace SaiAgent

open Effects Effects.Proc

variable {σ : Type} (E : SaiBackend σ) (rt : Runtime)

/-! ### Router and forwarding database -/

/-- `saiagent_ipc_process_router_vr_create`: the response with the virtual router's id is put
into the reply, and the acknowledgement after it. -/
def saiagentIpcProcessRouterVrCreate (_request reply : SaiagentMsg) : Except Fault SaiagentMsg :=
  let param : PresteraMsgVrResp := { ret := PresteraMsgRet.ackOk, vrId := 1, pad := 0 }
  match replaceWith reply param.bytes with
  | .ok reply' => saiagentIpcPutReplyAck reply' rcStatusOk
  | .error e => .error e

/-- `saiagent_ipc_process_router_vr_del`. -/
def saiagentIpcProcessRouterVrDel (_request reply : SaiagentMsg) : Except Fault SaiagentMsg :=
  acknowledge reply

/-- `saiagent_ipc_process_router_mp_hash_set`. -/
def saiagentIpcProcessRouterMpHashSet (_request reply : SaiagentMsg) : Except Fault SaiagentMsg :=
  acknowledge reply

/-- `saiagent_ipc_process_router_lpm_add`. -/
def saiagentIpcProcessRouterLpmAdd (_request reply : SaiagentMsg) : Except Fault SaiagentMsg :=
  acknowledge reply

/-- `saiagent_ipc_process_router_lpm_del`. -/
def saiagentIpcProcessRouterLpmDel (_request reply : SaiagentMsg) : Except Fault SaiagentMsg :=
  acknowledge reply

/-- `saiagent_ipc_process_fdb_flush_port`. -/
def saiagentIpcProcessFdbFlushPort (_request reply : SaiagentMsg) : Except Fault SaiagentMsg :=
  acknowledge reply

/-- `saiagent_router_init`. -/
def saiagentRouterInit : AgentM σ Rc := do
  let s₁ ← saiagentIpcCbSet PresteraCmdType.routerMpHashSet .routerMpHashSet
  let s₂ ← saiagentIpcCbSet PresteraCmdType.routerVrCreate .routerVrCreate
  let s₃ ← saiagentIpcCbSet PresteraCmdType.routerVrDelete .routerVrDel
  let s₄ ← saiagentIpcCbSet PresteraCmdType.routerLpmAdd .routerLpmAdd
  let s₅ ← saiagentIpcCbSet PresteraCmdType.routerLpmDelete .routerLpmDel
  return rt.routerInitStatus ||| s₁ ||| s₂ ||| s₃ ||| s₄ ||| s₅

/-- `saiagent_fdb_init`. -/
def saiagentFdbInit : AgentM σ Rc := do
  let s₁ ← saiagentIpcCbSet PresteraCmdType.fdbFlushPort .fdbFlushPort
  return rt.fdbInitStatus ||| s₁

/-! ### Bringing the switch up -/

/-- The attributes `create_switch` is given: initialise, profile 0, hardware `"wm"`. -/
def createSwitchAttr : List SaiAttribute :=
  [⟨.switchInitSwitch, .booldata true⟩, ⟨.switchSwitchProfileId, .u32 0⟩,
    ⟨.switchSwitchHardwareInfo, .s8list [119, 109, 0]⟩]

/-- What a list query stores: SAI writes the ids straight into an array of `sw_info`. -/
def storeOids (get : Agent → OidArray) (set : Agent → OidArray → Agent) (attr : List SaiAttribute)
    (r : SaiResp) : AgentM σ (List SaiAttribute) := do
  let list ← getState get
  let list ← lift (list.store (attrValue attr 0).getCount r.list)
  modState fun a ↦ set a list
  return r.attr

/-- The switch attribute query; the ports go into `sw_info.port_list`. -/
def switchAttrCall (switchOid : Oid) :
    List SaiAttribute → AgentM σ (SaiStatus × List SaiAttribute) :=
  saiCall E (.getSwitchAttribute switchOid 3)
    (storeOids (fun a ↦ a.swInfo.portList) Agent.setPortList)

/-- The bridge port query; the bridge ports go into `sw_info.br_port_list`. -/
def bridgeAttrCall (bridgeOid : Oid) :
    List SaiAttribute → AgentM σ (SaiStatus × List SaiAttribute) :=
  saiCall E (.getBridgeAttribute bridgeOid 1)
    (storeOids (fun a ↦ a.swInfo.brPortList) Agent.setBrPortList)

/-- The attribute array of the switch attribute query. -/
def switchQueryAttr : List SaiAttribute :=
  [⟨.switchPortList, .objlist OidArray.arrayLen⟩,
    ⟨.switchDefault1qBridgeId, .oid saiNullObjectId⟩,
    ⟨.switchDefaultVlanId, .oid saiNullObjectId⟩]

/-- `sai_switch_init` from the null checks on. -/
def saiBridgeQuery (switchOid : Oid) (attr : List SaiAttribute) : AgentM σ SaiStatus :=
  if (attrValue attr 1).getOid = saiNullObjectId then
    return saiStatusFailure
  else if (attrValue attr 2).getOid = saiNullObjectId then
    return saiStatusFailure
  else do
    modState fun a ↦ a.setDefaults (attrValue attr 0).getCount.toUInt64
      (attrValue attr 1).getOid (attrValue attr 2).getOid
    saiRetErr (bridgeAttrCall E (attrValue attr 1).getOid)
      [⟨.bridgePortList, .objlist OidArray.arrayLen⟩] fun _ ↦
    saiRetErr (plainCall E (.setSwitchAttribute switchOid
      ⟨.switchPortStateChangeNotify, .ptr .saiOnPortStateChangeNotify⟩)) () fun _ ↦
    return saiStatusSuccess

/-- `sai_switch_init` once the switch exists. -/
def saiSwitchQuery : AgentM σ SaiStatus := do
  let switchOid ← getState fun a ↦ a.swInfo.switchOid
  saiRetErr (switchAttrCall E switchOid) switchQueryAttr (saiBridgeQuery E switchOid)

/-- `sai_switch_init` from the hardware information on. The status of `create_switch` is kept in a
variable, which `SAI_RET_ERR` may mention twice without calling anything. -/
def createSwitch : AgentM σ SaiStatus :=
  if rt.hwInfoMalloc then do
    let r ← ask E (.createSwitch 3 createSwitchAttr)
    modState fun a ↦ a.setSwitchOid (r.outOid.getD a.swInfo.switchOid)
    if r.status ≠ saiStatusSuccess then
      return r.status
    else
      saiSwitchQuery E
  else
    fault .nullDeref

/-- `sai_switch_init`. -/
def saiSwitchInit : AgentM σ SaiStatus :=
  saiRetErr (plainCall E (.saiApiQuery .switch)) () fun _ ↦
  saiRetErr (plainCall E (.saiApiQuery .bridge)) () fun _ ↦
  createSwitch E rt

/-- `saiagent_switch_init`. -/
def saiagentSwitchInit : AgentM σ Rc := do
  let saiStatus ← saiSwitchInit E rt
  if saiStatus ≠ saiStatusSuccess then
    return rt.switchInitStatus
  else do
    let s₁ ← saiagentIpcCbSet PresteraCmdType.switchReset .switchReset
    let s₂ ← saiagentIpcCbSet PresteraCmdType.switchAttrSet .switchAttrSet
    let s₃ ← saiagentIpcCbSet PresteraCmdType.keepaliveInit .keepaliveInit
    return rt.switchInitStatus ||| s₁ ||| s₂ ||| s₃

/-- The response of a successful `SWITCH_INIT`. -/
def switchInitResponse (numPorts : UInt64) : PresteraMsgSwitchInitResp where
  ret := PresteraMsgRet.ackOk
  portCount := numPorts.toUInt32
  mtuMax := 1500
  sizeTblRouterNexthop := 1024
  switchId := 1
  lagMax := 16
  lagMemberMax := 8
  pad := 0

/-- `saiagent_ipc_process_switch_init`. Each initialiser overwrites the status of the one before. -/
def saiagentIpcProcessSwitchInit (_request reply : SaiagentMsg) : AgentM σ SaiagentMsg := do
  let status ← saiagentSwitchInit E rt
  if rcStatusOk ≠ status then
    lift (saiagentIpcPutReplyAck reply rcStatusErr)
  else do
    let numPorts ← getState fun a ↦ a.swInfo.numPorts
    let _ ← saiagentPortInit rt
    let _ ← saiagentFdbInit rt
    let _ ← saiagentVlanInit E rt
    let status ← saiagentRouterInit rt
    if rcStatusOk ≠ status then
      lift (saiagentIpcPutReplyAck reply rcStatusErr)
    else
      lift (replaceWith reply (switchInitResponse numPorts).bytes)

/-! ### The other switch requests -/

/-- `saiagent_ipc_process_switch_attr_set`. -/
def saiagentIpcProcessSwitchAttrSet (_request reply : SaiagentMsg) : Except Fault SaiagentMsg :=
  acknowledge reply

/-- `saiagent_ipc_process_keepalive_init`. -/
def saiagentIpcProcessKeepaliveInit (request reply : SaiagentMsg) : AgentM σ SaiagentMsg := do
  let req := PresteraMsgKeepaliveInitReq.ofBuff (request.buff.getD [])
  let ctx ← saiagentThreadCreate rt .keepaliveRoutine .loop req.pulseTimeoutMs.toInt32
  match ctx with
  | none => lift (saiagentIpcPutReplyAck reply rcStatusErr)
  | some i => do
    modState fun a ↦ a.setKeepaliveCtx (some i)
    lift (saiagentIpcPutReplyAck reply rcStatusOk)

/-- `saiagent_ipc_process_switch_reset`. The query's status is ignored: when it fails, the method
table pointer was never assigned. -/
def saiagentIpcProcessSwitchReset (_request reply : SaiagentMsg) : AgentM σ SaiagentMsg := do
  let swInfo ← getState fun a ↦ a.swInfo
  if swInfo.switchOid ≠ saiNullObjectId then do
    let _ ← saiagentThreadStop swInfo.keepaliveCtx
    let r ← ask E (.saiApiQuery .switch)
    if r.status ≠ saiStatusSuccess then
      fault .wildPointer
    else do
      let _ ← ask E (.removeSwitch swInfo.switchOid)
      let _ ← saiagentThreadDestroy rt swInfo.keepaliveCtx
      let _ ← saiagentIpcLoopStop
      lift (saiagentIpcPutReplyAck reply rcStatusOk)
  else
    lift (saiagentIpcPutReplyAck reply rcStatusOk)

end SaiAgent
