import SaiAgent.Model.Port

/-!
# VLANs

`saiagent_vlan.c`: the list of VLANs the agent caches, and adding a port to a VLAN.

The early returns of the C functions are in continuation style: a helper is given the rest of the
function and either runs it or returns a status in its place. `attr` of
`sai_vlan_add_port_member` is passed to each call as far as the function has assigned it.
-/

namespace SaiAgent

open Effects Effects.Proc

variable {σ : Type} (E : SaiBackend σ) (rt : Runtime)

/-- `saiagent_vlan_add_new`. -/
def saiagentVlanAddNew (id : UInt16) (oid : Oid) : AgentM σ (Option VlanInfo) :=
  if rt.vlanInfoCalloc then do
    modState fun a ↦ a.pushVlan ⟨id, oid⟩
    return some ⟨id, oid⟩
  else
    return none

/-- `saiagent_vlan_get`: the first entry of the list with the id. -/
def saiagentVlanGet (list : List VlanInfo) (vlanId : UInt16) : Option VlanInfo :=
  list.find? fun info ↦ info.id = vlanId

/-- A `get` of attributes that are no lists: SAI rewrites the array. -/
def attrCall (mk : List SaiAttribute → SaiCall) :
    List SaiAttribute → AgentM σ (SaiStatus × List SaiAttribute) :=
  saiCall E mk fun _ r ↦ pure r.attr

/-- `sai_vlan_default_init`. -/
def saiVlanDefaultInit : AgentM σ SaiStatus :=
  saiRetErr (plainCall E (.saiApiQuery .vlan)) () fun _ ↦ do
    let vlanOid ← getState fun a ↦ a.swInfo.defaultVlanOid
    if vlanOid = saiNullObjectId then
      return saiStatusFailure
    else
      saiRetErr (attrCall E (.getVlanAttribute vlanOid 1)) [⟨.vlanVlanId, .u16 0⟩] fun attr ↦ do
        match ← saiagentVlanAddNew rt (attrValue attr 0).getU16 vlanOid with
        | none => return saiStatusFailure
        | some _ => return saiStatusSuccess

/-- The VLAN of `sai_vlan_add_port_member`: the cached one, or a new one, cached. -/
def useOrCreateVlan (vlanId : UInt16) (rest : Oid → AgentM σ SaiStatus) : AgentM σ SaiStatus := do
  let list ← getState fun a ↦ a.vlanList
  match saiagentVlanGet list vlanId with
  | some info => rest info.oid
  | none => do
    let switchOid ← getState fun a ↦ a.swInfo.switchOid
    let r ← ask E (.createVlan switchOid 1 [⟨.vlanVlanId, .u16 vlanId⟩])
    if r.status ≠ saiStatusSuccess then
      return r.status
    else do
      let vlanOid := r.outOid.getD saiNullObjectId
      match ← saiagentVlanAddNew rt vlanId vlanOid with
      | none => return saiStatusFailure
      | some _ => rest vlanOid

/-- The member list query: the locals are the attribute array and `vlan_member_list`. -/
def memberListCall (vlanOid : Oid) :
    List SaiAttribute × OidArray → AgentM σ (SaiStatus × (List SaiAttribute × OidArray)) :=
  saiCall E (fun l ↦ .getVlanAttribute vlanOid 1 l.1) fun l r ↦ do
    let list ← lift (l.2.store (attrValue l.1 0).getCount r.list)
    return (r.attr, list)

/-- The attribute array the scan passes for each member: both ids set, both values null, a count of
one. -/
def memberQuery (member : Oid) : SaiCall :=
  .getVlanMemberAttribute member 1
    [⟨.vlanMemberVlanId, .oid saiNullObjectId⟩, ⟨.vlanMemberBridgePortId, .oid saiNullObjectId⟩]

/-- The scan loop of `sai_vlan_add_port_member` over the entries from `i` on, `n` of them left.
`rest` is given `port_vlan_oid`. -/
def scanMembers (vlanOid brPortOid : Oid) (members : OidArray) (rest : Oid → AgentM σ SaiStatus) :
    ℕ → ℕ → AgentM σ SaiStatus
  | 0, _ => rest saiNullObjectId
  | n + 1, i => do
    let member ← lift (members.get i)
    let r ← ask E (memberQuery member)
    if r.status ≠ saiStatusSuccess then
      return saiStatusFailure
    else if vlanOid = (attrValue r.attr 0).getOid ∧ brPortOid = (attrValue r.attr 1).getOid then
      rest member
    else
      scanMembers vlanOid brPortOid members rest n (i + 1)

/-- From the label `enable_bridge_port_and_exit`. -/
def enableBridgePort (brPortOid : Oid) : AgentM σ SaiStatus :=
  saiRetErr (plainCall E
    (.setBridgePortAttribute brPortOid ⟨.bridgePortAdminState, .booldata true⟩)) () fun _ ↦
  return saiStatusSuccess

/-- `create_vlan_member` with its three attributes. -/
def createMember (switchOid vlanOid brPortOid : Oid) (tag : Bool) : SaiCall :=
  .createVlanMember switchOid 3
    [⟨.vlanMemberVlanId, .oid vlanOid⟩, ⟨.vlanMemberBridgePortId, .oid brPortOid⟩,
      ⟨.vlanMemberVlanTaggingMode,
        .s32 (if tag then saiVlanTaggingModeTagged else saiVlanTaggingModeUntagged)⟩]

/-- After the scan: keep the member it found, or create one; then enable the bridge port. -/
def ensureMember (vlanOid brPortOid : Oid) (tag : Bool) (portVlanOid : Oid) : AgentM σ SaiStatus :=
  if portVlanOid ≠ saiNullObjectId then
    enableBridgePort E brPortOid
  else do
    let switchOid ← getState fun a ↦ a.swInfo.switchOid
    let r ← ask E (createMember switchOid vlanOid brPortOid tag)
    if r.status ≠ saiStatusSuccess then
      return r.status
    else
      enableBridgePort E brPortOid

/-- `sai_vlan_add_port_member`. -/
def saiVlanAddPortMember (vlanId : UInt16) (portId : UInt32) (tag : Bool) : AgentM σ SaiStatus :=
  saiRetErr (plainCall E (.saiApiQuery .vlan)) () fun _ ↦
  saiRetErr (plainCall E (.saiApiQuery .bridge)) () fun _ ↦ do
    let brPortOid ← saiagentSwitchBridgePortFind portId
    if brPortOid = saiNullObjectId then
      return saiStatusFailure
    else
      useOrCreateVlan E rt vlanId fun vlanOid ↦
      saiRetErr (memberListCall E vlanOid)
        ([⟨.vlanMemberList, .objlist OidArray.arrayLen⟩], rt.vlanMemberList) fun l ↦
      scanMembers E vlanOid brPortOid l.2 (ensureMember E vlanOid brPortOid tag)
        (attrValue l.1 0).getCount.toNat 0

/-! ### Request handlers -/

/-- The handlers that log their request and acknowledge it. -/
def acknowledge (reply : SaiagentMsg) : Except Fault SaiagentMsg :=
  saiagentIpcPutReplyAck reply rcStatusOk

/-- `saiagent_ipc_process_vlan_create`. -/
def saiagentIpcProcessVlanCreate (_request reply : SaiagentMsg) : Except Fault SaiagentMsg :=
  acknowledge reply

/-- `saiagent_ipc_process_vlan_delete`. -/
def saiagentIpcProcessVlanDelete (_request reply : SaiagentMsg) : Except Fault SaiagentMsg :=
  acknowledge reply

/-- `saiagent_ipc_process_stp_port_set`. -/
def saiagentIpcProcessStpPortSet (_request reply : SaiagentMsg) : Except Fault SaiagentMsg :=
  acknowledge reply

/-- `saiagent_ipc_process_vlan_port_set`. -/
def saiagentIpcProcessVlanPortSet (request reply : SaiagentMsg) : AgentM σ SaiagentMsg := do
  let req := PresteraMsgVlanReq.ofBuff (request.buff.getD [])
  let saiStatus ← saiVlanAddPortMember E rt req.vid req.port (req.isTagged ≠ 0)
  if saiStatus ≠ saiStatusSuccess then
    lift (saiagentIpcPutReplyAck reply rcStatusErr)
  else
    lift (saiagentIpcPutReplyAck reply rcStatusOk)

/-- `saiagent_ipc_process_vlan_pvid_set`. -/
def saiagentIpcProcessVlanPvidSet (request reply : SaiagentMsg) : AgentM σ SaiagentMsg := do
  let req := PresteraMsgVlanReq.ofBuff (request.buff.getD [])
  let status ← saiagentPortPvidSet E req.port req.vid
  lift (saiagentIpcPutReplyAck reply status)

/-- `saiagent_vlan_init`. -/
def saiagentVlanInit : AgentM σ Rc := do
  let r ← ask E (.saiLogSet .vlan .debug)
  if r.status ≠ saiStatusSuccess then
    return rcStatusErr
  else do
    let saiStatus ← saiVlanDefaultInit E rt
    if saiStatus ≠ saiStatusSuccess then
      return rcStatusErr
    else do
      let s₁ ← saiagentIpcCbSet PresteraCmdType.vlanCreate .vlanCreate
      let s₂ ← saiagentIpcCbSet PresteraCmdType.vlanDelete .vlanDelete
      let s₃ ← saiagentIpcCbSet PresteraCmdType.vlanPortSet .vlanPortSet
      let s₄ ← saiagentIpcCbSet PresteraCmdType.vlanPvidSet .vlanPvidSet
      let s₅ ← saiagentIpcCbSet PresteraCmdType.stpPortSet .stpPortSet
      return rt.vlanInitStatus ||| s₁ ||| s₂ ||| s₃ ||| s₄ ||| s₅

end SaiAgent
