import SaiAgent.Model.Switch

/-!
# Dispatch

`saiagent_ipc_process_req` of `saiagent_ipc.c`: the command word of a request selects a handler from
the dispatch table, the handler builds the reply.
-/

namespace SaiAgent

open Effects Effects.Proc Effects.Bytes

variable {σ : Type} (E : SaiBackend σ) (rt : Runtime)

/-- The command number a handler is registered under. -/
def Handler.cmdType : Handler → ℕ
  | .switchInit => PresteraCmdType.switchInit
  | .switchAttrSet => PresteraCmdType.switchAttrSet
  | .keepaliveInit => PresteraCmdType.keepaliveInit
  | .switchReset => PresteraCmdType.switchReset
  | .portInfoGet => PresteraCmdType.portInfoGet
  | .portAttrSet => PresteraCmdType.portAttrSet
  | .portAttrGet => PresteraCmdType.portAttrGet
  | .vlanCreate => PresteraCmdType.vlanCreate
  | .vlanDelete => PresteraCmdType.vlanDelete
  | .vlanPortSet => PresteraCmdType.vlanPortSet
  | .vlanPvidSet => PresteraCmdType.vlanPvidSet
  | .stpPortSet => PresteraCmdType.stpPortSet
  | .fdbFlushPort => PresteraCmdType.fdbFlushPort
  | .routerMpHashSet => PresteraCmdType.routerMpHashSet
  | .routerVrCreate => PresteraCmdType.routerVrCreate
  | .routerVrDel => PresteraCmdType.routerVrDelete
  | .routerLpmAdd => PresteraCmdType.routerLpmAdd
  | .routerLpmDel => PresteraCmdType.routerLpmDelete

/-- The functions the table's entries point to. -/
def Handler.run : Handler → SaiagentMsg → SaiagentMsg → AgentM σ SaiagentMsg
  | .switchInit, request, reply => saiagentIpcProcessSwitchInit E rt request reply
  | .switchAttrSet, request, reply => lift (saiagentIpcProcessSwitchAttrSet request reply)
  | .keepaliveInit, request, reply => saiagentIpcProcessKeepaliveInit rt request reply
  | .switchReset, request, reply => saiagentIpcProcessSwitchReset E rt request reply
  | .portInfoGet, request, reply => lift (saiagentIpcProcessPortInfoGet request reply)
  | .portAttrSet, request, reply => saiagentIpcProcessPortAttrSet E request reply
  | .portAttrGet, request, reply => lift (saiagentIpcProcessPortAttrGet request reply)
  | .vlanCreate, request, reply => lift (saiagentIpcProcessVlanCreate request reply)
  | .vlanDelete, request, reply => lift (saiagentIpcProcessVlanDelete request reply)
  | .vlanPortSet, request, reply => saiagentIpcProcessVlanPortSet E rt request reply
  | .vlanPvidSet, request, reply => saiagentIpcProcessVlanPvidSet E request reply
  | .stpPortSet, request, reply => lift (saiagentIpcProcessStpPortSet request reply)
  | .fdbFlushPort, request, reply => lift (saiagentIpcProcessFdbFlushPort request reply)
  | .routerMpHashSet, request, reply => lift (saiagentIpcProcessRouterMpHashSet request reply)
  | .routerVrCreate, request, reply => lift (saiagentIpcProcessRouterVrCreate request reply)
  | .routerVrDel, request, reply => lift (saiagentIpcProcessRouterVrDel request reply)
  | .routerLpmAdd, request, reply => lift (saiagentIpcProcessRouterLpmAdd request reply)
  | .routerLpmDel, request, reply => lift (saiagentIpcProcessRouterLpmDel request reply)

/-- The request message of `saiagent_ipc_process_req`. -/
def requestMsg (buf : List UInt8) (size : UInt64) : SaiagentMsg := ⟨some buf, size, size, none⟩

/-- `saiagent_ipc_process_req`. Its own status is always `RC_STATUS_OK`; the result is the reply
message, whose payload size is what the C function stores through `reply_msg_payload_size`. -/
def saiagentIpcProcessReq (reqMsg : List UInt8) (reqMsgSize : UInt64)
    (replyMsg : Option (List UInt8)) (replyMsgSize : UInt64) : AgentM σ SaiagentMsg := do
  let reply : SaiagentMsg := ⟨replyMsg, replyMsgSize, 0, none⟩
  let (status, req, cmdBytes) ← lift
    (saiagentMsgTypeGet (requestMsg reqMsg reqMsgSize) [0, 0, 0, 0])
  if rcStatusOk ≠ status then
    lift (saiagentIpcPutReplyAck reply rcStatusErr)
  else do
    let cmd := (readLe32 cmdBytes 0).toNat
    let ipcCbList ← getState fun a ↦ a.ipcCbList
    match if cmd < PresteraCmdType.max then ipcCbList cmd else none with
    | some handler => handler.run E rt req reply
    | none => lift (saiagentIpcPutReplyAck reply rcStatusNotSupp)

end SaiAgent
