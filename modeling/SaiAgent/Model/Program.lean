import SaiAgent.Model.Profile
import SaiAgent.Model.Session

/-!
# The program

`main` of `saiagent.c` with the command line, and what `saiagent_ipc.c` does for it: setting up the
netlink socket, announcing the agent to the driver, the receive loop call by call, and giving the
socket back.

libnl, the allocator and the SAI functions `main` itself calls are one environment, asked call by
call (`LibCall`) and free to answer anything (`LibResp`). A pointer it returns is a handle. What the
C runtime decides while a request is handled comes with the answer that delivered the request, and
so do the calls SAI makes of the profile's services in the meantime.

The two buffers of the loop are looked at by libnl and by the agent itself; `LibCall.access` marks
where the agent does. Neither `malloc` is checked. What crashes at a null `in_msg.buf` is the first
byte that is copied into it, or a request of four bytes or more that is read from it. Nothing is
written behind a null `out_msg.buf`, and the replies have no payload.

`main` waits in two places for something that may never come: the driver's family, and the
request that ends the loop. It runs for a number of rounds in each; a program that has used them up
is still running (`Stop.running`).
-/

namespace SaiAgent

open Effects Effects.Proc

/-! ### The command line -/

/-- What `getopt_long` finds, one option after the other. -/
inductive CmdOpt where
  /-- `-p`, `--profile`: the file under the name given, `none` where `fopen` fails, and the
  allocations while it is parsed. -/
  | profile (file : Option (List UInt8)) (calloc : ℕ → Bool)
  /-- `-f`, `--portmap`: whether `fopen` succeeds. -/
  | portmap (opens : Bool)
  /-- Anything else. -/
  | unknown

/-- `cmd_line_process` from the options still to come and `opts->profile_params`: its status and
`opts->profile_params` as it leaves it. A null pointer is the empty list. -/
def cmdLineProcess : List CmdOpt → List Param → Except Fault (Rc × List Param)
  | [], params => .ok (rcStatusOk, params)
  | .profile file calloc :: opts, params =>
    match saiProfileParse file calloc with
    | .error e => .error e
    | .ok (status, stored) =>
      if status ≠ rcStatusOk then
        .ok (rcStatusErr, stored.getD params)
      else
        cmdLineProcess opts (stored.getD params)
  | .portmap opens :: opts, params =>
    if !opens then .ok (rcStatusErr, params) else cmdLineProcess opts params
  | .unknown :: _, params => .ok (rcStatusErr, params)

/-! ### The libraries -/

/-- A pointer to something a library allocated. -/
abbrev Handle := ℕ

/-- `SAIAGENT_NL_SOCKET_SIZE`. -/
def saiagentNlSocketSize : Int32 := 90112

/-- `SAIAGENT_NL_MCGRP_NAME`. -/
def saiagentNlMcgrpName : String := "swdevsai_grp_nl"

/-- `SAIAGENT_NL_NAME`. -/
def saiagentNlName : String := "swdevsai_nl"

/-- `NL_AUTO_PID` and `NL_AUTO_SEQ`. -/
def nlAuto : UInt32 := 0

/-- The library calls of the program. -/
inductive LibCall where
  | saiApiInitialize
  | saiLogSet (api : SaiApi) (level : SaiLogLevel)
  /-- `sai_api_uninitialize`. -/
  | saiApiUninit
  | nlSocketAlloc
  | genlConnect (sock : Handle)
  | genlCtrlResolve (sock : Handle) (name : String)
  | sleep (seconds : UInt32)
  | nlSocketSetBufferSize (sock : Handle) (rxbuf txbuf : Int32)
  | genlCtrlResolveGrp (sock : Handle) (family group : String)
  | nlSocketAddMembership (sock : Handle) (group : Int32)
  | nlSocketDisableAutoAck (sock : Handle)
  | nlSocketFree (sock : Option Handle)
  | nlCbAlloc
  | nlCbSet (cb : Handle)
  | nlRecvmsgs (sock cb : Handle)
  | nlaMemcpy (dest : Handle)
  | nlCbPut (cb : Handle)
  | nlmsgAlloc
  | genlmsgPut (msg : Handle) (pid seq : UInt32) (family : Int32) (type : SaiagentNlType)
  | nlaPut (msg : Handle) (src : Option Handle) (data : List UInt8)
  | nlSendAuto (sock msg : Handle)
  | nlmsgFree (msg : Handle)
  | malloc
  | free (buf : Option Handle)
  /-- No call: the agent itself reads or writes a buffer. -/
  | access (buf : Handle)
  deriving DecidableEq, Repr

/-- A message as either callback sees it. -/
structure NlPacket extends NlMsg where
  /-- `attrs[SAIAGENT_NL_ATTR_DRV_INIT_ACK]` is there. -/
  drvInitAck : Bool

/-- An answer; each call looks at the fields it gives something back in. -/
structure LibResp where
  rc : Int32
  /-- The pointer returned, `none` if it is null. -/
  ptr : Option Handle
  /-- What is in the memory `malloc` returns. -/
  mem : MsgBuffer
  /-- The messages `nl_recvmsgs` hands to the callback. -/
  batch : List NlPacket
  /-- What the C runtime decides until the next one. -/
  rt : Runtime
  /-- What SAI calls until the next one. -/
  services : List ProfileCall

/-- The memory an answer of `malloc` gives. -/
def LibResp.block (r : LibResp) : Option MsgBuffer := r.ptr.map fun _ ↦ r.mem

/-- The libraries. -/
abbrev LibBackend (τ : Type) := Oracle LibCall LibResp τ

/-- The static variables of the program. -/
structure Statics (σ : Type) where
  /-- `ctx.nl.family`. -/
  family : Int32
  /-- `ctx.nl.sock`. -/
  sock : Option Handle
  /-- `g_profile_params`. -/
  gProfileParams : List Param
  /-- `g_iter`. -/
  gIter : List Param
  /-- The agent's own, and SAI. -/
  agent : World σ

/-- The services are called, which moves `g_iter`. -/
def Statics.serve (g : Statics σ) (calls : List ProfileCall) : Statics σ :=
  { g with gIter := iterAfter g.gProfileParams g.gIter calls }

/-- Why the program has not returned. -/
inductive Stop where
  /-- It ran into undefined behaviour. -/
  | crashed (fault : Fault)
  /-- It is still waiting. -/
  | running
  deriving DecidableEq, Repr

/-- A function of the program. -/
abbrev ProgM (σ τ α : Type) := Proc (OracleWorld (Statics σ) LibCall LibResp τ) Stop α

namespace Program

variable {σ τ α : Type} (E : SaiBackend σ) (L : LibBackend τ)

/-- A library call. -/
def lib (c : LibCall) : ProgM σ τ LibResp := do
  let r ← ask L c
  modState fun g ↦ g.serve r.services
  return r

/-- What the agent does in between. -/
def onAgent (p : AgentM σ α) : ProgM σ τ α := fun w ↦
  match EStateM.run p w.state.agent with
  | .ok a agent => .ok a (w.mapState fun g ↦ { g with agent := agent })
  | .error f agent => .error (.crashed f) (w.mapState fun g ↦ { g with agent := agent })

variable {p : AgentM σ α} {w : OracleWorld (Statics σ) LibCall LibResp τ} {agent : World σ}

theorem run_onAgent_of_ok {a : α} (h : EStateM.run p w.state.agent = .ok a agent) :
    EStateM.run (onAgent p) w = .ok a (w.mapState fun g ↦ { g with agent := agent }) := by
  show onAgent p w = _
  rw [onAgent, h]

theorem run_onAgent_of_error {f : Fault} (h : EStateM.run p w.state.agent = .error f agent) :
    EStateM.run (onAgent p) w =
      .error (.crashed f) (w.mapState fun g ↦ { g with agent := agent }) := by
  show onAgent p w = _
  rw [onAgent, h]

/-- A pointer a library looks behind. -/
def deref : Option Handle → ProgM σ τ Handle
  | some h => pure h
  | none => fault (.crashed .nullDeref)

/-- `ctx.nl.sock`, for libnl to look behind. -/
def ctxSock : ProgM σ τ Handle := do
  let sock ← getState fun g ↦ g.sock
  deref sock

/-! ### The socket -/

/-- The loop of `saiagent_ipc_init`: the driver's family, once it is there. -/
def awaitFamily (sock : Handle) : ℕ → ProgM σ τ Int32
  | 0 => fault .running
  | n + 1 => do
    let r ← lib L (.genlCtrlResolve sock saiagentNlName)
    if r.rc < 0 then do
      let _ ← lib L (.sleep 1)
      awaitFamily sock n
    else
      return r.rc

/-- The end of `saiagent_ipc_init` on an error. -/
def errInit (sock : Handle) : ProgM σ τ Rc := do
  let _ ← lib L (.nlSocketFree (some sock))
  return rcStatusErr

/-- `saiagent_ipc_init`. -/
def saiagentIpcInit (n : ℕ) : ProgM σ τ Rc := do
  let r ← lib L .nlSocketAlloc
  match r.ptr with
  | none => return rcStatusErr
  | some sock => do
    let r ← lib L (.genlConnect sock)
    if 0 ≠ r.rc then
      errInit L sock
    else do
      let family ← awaitFamily L sock n
      let r ← lib L (.nlSocketSetBufferSize sock saiagentNlSocketSize 0)
      if 0 ≠ r.rc then
        errInit L sock
      else do
        let r ← lib L (.genlCtrlResolveGrp sock saiagentNlName saiagentNlMcgrpName)
        if r.rc < 0 then
          errInit L sock
        else do
          let r ← lib L (.nlSocketAddMembership sock r.rc)
          if 0 ≠ r.rc then
            errInit L sock
          else do
            let _ ← lib L (.nlSocketDisableAutoAck sock)
            modState fun g ↦ { g with family := family, sock := some sock }
            return rcStatusOk

/-- `saiagent_ipc_deinit`. -/
def saiagentIpcDeinit : ProgM σ τ Unit := do
  let sock ← getState fun g ↦ g.sock
  let _ ← lib L (.nlSocketFree sock)
  return ()

/-! ### Sending and receiving -/

/-- The end of `saiagent_ipc_send` on an error. -/
def errSend (msg : Handle) : ProgM σ τ Rc := do
  let _ ← lib L (.nlmsgFree msg)
  return rcStatusErr

/-- The rest of `saiagent_ipc_send` once the message is complete. -/
def sendAuto (msg : Handle) : ProgM σ τ Rc := do
  let sock ← ctxSock
  let r ← lib L (.nlSendAuto sock msg)
  let _ ← lib L (.nlmsgFree msg)
  if r.rc < 0 then
    return rcStatusErr
  else
    return rcStatusOk

/-- `saiagent_ipc_send`; `msg` points to `src`, and the bytes are there. -/
def saiagentIpcSend (src : Option Handle) (msg : Option (List UInt8)) (msgSize : UInt64)
    (type : SaiagentNlType) (pid seq : UInt32) : ProgM σ τ Rc := do
  let r ← lib L .nlmsgAlloc
  match r.ptr with
  | none => return rcStatusErr
  | some msgNl => do
    let family ← getState fun g ↦ g.family
    let hdr ← lib L (.genlmsgPut msgNl pid seq family type)
    if hdr.ptr = none then
      errSend L msgNl
    else
      match if msgSize > 0 then msg.map (List.take msgSize.toNat) else none with
      | none => sendAuto L msgNl
      | some data => do
        let r ← lib L (.nlaPut msgNl src data)
        if 0 ≠ r.rc then errSend L msgNl else sendAuto L msgNl

/-- `nl_recvmsgs` with a callback, as far as `nl_cb_put`: its answer. -/
def recvmsgs (cb : Option Handle) (callback : List NlPacket → ProgM σ τ Unit) :
    ProgM σ τ LibResp := do
  let cb ← deref cb
  let _ ← lib L (.nlCbSet cb)
  let sock ← ctxSock
  let r ← lib L (.nlRecvmsgs sock cb)
  callback r.batch
  let _ ← lib L (.nlCbPut cb)
  return r

/-- What `nl_ipc_handle_recv_msg_cb` copies of a message into a buffer of this size. -/
def copied (size : UInt64) (msg : NlMsg) : List UInt8 :=
  if msg.genlmsgParse < 0 then
    []
  else
    match msg.tlv with
    | none => []
    | some tlv => if UInt64.ofNat tlv.bytes.length ≥ size then [] else tlv.bytes

/-- The copies `nl_ipc_handle_recv_msg_cb` makes. Where there is nothing to copy, it looks behind no
pointer. -/
def copyAll (inPtr : Option Handle) (size : UInt64) : List NlPacket → ProgM σ τ Unit
  | [] => return ()
  | msg :: msgs => do
    if copied size msg.toNlMsg = [] then
      copyAll inPtr size msgs
    else do
      let dest ← deref inPtr
      let _ ← lib L (.nlaMemcpy dest)
      copyAll inPtr size msgs

/-- `saiagent_ipc_recv`: its status, the record it leaves, and the runtime for the request. -/
def saiagentIpcRecv (inPtr : Option Handle) (msg : SaiagentNlRecvMsg) :
    ProgM σ τ (Rc × SaiagentNlRecvMsg × Runtime) := do
  let cb ← lib L .nlCbAlloc
  let r ← recvmsgs L cb.ptr (copyAll L inPtr msg.size)
  let res := SaiAgent.saiagentIpcRecv ⟨r.batch.map NlPacket.toNlMsg, r.rc⟩ msg
  return (res.1, res.2, r.rt)

/-- `nl_ipc_drv_init_reply_msg_cb`: what it stores behind `arg`. -/
def nlIpcDrvInitReplyMsgCb (msg : NlPacket) : Bool :=
  if msg.genlmsgParse < 0 then false else msg.drvInitAck

/-- `saiagent_ipc_drv_init`. -/
def saiagentIpcDrvInit : ProgM σ τ Rc := do
  let cb ← lib L .nlCbAlloc
  let status ← saiagentIpcSend L none none 0 .drvInit nlAuto nlAuto
  let r ← recvmsgs L cb.ptr fun _ ↦ pure ()
  -- every message overwrites the flag
  let received := r.batch.foldl (fun _ msg ↦ nlIpcDrvInitReplyMsgCb msg) false
  if 0 ≠ r.rc ∨ !received then
    return rcStatusErr
  else
    return status

/-! ### The loop -/

/-- `saiagent_msg_type_get` looks at the request, unless that is too short. -/
def readRequest (inPtr : Option Handle) (payloadSize : UInt64) : ProgM σ τ Unit := do
  if 4 ≤ payloadSize then do
    let buf ← deref inPtr
    let _ ← lib L (.access buf)
    return ()
  else
    return ()

/-- `saiagent_msg_put_data` writes the reply, unless there is no buffer. -/
def writeReply : Option Handle → ProgM σ τ Unit
  | none => return ()
  | some buf => do
    let _ ← lib L (.access buf)
    return ()

/-- The rounds of `saiagent_ipc_enter_loop`. -/
def loopRounds (inPtr outPtr : Option Handle) :
    ℕ → SaiagentNlRecvMsg → Option (List UInt8) → ProgM σ τ Unit
  | 0, _, _ => fault .running
  | n + 1, inMsg, outBuf => do
    let running ← getState fun g ↦ g.agent.state.running
    if !running then
      return ()
    else do
      let (status, inMsg, rt) ← saiagentIpcRecv L inPtr inMsg
      if rcStatusOk ≠ status then
        loopRounds inPtr outPtr n inMsg outBuf
      else do
        readRequest L inPtr inMsg.payloadSize
        let reply ← onAgent (saiagentIpcProcessReq E rt inMsg.buf inMsg.payloadSize outBuf
          (UInt64.ofNat saiagentMsgMaxSize))
        writeReply L outPtr
        let _ ← saiagentIpcSend L outPtr reply.buff reply.payloadSize .reply inMsg.pid inMsg.seq
        loopRounds inPtr outPtr n inMsg reply.buff

/-- Stands for what is behind a null pointer, where nothing is ever looked at. -/
def nowhere : MsgBuffer := ⟨List.replicate saiagentMsgMaxSize 0, List.length_replicate ..⟩

/-- The loop's first state, with the two buffers as `malloc` returned them. -/
def loopStartOf (inBuf outBuf : Option MsgBuffer) (stack : StackRecord) (w : World σ) :
    LoopState σ :=
  { loopStart (inBuf.getD nowhere) nowhere stack w with outBuf := outBuf.map MsgBuffer.bytes }

/-- `saiagent_ipc_enter_loop`. -/
def saiagentIpcEnterLoop (n : ℕ) (stack : StackRecord) : ProgM σ τ Rc := do
  let inMem ← lib L .malloc
  let outMem ← lib L .malloc
  let start ← getState fun g ↦ loopStartOf inMem.block outMem.block stack g.agent
  modState fun g ↦ { g with agent := start.world }
  loopRounds E L inMem.ptr outMem.ptr n start.inMsg start.outBuf
  let _ ← lib L (.free inMem.ptr)
  let _ ← lib L (.free outMem.ptr)
  return rcStatusOk

/-! ### `main` -/

/-- `EXIT_SUCCESS`. -/
def exitSuccess : Int32 := 0

/-- `EXIT_FAILURE`. -/
def exitFailure : Int32 := 1

/-- `main` from `err_ipc_init` on. -/
def errIpcInit : ProgM σ τ Int32 := do
  saiagentIpcDeinit L
  return exitSuccess

/-- `main` once SAI is initialised. -/
def serveDriver (n : ℕ) (stack : StackRecord) : ProgM σ τ Int32 := do
  let status ← saiagentIpcInit L n
  if rcStatusOk ≠ status then
    errIpcInit L
  else do
    let status ← onAgent saiagentSwitchIpcInit
    if rcStatusOk ≠ status then
      errIpcInit L
    else do
      let status ← saiagentIpcDrvInit L
      if rcStatusOk ≠ status then
        errIpcInit L
      else do
        let _ ← saiagentIpcEnterLoop E L n stack
        let _ ← lib L .saiApiUninit
        errIpcInit L

/-- `main`: its exit status. -/
def main (n : ℕ) (cmd : List CmdOpt) (stack : StackRecord) : ProgM σ τ Int32 := do
  match cmdLineProcess cmd [] with
  | .error e => fault (.crashed e)
  | .ok (status, params) =>
    if rcStatusOk ≠ status then
      return exitFailure
    else if params = [] then
      return exitFailure
    else do
      modState fun g ↦ { g with gProfileParams := params, gIter := params }
      let r ← lib L .saiApiInitialize
      if saiStatusSuccess ≠ r.rc then
        return exitFailure
      else do
        let r ← lib L (.saiLogSet .switch .info)
        if saiStatusSuccess ≠ r.rc then
          return exitFailure
        else
          serveDriver E L n stack

/-- The program as it is loaded. -/
def load (env : σ) (libs : τ) : OracleWorld (Statics σ) LibCall LibResp τ where
  state :=
    { family := 0
      sock := none
      gProfileParams := []
      gIter := []
      agent := ⟨Agent.zero, env, []⟩ }
  env := libs
  trace := []

end Program

end SaiAgent
