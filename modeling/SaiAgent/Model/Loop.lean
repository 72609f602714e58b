import SaiAgent.Library.Run
import SaiAgent.Model.Ipc

/-!
# The receive loop

The netlink side of `saiagent_ipc.c`: the receive callback, `saiagent_ipc_recv`, `saiagent_ipc_send`
and `saiagent_ipc_enter_loop`.

libnl is outside the repository. `nl_recvmsgs` returns a code and, while it runs, hands zero or more
messages to the callback (`RecvOutcome`); of a message, the callback sees the code `genlmsg_parse`
gives for it, whether the TLV attribute is present, that attribute's bytes, and the header's pid and
seq (`NlMsg`). Sending goes through four library calls that may each fail (`SendOutcome`).

The receive record outlives the iterations of the loop and is written by the callback only. Each
iteration leaves a log of what was delivered to it, what it passed to `saiagent_ipc_process_req` and
what it sent.
-/

namespace SaiAgent

open Effects

variable {σ : Type}

/-- A netlink attribute's payload; its length field has 16 bits. -/
structure Tlv where
  bytes : List UInt8
  length_lt : bytes.length < 2 ^ 16

/-- A message as the callback sees it. -/
structure NlMsg where
  /-- What `genlmsg_parse` returns for it. -/
  genlmsgParse : Int32
  /-- `attrs[SAIAGENT_NL_ATTR_TLV]`. -/
  tlv : Option Tlv
  pid : UInt32
  seq : UInt32

/-- What one `nl_recvmsgs` call does. -/
structure RecvOutcome where
  /-- The messages it hands to the callback, in order. -/
  batch : List NlMsg
  rc : Int32

/-- `saiagent_nl_recv_msg`, over a buffer with room for the size it claims. -/
structure SaiagentNlRecvMsg where
  buf : List UInt8
  size : UInt64
  pid : UInt32
  seq : UInt32
  payloadSize : UInt64
  err : Rc
  size_le : size.toNat ≤ buf.length

/-- `nl_ipc_handle_recv_msg_cb`. -/
def nlIpcHandleRecvMsgCb (recv : SaiagentNlRecvMsg) (msg : NlMsg) : SaiagentNlRecvMsg :=
  if msg.genlmsgParse < 0 then
    { recv with err := rcStatusErr }
  else
    match msg.tlv with
    | none => { recv with err := rcStatusErr }
    | some tlv =>
      if UInt64.ofNat tlv.bytes.length ≥ recv.size then
        { recv with err := rcStatusErr }
      else
        { buf := tlv.bytes ++ recv.buf.drop tlv.bytes.length
          size := recv.size
          pid := msg.pid
          seq := msg.seq
          payloadSize := UInt64.ofNat tlv.bytes.length
          err := rcStatusOk
          size_le := by
            have := recv.size_le
            rw [List.length_append, List.length_drop]
            omega }

/-- `saiagent_ipc_recv`: the status it returns and the record it leaves. -/
def saiagentIpcRecv (o : RecvOutcome) (msg : SaiagentNlRecvMsg) : Rc × SaiagentNlRecvMsg :=
  let msg' := o.batch.foldl nlIpcHandleRecvMsgCb msg
  (if 0 ≠ o.rc ∨ 0 ≠ msg'.err then rcStatusErr else rcStatusOk, msg')

/-! ### Sending -/

/-- The message types the agent sends. -/
inductive SaiagentNlType where
  | drvInit
  | reply
  | event
  deriving DecidableEq, Repr

/-- How the library calls of one `saiagent_ipc_send` end. -/
structure SendOutcome where
  /-- `nlmsg_alloc` returns a message. -/
  nlmsgAlloc : Bool
  /-- `genlmsg_put` returns a header. -/
  genlmsgPut : Bool
  nlaPut : Int32
  nlSendAuto : Int32

/-- A message that left the agent, with the port and the sequence number `genlmsg_put` was given;
zero is `NL_AUTO_PID` and `NL_AUTO_SEQ`, for libnl to fill in. -/
structure NlSent where
  type : SaiagentNlType
  pid : UInt32
  seq : UInt32
  tlv : Option (List UInt8)
  deriving DecidableEq, Repr

/-- `saiagent_ipc_send`: its status and the message that was sent, if one was. -/
def saiagentIpcSend (o : SendOutcome) (msg : Option (List UInt8)) (msgSize : UInt64)
    (type : SaiagentNlType) (pid seq : UInt32) : Rc × Option NlSent :=
  if !o.nlmsgAlloc then
    (rcStatusErr, none)
  else if !o.genlmsgPut then
    (rcStatusErr, none)
  else
    let tlv := if msgSize > 0 then msg.map (List.take msgSize.toNat) else none
    if tlv.isSome ∧ 0 ≠ o.nlaPut then
      (rcStatusErr, none)
    else if o.nlSendAuto < 0 then
      (rcStatusErr, none)
    else
      (rcStatusOk, some ⟨type, pid, seq, tlv⟩)

/-! ### The loop -/

/-- A request as the loop passes it on: whose it is, and its payload. -/
structure Request where
  pid : UInt32
  seq : UInt32
  payload : List UInt8
  deriving DecidableEq, Repr

/-- What one iteration did. -/
structure IterationLog where
  /-- The messages its receive call handed to the callback. -/
  delivered : List NlMsg
  /-- The requests it passed to `saiagent_ipc_process_req`. -/
  dispatched : List Request
  /-- The messages it sent. -/
  sent : List NlSent

/-- What the environment decides in one iteration. -/
structure LoopInput where
  recv : RecvOutcome
  rt : Runtime
  send : SendOutcome

/-- The loop between two iterations. -/
structure LoopState (σ : Type) where
  inMsg : SaiagentNlRecvMsg
  /-- `out_msg.buf`. -/
  outBuf : Option (List UInt8)
  world : World σ
  /-- A handler ran into undefined behaviour, or waits for ever; nothing runs after it. -/
  crashed : Bool
  log : List IterationLog

namespace LoopState

/-- The loop's condition. -/
def Live (st : LoopState σ) : Prop := st.world.state.running = true ∧ st.crashed = false

instance : DecidablePred fun st : LoopState σ ↦ st.Live := fun _ ↦ inferInstanceAs
    (Decidable (_ ∧ _))

end LoopState

/-- The request the receive record holds. -/
def SaiagentNlRecvMsg.request (m : SaiagentNlRecvMsg) : Request :=
  ⟨m.pid, m.seq, m.buf.take m.payloadSize.toNat⟩

variable (E : SaiBackend σ)

/-- The body of the loop. -/
def loopBody (st : LoopState σ) (i : LoopInput) : LoopState σ :=
  let (status, inMsg) := saiagentIpcRecv i.recv st.inMsg
  if rcStatusOk ≠ status then
    { st with inMsg := inMsg, log := st.log ++ [⟨i.recv.batch, [], []⟩] }
  else
    match EStateM.run (saiagentIpcProcessReq E i.rt inMsg.buf inMsg.payloadSize st.outBuf
        (UInt64.ofNat saiagentMsgMaxSize)) st.world with
    | .error _ w =>
      { st with
        inMsg := inMsg
        world := w
        crashed := true
        log := st.log ++ [⟨i.recv.batch, [inMsg.request], []⟩] }
    | .ok reply w =>
      let (_, sent) := saiagentIpcSend i.send reply.buff reply.payloadSize .reply
        inMsg.pid inMsg.seq
      { st with
        inMsg := inMsg
        outBuf := reply.buff
        world := w
        log := st.log ++ [⟨i.recv.batch, [inMsg.request], sent.toList⟩] }

/-- `saiagent_ipc_enter_loop`, as far as the given iterations. -/
def saiagentIpcEnterLoop : LoopState σ → List LoopInput → LoopState σ :=
  Run.exec LoopState.Live (loopBody E)

/-- The fields of `in_msg` the loop does not assign before its first iteration. -/
structure StackRecord where
  pid : UInt32
  seq : UInt32
  payloadSize : UInt64
  err : Rc

/-- The loop's first state: size and buffer of `in_msg` are set, its other fields hold what
the stack held. -/
def loopStart (inBuf outBuf : MsgBuffer) (stack : StackRecord) (w : World σ) : LoopState σ where
  inMsg :=
    { buf := inBuf.bytes
      size := UInt64.ofNat saiagentMsgMaxSize
      pid := stack.pid
      seq := stack.seq
      payloadSize := stack.payloadSize
      err := stack.err
      size_le := by
        rw [inBuf.length_eq]
        decide }
  outBuf := some outBuf.bytes
  world := w.mapState fun a ↦ a.setRunning true
  crashed := false
  log := []

end SaiAgent
