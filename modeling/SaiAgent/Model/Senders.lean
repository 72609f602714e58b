import Mathlib.Logic.Function.Basic
import SaiAgent.Library.Run
import SaiAgent.Model.Event
import SaiAgent.Model.Program

/-!
# Threads that send

`saiagent_ipc_send` runs in several threads at once: the receive loop sends its replies, the
keepalive threads their pulses, and the thread in which SAI notifies the agent sends port events.
They share the socket and the memory libnl takes its messages from. A scheduler decides whose turn
it is; each turn is one library call of `saiagent_ipc_send`, and a library call is atomic.

The heap hands out memory that is not in use: an allocator that has only the given one to hand out
fails where it is in use.
-/

namespace SaiAgent

/-- The arguments of a call of `saiagent_ipc_send`. -/
structure SendCall where
  msg : Option (List UInt8)
  msgSize : UInt64
  type : SaiagentNlType
  pid : UInt32
  seq : UInt32

/-- What is put into the TLV attribute. -/
def SendCall.tlv (c : SendCall) : Option (List UInt8) :=
  if c.msgSize > 0 then c.msg.map (List.take c.msgSize.toNat) else none

/-- Before which library call a thread is, with the locals of `saiagent_ipc_send`. -/
inductive SendPc where
  | nlmsgAlloc
  | genlmsgPut (msgNl : Handle)
  | nlaPut (msgNl : Handle) (data : List UInt8)
  | nlSendAuto (msgNl : Handle)
  | nlmsgFree (msgNl : Handle) (status : Rc)
  deriving DecidableEq, Repr

/-- A thread. -/
structure Sender where
  pc : SendPc
  /-- The calls it is still to make, the one it is in first. -/
  calls : List SendCall
  /-- What its calls returned. -/
  returned : List Rc

/-- The threads, the messages in memory, and what was sent. -/
structure Channel (ι : Type) where
  senders : ι → Sender
  /-- A message in memory, once it has a header. -/
  heap : Handle → Option (Option NlSent)
  /-- Sent messages, each with the thread that sent it. -/
  wire : List (ι × NlSent)
  /-- A library call was given a message that is not in memory. -/
  wild : Bool

/-- A turn: whose it is, and what its library call answers. -/
structure SendTurn (ι : Type) where
  thread : ι
  ptr : Option Handle
  rc : Int32

namespace Channel

variable {ι : Type} [DecidableEq ι]

/-- Before the first turn. -/
def start (calls : ι → List SendCall) : Channel ι where
  senders i := ⟨.nlmsgAlloc, calls i, []⟩
  heap _ := none
  wire := []
  wild := false

/-- The thread goes on. -/
def become (s : Channel ι) (i : ι) (me : Sender) : Channel ι :=
  { s with senders := Function.update s.senders i me }

/-- Memory is written. -/
def store (s : Channel ι) (h : Handle) (v : Option (Option NlSent)) : Channel ι :=
  { s with heap := Function.update s.heap h v }

/-- A library looks behind the pointer. -/
def touch (s : Channel ι) (h : Handle) : Channel ι :=
  { s with wild := s.wild || (s.heap h).isNone }

/-- The message is sent as it is in memory. -/
def emit (s : Channel ι) (i : ι) (h : Handle) : Channel ι :=
  { s with wire := s.wire ++ ((s.heap h).join.toList.map fun m ↦ (i, m)) }

/-- What the allocator hands out. -/
def available (s : Channel ι) (ptr : Option Handle) : Option Handle :=
  ptr.filter fun h ↦ (s.heap h).isNone

/-- One library call of `saiagent_ipc_send`, with what the function does until the next. -/
def sendStep (s : Channel ι) (t : SendTurn ι) (call : SendCall) (rest : List SendCall)
    (returned : List Rc) : SendPc → Channel ι
  | .nlmsgAlloc =>
    match s.available t.ptr with
    | none => s.become t.thread ⟨.nlmsgAlloc, rest, returned ++ [rcStatusErr]⟩
    | some h => (s.store h (some none)).become t.thread ⟨.genlmsgPut h, call :: rest, returned⟩
  | .genlmsgPut h =>
    if t.ptr = none then
      (s.touch h).become t.thread ⟨.nlmsgFree h rcStatusErr, call :: rest, returned⟩
    else
      ((s.touch h).store h (some (some ⟨call.type, call.pid, call.seq, none⟩))).become t.thread
        ⟨match call.tlv with
          | none => .nlSendAuto h
          | some data => .nlaPut h data, call :: rest, returned⟩
  | .nlaPut h data =>
    if 0 ≠ t.rc then
      (s.touch h).become t.thread ⟨.nlmsgFree h rcStatusErr, call :: rest, returned⟩
    else
      ((s.touch h).store h ((s.heap h).map (Option.map fun m ↦ { m with tlv := some data }))).become
        t.thread ⟨.nlSendAuto h, call :: rest, returned⟩
  | .nlSendAuto h =>
    if t.rc < 0 then
      (s.touch h).become t.thread ⟨.nlmsgFree h rcStatusErr, call :: rest, returned⟩
    else
      ((s.touch h).emit t.thread h).become t.thread
        ⟨.nlmsgFree h rcStatusOk, call :: rest, returned⟩
  | .nlmsgFree h status =>
    ((s.touch h).store h none).become t.thread ⟨.nlmsgAlloc, rest, returned ++ [status]⟩

/-- One turn; a thread that has made its calls does nothing. -/
def step (s : Channel ι) (t : SendTurn ι) : Channel ι :=
  match (s.senders t.thread).calls with
  | [] => s
  | call :: rest => s.sendStep t call rest (s.senders t.thread).returned (s.senders t.thread).pc

/-- A schedule. -/
def run : Channel ι → List (SendTurn ι) → Channel ι := Effects.Run.exec (fun _ ↦ True) step

end Channel

/-! ### The threads of the agent -/

/-- `PRESTERA_EVENT_TYPE_PULSE`. -/
def presteraEventTypePulse : UInt16 := 5

/-- The event of `keepalive_routine`. -/
def pulseEvent : PresteraMsgEvent := ⟨presteraEventTypePulse, 0⟩

/-- The call `keepalive_routine` makes, through `saiagent_ipc_send_event`. -/
def keepaliveRoutine : SendCall := ⟨some pulseEvent.bytes, 4, .event, nlAuto, nlAuto⟩

/-- The call `sai_on_port_state_change_notify` makes for an entry. -/
def notifyCall (data : SaiPortOperStatusNotification) : SendCall :=
  ⟨some (portEvent data).bytes, 20, .event, nlAuto, nlAuto⟩

/-- The call `saiagent_ipc_enter_loop` makes for a request. -/
def replyCall (reply : SaiagentMsg) (pid seq : UInt32) : SendCall :=
  ⟨reply.buff, reply.payloadSize, .reply, pid, seq⟩

end SaiAgent
