import SaiAgent.Model.Loop

/-!
# Port events

`sai_on_port_state_change_notify` of `saiagent_switch.c`: SAI calls it with an array of ports
whose state changed, and the agent sends the driver one event for each.
-/

namespace SaiAgent

open Effects.Bytes

/-- `PRESTERA_EVENT_TYPE_PORT`. -/
def presteraEventTypePort : UInt16 := 1

/-- `PRESTERA_PORT_EVENT_MAC_STATE_CHANGED`. -/
def presteraPortEventMacStateChanged : UInt16 := 1

/-- `struct prestera_msg_event`, 4 bytes. -/
structure PresteraMsgEvent where
  type : UInt16
  id : UInt16
  deriving DecidableEq, Repr

/-- The structure's bytes. -/
def PresteraMsgEvent.bytes (e : PresteraMsgEvent) : List UInt8 := le16 e.type ++ le16 e.id

/-- `struct prestera_msg_event_port`, 20 bytes; of the parameter union, the member `mac`. -/
structure PresteraMsgEventPort where
  id : PresteraMsgEvent
  portId : UInt32
  mode : UInt32
  speed : UInt32
  oper : UInt8
  duplex : UInt8
  fc : UInt8
  fec : UInt8
  deriving DecidableEq, Repr

/-- The structure's bytes. -/
def PresteraMsgEventPort.bytes (e : PresteraMsgEventPort) : List UInt8 :=
  e.id.bytes ++
    (le32 e.portId ++ (le32 e.mode ++ (le32 e.speed ++ [e.oper, e.duplex, e.fc, e.fec])))

theorem PresteraMsgEventPort.length_bytes (e : PresteraMsgEventPort) : e.bytes.length = 20 := by
  simp [PresteraMsgEventPort.bytes, PresteraMsgEvent.bytes]

/-- The port number is the word behind the header. -/
theorem PresteraMsgEventPort.readLe32_bytes (e : PresteraMsgEventPort) :
    readLe32 e.bytes 4 = e.portId := by
  rw [PresteraMsgEventPort.bytes, readLe32_append_right (by simp [PresteraMsgEvent.bytes]),
    readLe32_le32_append]

/-- `sai_port_oper_status_t`. -/
inductive SaiPortOperStatus where
  | unknown
  | up
  | down
  | testing
  | notPresent
  deriving DecidableEq, Repr

/-- `sai_port_oper_status_notification_t`. -/
structure SaiPortOperStatusNotification where
  portId : Oid
  portState : SaiPortOperStatus
  deriving DecidableEq, Repr

/-- The event the loop of `sai_on_port_state_change_notify` fills for an entry. The port
identifier is converted to 32 bits. -/
def portEvent (data : SaiPortOperStatusNotification) : PresteraMsgEventPort where
  id := ⟨presteraEventTypePort, presteraPortEventMacStateChanged⟩
  portId := data.portId.toUInt32
  mode := 0
  speed := 1000
  oper := if data.portState = .up then 1 else 0
  duplex := 0
  fc := 0
  fec := 0

/-- `saiagent_ipc_send_event`; libnl fills in pid and seq, which are passed as zero. -/
def saiagentIpcSendEvent (o : SendOutcome) (evt : List UInt8) (size : UInt64) :
    Rc × Option NlSent :=
  saiagentIpcSend o (some evt) size .event 0 0

/-- The loop of `sai_on_port_state_change_notify` over the entries from `i` on: what it sends. The
counter is an `int`; incrementing it past its largest value is undefined. -/
def notifyLoop (o : ℕ → SendOutcome) : ℕ → List SaiPortOperStatusNotification →
    Except Fault (List NlSent)
  | _, [] => .ok []
  | i, data :: rest =>
    let (_, sent) := saiagentIpcSendEvent (o i) (portEvent data).bytes 20
    if i + 1 < 2 ^ 31 then
      (notifyLoop o (i + 1) rest).map (sent.toList ++ ·)
    else
      .error .signedOverflow

/-- `sai_on_port_state_change_notify` with an array of `count` entries. -/
def saiOnPortStateChangeNotify (o : ℕ → SendOutcome) (data : List SaiPortOperStatusNotification) :
    Except Fault (List NlSent) :=
  notifyLoop o 0 data

end SaiAgent
