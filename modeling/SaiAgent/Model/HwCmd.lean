import SaiAgent.Model.Message

/-!
# The driver's messages

The part of `prestera_hw_cmd.h` the agent reads and writes: command numbers, the request structures
its handlers overlay on the receive buffer, and the response structures it lays out in the reply
buffer. Offsets and sizes are the ones the header's types give on the agent's target and
`check_saiagent.c` asserts.
-/

namespace SaiAgent

open Effects.Bytes

/-! ### Command numbers -/

namespace PresteraCmdType

def switchInit : ℕ := 0x1
def switchAttrSet : ℕ := 0x2
def keepaliveInit : ℕ := 0x3
def switchReset : ℕ := 0x4
def portAttrSet : ℕ := 0x100
def portAttrGet : ℕ := 0x101
def portInfoGet : ℕ := 0x110
def vlanCreate : ℕ := 0x200
def vlanDelete : ℕ := 0x201
def vlanPortSet : ℕ := 0x202
def vlanPvidSet : ℕ := 0x203
def fdbFlushPort : ℕ := 0x310
def routerLpmAdd : ℕ := 0x610
def routerLpmDelete : ℕ := 0x611
def routerVrCreate : ℕ := 0x630
def routerVrDelete : ℕ := 0x631
def routerMpHashSet : ℕ := 0x650
def stpPortSet : ℕ := 0x1000
def ack : UInt32 := 0x10000
def max : ℕ := 0x10001

end PresteraCmdType

/-- `PRESTERA_CMD_ACK_OK`. -/
def presteraCmdAckOk : UInt32 := 0

/-- `PRESTERA_CMD_ACK_FAILED`. -/
def presteraCmdAckFailed : UInt32 := 1

namespace PresteraCmdPortAttr

def mtu : UInt32 := 3
def mac : UInt32 := 4
def flood : UInt32 := 8
def capability : UInt32 := 9
def phyMode : UInt32 := 12
def stats : UInt32 := 17
def macMode : UInt32 := 22

end PresteraCmdPortAttr

/-! ### Requests -/

/-- `struct prestera_msg_vlan_req`, 16 bytes. -/
structure PresteraMsgVlanReq where
  port : UInt32
  dev : UInt32
  vid : UInt16
  isMember : UInt8
  isTagged : UInt8
  deriving DecidableEq, Repr

/-- The structure laid over the bytes of a request. -/
def PresteraMsgVlanReq.ofBuff (buff : List UInt8) : PresteraMsgVlanReq where
  port := readLe32 buff 4
  dev := readLe32 buff 8
  vid := readLe16 buff 12
  isMember := byteAt buff 14
  isTagged := byteAt buff 15

/-- `struct prestera_msg_port_attr_req`, 144 bytes; of the parameter union, the member the PHY mode
attribute uses. -/
structure PresteraMsgPortAttrReq where
  attr : UInt32
  port : UInt32
  dev : UInt32
  /-- `param.link.phy.admin`. -/
  phyAdmin : UInt8
  deriving DecidableEq, Repr

/-- The structure laid over the bytes of a request. -/
def PresteraMsgPortAttrReq.ofBuff (buff : List UInt8) : PresteraMsgPortAttrReq where
  attr := readLe32 buff 4
  port := readLe32 buff 8
  dev := readLe32 buff 12
  phyAdmin := byteAt buff 28

/-- `struct prestera_msg_port_info_req`, 8 bytes. -/
structure PresteraMsgPortInfoReq where
  port : UInt32
  deriving DecidableEq, Repr

/-- The structure laid over the bytes of a request. -/
def PresteraMsgPortInfoReq.ofBuff (buff : List UInt8) : PresteraMsgPortInfoReq where
  port := readLe32 buff 4

/-- `struct prestera_msg_keepalive_init_req`, 8 bytes. -/
structure PresteraMsgKeepaliveInitReq where
  pulseTimeoutMs : UInt32
  deriving DecidableEq, Repr

/-- The structure laid over the bytes of a request. -/
def PresteraMsgKeepaliveInitReq.ofBuff (buff : List UInt8) : PresteraMsgKeepaliveInitReq where
  pulseTimeoutMs := readLe32 buff 4

/-! ### Responses -/

/-- `struct prestera_msg_ret`, 8 bytes. -/
structure PresteraMsgRet where
  cmd : UInt32
  status : UInt32
  deriving DecidableEq, Repr

/-- The structure's bytes. -/
def PresteraMsgRet.bytes (r : PresteraMsgRet) : List UInt8 := le32 r.cmd ++ le32 r.status

/-- The header of a successful response. -/
def PresteraMsgRet.ackOk : PresteraMsgRet := ⟨PresteraCmdType.ack, presteraCmdAckOk⟩

/-- `struct prestera_msg_switch_init_resp`, 24 bytes, the last of them padding. -/
structure PresteraMsgSwitchInitResp where
  ret : PresteraMsgRet
  portCount : UInt32
  mtuMax : UInt32
  sizeTblRouterNexthop : UInt32
  switchId : UInt8
  lagMax : UInt8
  lagMemberMax : UInt8
  pad : UInt8
  deriving DecidableEq, Repr

/-- The structure's bytes. -/
def PresteraMsgSwitchInitResp.bytes (r : PresteraMsgSwitchInitResp) : List UInt8 :=
  r.ret.bytes ++ le32 r.portCount ++ le32 r.mtuMax ++ le32 r.sizeTblRouterNexthop ++
    [r.switchId, r.lagMax, r.lagMemberMax, r.pad]

/-- `struct prestera_msg_port_info_resp`, 20 bytes. -/
structure PresteraMsgPortInfoResp where
  ret : PresteraMsgRet
  hwId : UInt32
  devId : UInt32
  fpId : UInt16
  pad : UInt16
  deriving DecidableEq, Repr

/-- The structure's bytes. -/
def PresteraMsgPortInfoResp.bytes (r : PresteraMsgPortInfoResp) : List UInt8 :=
  r.ret.bytes ++ le32 r.hwId ++ le32 r.devId ++ le16 r.fpId ++ le16 r.pad

/-- `union prestera_msg_port_param`, 128 bytes. -/
structure PresteraMsgPortParam where
  raw : List UInt8
  length_eq : raw.length = 128

/-- The union with every byte zero, as its initialiser leaves it. -/
def PresteraMsgPortParam.zero : PresteraMsgPortParam :=
  ⟨List.replicate 128 0, List.length_replicate⟩

/-- The `cap` member over the union: link mode, type, fec, fc and transceiver, 12 bytes. -/
def PresteraMsgPortParam.setCap (p : PresteraMsgPortParam) (linkMode : UInt64)
    (type fec transceiver : UInt8) : PresteraMsgPortParam :=
  ⟨le64 linkMode ++ [type, fec, byteAt p.raw 10, transceiver] ++ p.raw.drop 12, by
    simp [p.length_eq]⟩

/-- `struct prestera_msg_port_attr_resp`, 136 bytes. -/
structure PresteraMsgPortAttrResp where
  ret : PresteraMsgRet
  param : PresteraMsgPortParam

/-- The structure's bytes. -/
def PresteraMsgPortAttrResp.bytes (r : PresteraMsgPortAttrResp) : List UInt8 :=
  r.ret.bytes ++ r.param.raw

/-- `PRESTERA_PORT_CNT_MAX`. -/
def presteraPortCntMax : ℕ := 30

/-- `PRESTERA_PORT_PKTS_64_OCTETS_CNT`. -/
def presteraPortPkts64OctetsCnt : ℕ := 5

/-- `struct prestera_msg_port_stats_resp`, 248 bytes. -/
structure PresteraMsgPortStatsResp where
  ret : PresteraMsgRet
  stats : List UInt64
  length_eq : stats.length = presteraPortCntMax

/-- The structure's bytes. -/
def PresteraMsgPortStatsResp.bytes (r : PresteraMsgPortStatsResp) : List UInt8 :=
  r.ret.bytes ++ r.stats.flatMap le64

/-- `struct prestera_msg_vr_resp`, 12 bytes. -/
structure PresteraMsgVrResp where
  ret : PresteraMsgRet
  vrId : UInt16
  pad : UInt16
  deriving DecidableEq, Repr

/-- The structure's bytes. -/
def PresteraMsgVrResp.bytes (r : PresteraMsgVrResp) : List UInt8 :=
  r.ret.bytes ++ le16 r.vrId ++ le16 r.pad

/-! ### Sizes -/

@[simp] theorem PresteraMsgRet.length_bytes (r : PresteraMsgRet) : r.bytes.length = 8 := by
  simp [bytes]

@[simp] theorem PresteraMsgSwitchInitResp.length_bytes (r : PresteraMsgSwitchInitResp) :
    r.bytes.length = 24 := by
  simp [bytes]

@[simp] theorem PresteraMsgPortInfoResp.length_bytes (r : PresteraMsgPortInfoResp) :
    r.bytes.length = 20 := by
  simp [bytes]

@[simp] theorem PresteraMsgPortAttrResp.length_bytes (r : PresteraMsgPortAttrResp) :
    r.bytes.length = 136 := by
  simp [bytes, r.param.length_eq]

@[simp] theorem PresteraMsgPortStatsResp.length_bytes (r : PresteraMsgPortStatsResp) :
    r.bytes.length = 248 := by
  have h : (r.stats.flatMap le64).length = r.stats.length * 8 := by
    induction r.stats with
    | nil => rfl
    | cons v vs ih =>
      simp only [List.flatMap_cons, List.length_append, length_le64, ih, List.length_cons]
      omega
  rw [bytes, List.length_append, h, r.length_eq, PresteraMsgRet.length_bytes]
  rfl

@[simp] theorem PresteraMsgVrResp.length_bytes (r : PresteraMsgVrResp) : r.bytes.length = 12 := by
  simp [bytes]

end SaiAgent
