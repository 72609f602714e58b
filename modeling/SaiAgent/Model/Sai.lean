import SaiAgent.Library.Oracle
import SaiAgent.Model.Message

/-!
# The SAI boundary

The SAI library is not part of the repository; the agent meets it through the method tables
`sai_api_query` hands out. `SaiCall` lists every call the agent makes with the arguments it passes,
`SaiResp` is everything a call can give back: its status, what it stored through an object-id
out-parameter, the attribute array as it leaves it, and the object ids it stored behind the array's
`objlist.list` pointer. An implementation of SAI is an `Oracle SaiCall SaiResp σ` and may answer
anything.

An attribute array is a list of id and value pairs; a value is one member of the C union. A
`get` call takes the array *in and out*: the count field of an object list is read by SAI as the
room behind `list` and overwritten with the length, so a call repeated with the same array passes
the count its first evaluation stored.
-/

namespace SaiAgent

open Effects

/-- `sai_object_id_t`. -/
abbrev Oid := UInt64

/-- `SAI_NULL_OBJECT_ID`. -/
def saiNullObjectId : Oid := 0

/-- `sai_status_t`. -/
abbrev SaiStatus := Int32

/-- `SAI_STATUS_SUCCESS`. -/
def saiStatusSuccess : SaiStatus := 0

/-- `SAI_STATUS_FAILURE`. -/
def saiStatusFailure : SaiStatus := -1

/-- `sai_api_t`, the modules the agent queries. -/
inductive SaiApi where
  | switch
  | bridge
  | vlan
  | port
  deriving DecidableEq, Repr

/-- `sai_log_level_t`. -/
inductive SaiLogLevel where
  | debug
  | info
  deriving DecidableEq, Repr

/-- The attribute ids the agent uses. -/
inductive SaiAttrId where
  | switchInitSwitch
  | switchSwitchProfileId
  | switchSwitchHardwareInfo
  | switchPortList
  | switchDefault1qBridgeId
  | switchDefaultVlanId
  | switchPortStateChangeNotify
  | bridgePortList
  | bridgePortAdminState
  | vlanVlanId
  | vlanMemberList
  | vlanMemberVlanId
  | vlanMemberBridgePortId
  | vlanMemberVlanTaggingMode
  | portAdminState
  | portPortVlanId
  deriving DecidableEq, Repr

/-- The functions the agent hands to SAI. -/
inductive SaiCallback where
  | saiOnPortStateChangeNotify
  deriving DecidableEq, Repr

/-- `sai_attribute_value_t`, one member of the union. -/
inductive SaiAttrValue where
  | booldata (b : Bool)
  | u16 (v : UInt16)
  | u32 (v : UInt32)
  | s32 (v : Int32)
  | oid (v : Oid)
  /-- The count field of an object list; the entries live behind its pointer. -/
  | objlist (count : UInt32)
  | s8list (v : List UInt8)
  | ptr (v : SaiCallback)
  deriving DecidableEq, Repr

namespace SaiAttrValue

/-- Read the `oid` member. -/
def getOid : SaiAttrValue → Oid
  | oid v => v
  | _ => saiNullObjectId

/-- Read the `u16` member. -/
def getU16 : SaiAttrValue → UInt16
  | u16 v => v
  | _ => 0

/-- Read `objlist.count`. -/
def getCount : SaiAttrValue → UInt32
  | objlist count => count
  | _ => 0

end SaiAttrValue

/-- `sai_attribute_t`. -/
structure SaiAttribute where
  id : SaiAttrId
  value : SaiAttrValue
  deriving DecidableEq, Repr

/-- The value of an array's attribute. -/
def attrValue (attr : List SaiAttribute) (i : ℕ) : SaiAttrValue :=
  (attr[i]?.map SaiAttribute.value).getD (.oid saiNullObjectId)

/-- `SAI_VLAN_TAGGING_MODE_UNTAGGED`. -/
def saiVlanTaggingModeUntagged : Int32 := 0

/-- `SAI_VLAN_TAGGING_MODE_TAGGED`. -/
def saiVlanTaggingModeTagged : Int32 := 1

/-- A call into SAI with its arguments. `attrCount` is the count argument; the array passed may be
longer. -/
inductive SaiCall where
  | saiApiQuery (api : SaiApi)
  | saiLogSet (api : SaiApi) (level : SaiLogLevel)
  | createSwitch (attrCount : ℕ) (attr : List SaiAttribute)
  | removeSwitch (switchOid : Oid)
  | getSwitchAttribute (switchOid : Oid) (attrCount : ℕ) (attr : List SaiAttribute)
  | setSwitchAttribute (switchOid : Oid) (attr : SaiAttribute)
  | getBridgeAttribute (bridgeOid : Oid) (attrCount : ℕ) (attr : List SaiAttribute)
  | setBridgePortAttribute (brPortOid : Oid) (attr : SaiAttribute)
  | createVlan (switchOid : Oid) (attrCount : ℕ) (attr : List SaiAttribute)
  | getVlanAttribute (vlanOid : Oid) (attrCount : ℕ) (attr : List SaiAttribute)
  | createVlanMember (switchOid : Oid) (attrCount : ℕ) (attr : List SaiAttribute)
  | getVlanMemberAttribute (memberOid : Oid) (attrCount : ℕ) (attr : List SaiAttribute)
  | setPortAttribute (portOid : Oid) (attr : SaiAttribute)
  deriving DecidableEq, Repr

/-- What a call gives back. -/
structure SaiResp where
  status : SaiStatus
  /-- What the call stored through its object-id out-parameter, if anything. -/
  oid : Option Oid
  /-- The attribute array as the call leaves it. -/
  attr : List SaiAttribute
  /-- The entries the call stored from the start of the array behind `objlist.list`. -/
  list : List Oid
  deriving DecidableEq, Repr

namespace SaiResp

/-- An answer that stores nothing. -/
def bare (status : SaiStatus) : SaiResp := ⟨status, none, [], []⟩

/-- The call succeeded. -/
def ok (r : SaiResp) : Bool := r.status == saiStatusSuccess

/-- The object-id out-parameter after the call: a successful create stores the new object's id, a
failing one may or may not write. -/
def outOid (r : SaiResp) : Option Oid :=
  if r.ok then some (r.oid.getD saiNullObjectId) else r.oid

theorem ok_iff {r : SaiResp} : r.ok = true ↔ r.status = saiStatusSuccess := by
  simp [ok]

theorem ok_eq_false_iff {r : SaiResp} : r.ok = false ↔ r.status ≠ saiStatusSuccess := by
  simp [ok]

end SaiResp

/-- An implementation of SAI. -/
abbrev SaiBackend (σ : Type) := Oracle SaiCall SaiResp σ

/-- The SAI that answers from a script, and refuses everything once it is over. -/
def scriptedSai : SaiBackend (List SaiResp) := Oracle.scripted (SaiResp.bare saiStatusFailure)

/-! ### Object-id arrays -/

/-- `sai_object_id_t [64]`: the array type of `port_list`, `br_port_list` and `vlan_member_list`. -/
structure OidArray where
  entries : List Oid
  length_eq : entries.length = 64

namespace OidArray

/-- `ARRAY_LEN` of the array. -/
def arrayLen : UInt32 := 64

/-- An array of one repeated entry. -/
def replicate (v : Oid) : OidArray := ⟨List.replicate 64 v, List.length_replicate⟩

/-- Read an entry; an index from 64 on is out of bounds. -/
def get (a : OidArray) (i : ℕ) : Except Fault Oid :=
  match a.entries[i]? with
  | some v => .ok v
  | none => .error .outOfBounds

/-- Let a callee store entries from the start of the array, no more of them than the room it
was told of. Storing past the end of the array is out of bounds, whatever room was announced. -/
def store (a : OidArray) (room : UInt32) (vs : List Oid) : Except Fault OidArray :=
  if h : (vs.take room.toNat).length ≤ 64 then
    .ok ⟨vs.take room.toNat ++ a.entries.drop (vs.take room.toNat).length, by
      rw [List.length_append, List.length_drop, a.length_eq]
      omega⟩
  else
    .error .outOfBounds

theorem get_of_lt (a : OidArray) {i : ℕ} (h : i < 64) :
    a.get i = .ok (a.entries.get ⟨i, by rw [a.length_eq]; exact h⟩) := by
  rw [get, List.getElem?_eq_getElem (by rw [a.length_eq]; exact h)]
  rfl

theorem get_of_le (a : OidArray) {i : ℕ} (h : 64 ≤ i) : a.get i = .error .outOfBounds := by
  rw [get, List.getElem?_eq_none (by rw [a.length_eq]; exact h)]

/-- Storing faults exactly when it would run past the end. -/
theorem store_eq_error_iff (a : OidArray) (room : UInt32) (vs : List Oid) :
    (∃ e, a.store room vs = .error e) ↔ 64 < (vs.take room.toNat).length := by
  unfold store
  split
  · exact iff_of_false (by simp) (Nat.not_lt.2 ‹_›)
  · exact iff_of_true ⟨_, rfl⟩ (Nat.lt_of_not_le ‹_›)

theorem eq_outOfBounds_of_store {a : OidArray} {room : UInt32} {vs : List Oid} {e : Fault}
    (h : a.store room vs = .error e) : e = .outOfBounds := by
  unfold store at h
  split at h
  · cases h
  · exact (Except.error.inj h).symm

/-- Announcing the array's own length never overruns it. -/
theorem store_arrayLen (a : OidArray) (vs : List Oid) :
    ∃ a', a.store arrayLen vs = .ok a' ∧
      a'.entries = vs.take 64 ++ a.entries.drop (vs.take 64).length := by
  have h : (vs.take arrayLen.toNat).length ≤ 64 := by
    rw [List.length_take]
    exact Nat.min_le_left _ _
  exact ⟨_, dif_pos h, rfl⟩

end OidArray

end SaiAgent
