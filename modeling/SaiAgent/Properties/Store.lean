import SaiAgent.Properties.OneSwitch
import SaiAgent.Properties.Returning

/-!
# SAI as a store of VLANs

What a SAI does for its client, apart from how it does it: it holds the VLANs of the switch, their
members and the settings of the ports (`SaiStore`), and a call that succeeds changes them in the way
its name says. A SAI implementation is a store when it has a view of its private state for which
this is true:

* `StoreSai`: successful calls have their effect and refused calls have none. Any call may be
  refused at any time, for any reason;
* `ExactSai`: beyond that, a call is refused exactly when the store cannot carry it out — a VLAN
  id or a member that exists, an object that does not — or for a reason of its own that is the same
  at all times.

Object identifiers are chosen by the implementation; it uses none of them for two VLANs.
-/

namespace SaiAgent

open Effects Effects.Proc

/-! ### The store -/

/-- What the store holds. -/
structure SaiStore where
  /-- The VLAN objects of the switch, by VLAN id. -/
  vlans : UInt16 → Option Oid
  /-- The VLAN id of every object that is or was a VLAN, of this switch or of one before it. -/
  vidOf : Oid → Option UInt16
  /-- The VLAN the switch came with. -/
  defaultVlan : Oid
  /-- The members of a VLAN object, by bridge port: the member object and its tagging mode. -/
  members : Oid → Oid → Option (Oid × Int32)
  /-- The bridge ports that are administratively up. -/
  brPortUp : Oid → Bool
  /-- The ports that are administratively up. -/
  portUp : Oid → Bool
  /-- The VLAN ids of the ports. -/
  pvid : Oid → Option UInt16
  vidOf_of_vlans : ∀ {v o}, vlans v = some o → vidOf o = some v
  vidOf_of_members : ∀ {o b}, (members o b).isSome = true → (vidOf o).isSome = true

namespace SaiStore

variable (S : SaiStore)

/-- The object is a VLAN of the switch. -/
def IsVlan (o : Oid) : Prop := ∃ v, S.vlans v = some o

/-- Add a VLAN under an identifier that was never used. -/
def addVlan (v : UInt16) (o : Oid) (h : S.vidOf o = none) : SaiStore where
  vlans := Function.update S.vlans v (some o)
  vidOf := Function.update S.vidOf o (some v)
  defaultVlan := S.defaultVlan
  members := S.members
  brPortUp := S.brPortUp
  portUp := S.portUp
  pvid := S.pvid
  vidOf_of_vlans := by
    intro v' o' hv
    by_cases hne : v' = v
    · subst hne
      rw [Function.update_self] at hv
      obtain rfl := Option.some.inj hv
      exact Function.update_self ..
    · rw [Function.update_of_ne hne] at hv
      have hold := S.vidOf_of_vlans hv
      have ho : o' ≠ o := by
        rintro rfl
        cases h.symm.trans hold
      rw [Function.update_of_ne ho]
      exact hold
  vidOf_of_members := by
    intro o' b hm
    by_cases ho : o' = o
    · rw [ho, Function.update_self]
      rfl
    · rw [Function.update_of_ne ho]
      exact S.vidOf_of_members hm

/-- Add a member to a VLAN. -/
def addMember (o b m : Oid) (t : Int32) (h : (S.vidOf o).isSome = true) : SaiStore where
  vlans := S.vlans
  vidOf := S.vidOf
  defaultVlan := S.defaultVlan
  members := Function.update S.members o (Function.update (S.members o) b (some (m, t)))
  brPortUp := S.brPortUp
  portUp := S.portUp
  pvid := S.pvid
  vidOf_of_vlans := S.vidOf_of_vlans
  vidOf_of_members := by
    intro o' b' hm
    by_cases ho : o' = o
    · rw [ho]
      exact h
    · rw [Function.update_of_ne ho] at hm
      exact S.vidOf_of_members hm

/-- Set an attribute of a bridge port; only its admin state is kept here. -/
def setBrPort (b : Oid) : SaiAttribute → SaiStore
  | ⟨.bridgePortAdminState, .booldata up⟩ => { S with brPortUp := Function.update S.brPortUp b up }
  | _ => S

/-- Set an attribute of a port: its admin state or its VLAN id. -/
def setPort (p : Oid) : SaiAttribute → SaiStore
  | ⟨.portAdminState, .booldata up⟩ => { S with portUp := Function.update S.portUp p up }
  | ⟨.portPortVlanId, .u16 v⟩ => { S with pvid := Function.update S.pvid p (some v) }
  | _ => S

/-- The VLANs, without what is configured on them. -/
def vlanPart : (UInt16 → Option Oid) × (Oid → Option UInt16) × Oid :=
  (S.vlans, S.vidOf, S.defaultVlan)

@[simp] theorem vlanPart_addMember (o b m : Oid) (t : Int32) (h : (S.vidOf o).isSome = true) :
    (S.addMember o b m t h).vlanPart = S.vlanPart := rfl

theorem setBrPort_eq (b : Oid) (a : SaiAttribute) :
    ∃ up, S.setBrPort b a = { S with brPortUp := up } := by
  unfold setBrPort
  split
  · exact ⟨_, rfl⟩
  · exact ⟨S.brPortUp, rfl⟩

theorem setPort_eq (p : Oid) (a : SaiAttribute) :
    ∃ up pvid, S.setPort p a = { S with portUp := up, pvid := pvid } := by
  unfold setPort
  split
  · exact ⟨_, S.pvid, rfl⟩
  · exact ⟨S.portUp, _, rfl⟩
  · exact ⟨S.portUp, S.pvid, rfl⟩

@[simp] theorem vlanPart_setBrPort (b : Oid) (a : SaiAttribute) :
    (S.setBrPort b a).vlanPart = S.vlanPart := by
  obtain ⟨up, h⟩ := S.setBrPort_eq b a
  rw [h]
  rfl

@[simp] theorem vlanPart_setPort (p : Oid) (a : SaiAttribute) :
    (S.setPort p a).vlanPart = S.vlanPart := by
  obtain ⟨up, pvid, h⟩ := S.setPort_eq p a
  rw [h]
  rfl

variable {S}

theorem members_addMember_self {o b m : Oid} {t : Int32} {h : (S.vidOf o).isSome = true} :
    (S.addMember o b m t h).members o b = some (m, t) :=
  (congrFun (Function.update_self ..) b).trans (Function.update_self ..)

/-- A VLAN that was never there has no members. -/
theorem members_of_fresh {o : Oid} (h : S.vidOf o = none) (b : Oid) : S.members o b = none := by
  by_contra hne
  have hsome := S.vidOf_of_members (Option.isSome_iff_ne_none.2 hne)
  rw [h] at hsome
  cases hsome

/-- A VLAN object has one VLAN id. -/
theorem vlans_eq_of_isVlan {o : Oid} {v : UInt16} (h : S.IsVlan o) (hv : S.vidOf o = some v) :
    S.vlans v = some o := by
  obtain ⟨v', hv'⟩ := h
  obtain rfl := Option.some.inj ((S.vidOf_of_vlans hv').symm.trans hv)
  exact hv'

end SaiStore

/-! ### A SAI that is a store -/

/-- Read the `s32` member. -/
def SaiAttrValue.getS32 : SaiAttrValue → Int32
  | s32 v => v
  | _ => 0

/-- The value an array has for an attribute. -/
def attrById (attr : List SaiAttribute) (id : SaiAttrId) : SaiAttrValue :=
  ((attr.find? fun a ↦ a.id = id).map SaiAttribute.value).getD (.oid saiNullObjectId)

/-- The calls that change nothing in the store. -/
def SaiCall.isRead : SaiCall → Bool
  | .createSwitch _ _ | .removeSwitch _ | .createVlan _ _ _ | .createVlanMember _ _ _
  | .setBridgePortAttribute _ _ | .setPortAttribute _ _ => false
  | _ => true

/-- The attribute array of the member list query. -/
def memberListQuery : List SaiAttribute := [⟨.vlanMemberList, .objlist OidArray.arrayLen⟩]

variable {σ : Type}

/-- **The SAI is a store**, seen through `view`: what succeeds has its effect, what is refused has
none. -/
structure StoreSai (E : SaiBackend σ) (view : σ → SaiStore) : Prop where
  /-- No identifier is used for two VLANs. -/
  vidOf_mono : ∀ c s {o v}, (view s).vidOf o = some v → (view (E c s).2).vidOf o = some v
  /-- A refused call changes nothing. -/
  refused : ∀ c s, (E c s).1.ok = false → view (E c s).2 = view s
  read : ∀ c s, c.isRead = true → view (E c s).2 = view s
  /-- A new switch has one VLAN, a new one. -/
  createSwitch : ∀ n attr s, (E (.createSwitch n attr) s).1.ok = true →
    ∃ v o, (view s).vidOf o = none ∧ (view (E (.createSwitch n attr) s).2).vlans = Function.update
      (fun _ ↦ none) v (some o) ∧
    (view (E (.createSwitch n attr) s).2).defaultVlan = o
  createVlan : ∀ sw n attr s, (E (.createVlan sw n attr) s).1.ok = true →
    (view s).vlans (attrById attr .vlanVlanId).getU16 = none ∧
      ∃ h : (view s).vidOf ((E (.createVlan sw n attr) s).1.oid.getD saiNullObjectId) = none,
        view (E (.createVlan sw n attr) s).2 = (view s).addVlan
          (attrById attr .vlanVlanId).getU16 _ h
  createVlanMember : ∀ sw n attr s, (E (.createVlanMember sw n attr) s).1.ok = true →
    (view s).members (attrById attr .vlanMemberVlanId).getOid
        (attrById attr .vlanMemberBridgePortId).getOid = none ∧
      ∃ m h, view (E (.createVlanMember sw n attr) s).2 = (view s).addMember
        (attrById attr .vlanMemberVlanId).getOid (attrById attr .vlanMemberBridgePortId).getOid m
        (attrById attr .vlanMemberVlanTaggingMode).getS32 h
  setBridgePortAttribute : ∀ b a s, (E (.setBridgePortAttribute b a) s).1.ok = true →
    view (E (.setBridgePortAttribute b a) s).2 = (view s).setBrPort b a
  setPortAttribute : ∀ p a s, (E (.setPortAttribute p a) s).1.ok = true →
    view (E (.setPortAttribute p a) s).2 = (view s).setPort p a
  /-- A VLAN object is asked for its VLAN id. -/
  getVlanId : ∀ o s, (E (.getVlanAttribute o 1 vlanIdQuery) s).1.ok = true →
    (view s).vidOf o = some (attrValue (E (.getVlanAttribute o 1 vlanIdQuery) s).1.attr 0).getU16
  /-- The switch is asked for its default VLAN. -/
  getDefaultVlan : ∀ o s, (E (.getSwitchAttribute o 3 switchQueryAttr) s).1.ok = true →
    (attrValue (E (.getSwitchAttribute o 3 switchQueryAttr) s).1.attr 2).getOid =
      (view s).defaultVlan

/-- **The SAI refuses only what the store cannot do**, and what `accepts` does not let through.
Member lists hold no more than 64 entries. -/
structure ExactSai (E : SaiBackend σ) (view : σ → SaiStore) (accepts : SaiCall → Bool) : Prop
    extends StoreSai E view, KeepsRoom E where
  query_ok : ∀ api s, (E (.saiApiQuery api) s).1.ok = accepts (.saiApiQuery api)
  createVlan_ok_iff : ∀ sw n attr s, (E (.createVlan sw n attr) s).1.ok = true ↔
    accepts (.createVlan sw n attr) = true ∧
      (view s).vlans (attrById attr .vlanVlanId).getU16 = none
  createVlanMember_ok_iff : ∀ sw n attr s, (E (.createVlanMember sw n attr) s).1.ok = true ↔
    (view s).IsVlan (attrById attr .vlanMemberVlanId).getOid ∧
      (view s).members (attrById attr .vlanMemberVlanId).getOid
        (attrById attr .vlanMemberBridgePortId).getOid = none
  setBridgePortAttribute_ok : ∀ b a s, (E (.setBridgePortAttribute b a) s).1.ok =
    accepts (.setBridgePortAttribute b a)
  setPortAttribute_ok : ∀ p a s, (E (.setPortAttribute p a) s).1.ok = accepts
    (.setPortAttribute p a)
  /-- Only a VLAN of the switch has attributes. -/
  isVlan_of_get : ∀ o n attr s, (E (.getVlanAttribute o n attr) s).1.ok = true → (view s).IsVlan o
  memberList_ok : ∀ o s, (view s).IsVlan o →
    (E (.getVlanAttribute o 1 memberListQuery) s).1.ok = true
  /-- The list holds as many entries as its count says, each of them a member of the VLAN. -/
  memberList : ∀ o s, (E (.getVlanAttribute o 1 memberListQuery) s).1.ok = true →
    (E (.getVlanAttribute o 1 memberListQuery) s).1.list.length =
        (attrValue (E (.getVlanAttribute o 1 memberListQuery) s).1.attr 0).getCount.toNat ∧
      ∀ m ∈ (E (.getVlanAttribute o 1 memberListQuery) s).1.list,
        ∃ b t, (view s).members o b = some (m, t)
  memberQuery_ok : ∀ m s, (∃ o b t, (view s).members o b = some (m, t)) →
    (E (memberQuery m) s).1.ok = true
  /-- A member that is asked for `n` attributes leaves what comes after them as it was. -/
  memberAttribute : ∀ m n attr s, (E (.getVlanMemberAttribute m n attr) s).1.ok = true →
    (E (.getVlanMemberAttribute m n attr) s).1.attr.drop n = attr.drop n

end SaiAgent
