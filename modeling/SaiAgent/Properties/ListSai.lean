import SaiAgent.Properties.Store

/-!
# A SAI that keeps lists

A store in two lists (`ListStore`) and the SAI over it (`listSai`): a switch with the ports 16 and
17, the bridge ports 32 and 33 and the VLAN 1. It refuses what a store cannot do and nothing else
(`exactSai_listSai`), so what is proved about every such SAI is about this one. Runs on fixed inputs
use it.
-/

namespace SaiAgent

/-! ### The store -/

/-- A member of a VLAN object. -/
structure ListMember where
  oid : Oid
  vlan : Oid
  brPort : Oid
  tag : Int32
  deriving DecidableEq

/-- The identifier of a VLAN. -/
def vlanOidOf (v : UInt16) : Oid := 65536 + v.toUInt64

theorem vlanOidOf_injective {v v' : UInt16} (h : vlanOidOf v = vlanOidOf v') : v = v' := by
  have hnat : ∀ v : UInt16, (vlanOidOf v).toNat = 65536 + v.toNat := fun v ↦ by
    have hlt := v.toNat_lt
    rw [vlanOidOf, UInt64.toNat_add, UInt16.toNat_toUInt64]
    exact Nat.mod_eq_of_lt (by show 65536 + v.toNat < 2 ^ 64; omega)
  have heq := congrArg UInt64.toNat h
  rw [hnat, hnat] at heq
  exact UInt16.toNat_inj.1 (by omega)

/-- The VLAN id an object has among these VLANs. -/
def vidIn (vids : List UInt16) (o : Oid) : Option UInt16 := vids.find? fun v ↦ vlanOidOf v = o

theorem vlanOidOf_of_vidIn {vids : List UInt16} {o : Oid} {v : UInt16} (h : vidIn vids o = some v) :
    v ∈ vids ∧ vlanOidOf v = o :=
  ⟨List.mem_of_find?_eq_some h, of_decide_eq_true
    (List.find?_some (p := fun v ↦ vlanOidOf v = o) h)⟩

theorem vidIn_vlanOidOf {vids : List UInt16} {v : UInt16} (h : v ∈ vids) :
    vidIn vids (vlanOidOf v) = some v := by
  rcases hv : vidIn vids (vlanOidOf v) with _ | v'
  · exact absurd rfl (of_decide_eq_false (Bool.eq_false_iff.2 (List.find?_eq_none.1 hv v h)))
  · rw [vlanOidOf_injective (vlanOidOf_of_vidIn hv).2]

theorem vidIn_cons (v : UInt16) (vids : List UInt16) :
    vidIn (v :: vids) = Function.update (vidIn vids) (vlanOidOf v) (some v) := by
  funext o
  rw [Function.update_apply, vidIn, List.find?_cons]
  by_cases h : vlanOidOf v = o
  · rw [if_pos h.symm, decide_eq_true h]
  · rw [if_neg (Ne.symm h), decide_eq_false h]
    rfl

/-- The VLANs and their members, newest first, and the settings of the ports. -/
structure ListStore where
  vids : List UInt16
  members : List ListMember
  brPortUp : Oid → Bool
  portUp : Oid → Bool
  pvid : Oid → Option UInt16
  vidIn_of_mem : ∀ m ∈ members, (vidIn vids m.vlan).isSome = true

namespace ListStore

/-- Before a switch is created. -/
def empty : ListStore := ⟨[], [], fun _ ↦ false, fun _ ↦ false, fun _ ↦ none, nofun⟩

variable (s : ListStore)

/-- The member a bridge port has in a VLAN. -/
def member (o b : Oid) : Option ListMember := s.members.find? fun m ↦ m.vlan = o ∧ m.brPort = b

/-- The member an object is. -/
def find (o : Oid) : Option ListMember := s.members.find? fun m ↦ m.oid = o

variable {s} in
theorem vlan_of_member {o b : Oid} {m : ListMember} (h : s.member o b = some m) :
    m.vlan = o ∧ m.brPort = b :=
  of_decide_eq_true (List.find?_some (p := fun m : ListMember ↦ m.vlan = o ∧ m.brPort = b) h)

/-- The members of a VLAN, as many as an array has room for. -/
def listed (o : Oid) : List Oid :=
  ((s.members.filter fun m ↦ s.member o m.brPort = some m).map ListMember.oid).take 64

/-- Add a VLAN. -/
def addVlan (v : UInt16) : ListStore where
  vids := v :: s.vids
  members := s.members
  brPortUp := s.brPortUp
  portUp := s.portUp
  pvid := s.pvid
  vidIn_of_mem := fun m hm ↦ by
    rw [vidIn_cons, Function.update_apply]
    split
    · rfl
    · exact s.vidIn_of_mem m hm

/-- Add a member. -/
def addMember (m : ListMember) (h : (vidIn s.vids m.vlan).isSome = true) : ListStore where
  vids := s.vids
  members := m :: s.members
  brPortUp := s.brPortUp
  portUp := s.portUp
  pvid := s.pvid
  vidIn_of_mem := List.forall_mem_cons.2 ⟨h, s.vidIn_of_mem⟩

/-- As a store. -/
def view : SaiStore where
  vlans v := if v ∈ s.vids then some (vlanOidOf v) else none
  vidOf := vidIn s.vids
  defaultVlan := vlanOidOf 1
  members o b := (s.member o b).map fun m ↦ (m.oid, m.tag)
  brPortUp := s.brPortUp
  portUp := s.portUp
  pvid := s.pvid
  vidOf_of_vlans := by
    intro v o h
    obtain ⟨hv, ho⟩ := Option.ite_none_right_eq_some.1 h
    obtain rfl := Option.some.inj ho
    exact vidIn_vlanOidOf hv
  vidOf_of_members := by
    intro o b h
    rw [Option.isSome_map] at h
    obtain ⟨m, hm⟩ := Option.isSome_iff_exists.1 h
    obtain ⟨rfl, -⟩ := vlan_of_member hm
    exact s.vidIn_of_mem m (List.mem_of_find?_eq_some hm)

variable {s}

theorem isVlan_view {o : Oid} : s.view.IsVlan o ↔ (vidIn s.vids o).isSome = true := by
  constructor
  · rintro ⟨v, hv⟩
    rw [show vidIn s.vids o = some v from s.view.vidOf_of_vlans hv]
    rfl
  · intro h
    obtain ⟨v, hv⟩ := Option.isSome_iff_exists.1 h
    obtain ⟨hmem, rfl⟩ := vlanOidOf_of_vidIn hv
    exact ⟨v, if_pos hmem⟩

theorem vlans_view_eq_none {v : UInt16} : s.view.vlans v = none ↔ v ∉ s.vids := by
  show (if v ∈ s.vids then some (vlanOidOf v) else none) = none ↔ _
  simp

theorem members_view_eq_none {o b : Oid} : s.view.members o b = none ↔ s.member o b = none :=
  Option.map_eq_none_iff

/-- An id no VLAN has belongs to no object. -/
theorem vidOf_view_of_not_mem {v : UInt16} (h : v ∉ s.vids) :
    s.view.vidOf (vlanOidOf v) = none := by
  rcases hv : vidIn s.vids (vlanOidOf v) with _ | v'
  · exact hv
  · obtain ⟨hmem, heq⟩ := vlanOidOf_of_vidIn hv
    exact absurd (vlanOidOf_injective heq ▸ hmem) h

theorem view_addVlan {v : UInt16} (h : s.view.vidOf (vlanOidOf v) = none) :
    (s.addVlan v).view = s.view.addVlan v (vlanOidOf v) h := by
  have hvlans : (s.addVlan v).view.vlans = Function.update s.view.vlans v (some (vlanOidOf v)) := by
    funext v'
    rw [Function.update_apply]
    show (if v' ∈ v :: s.vids then some (vlanOidOf v') else none) = _
    by_cases hv : v' = v
    · rw [if_pos hv, hv, if_pos List.mem_cons_self]
    · rw [if_neg hv]
      exact if_congr (List.mem_cons.trans (or_iff_right hv)) rfl rfl
  have hvid : (s.addVlan v).view.vidOf = Function.update s.view.vidOf (vlanOidOf v) (some v) :=
    vidIn_cons v s.vids
  simp only [SaiStore.addVlan, ← hvlans, ← hvid]
  rfl

theorem member_addMember (m : ListMember) (h : (vidIn s.vids m.vlan).isSome = true) (o b : Oid) :
    (s.addMember m h).member o b = if m.vlan = o ∧ m.brPort = b then some m else s.member o b := by
  show List.find? _ (m :: s.members) = _
  rw [List.find?_cons]
  split
  · rw [if_pos (of_decide_eq_true ‹_›)]
  · rw [if_neg (of_decide_eq_false ‹_›)]
    rfl

theorem view_addMember (m : ListMember) (h : (vidIn s.vids m.vlan).isSome = true) :
    (s.addMember m h).view = s.view.addMember m.vlan m.brPort m.oid m.tag h := by
  have hmembers : (s.addMember m h).view.members = Function.update s.view.members m.vlan
      (Function.update (s.view.members m.vlan) m.brPort (some (m.oid, m.tag))) := by
    funext o b
    rw [Function.update_apply]
    show ((s.addMember m h).member o b).map _ = _
    rw [member_addMember]
    by_cases ho : o = m.vlan
    · rw [if_pos ho, ho, Function.update_apply]
      by_cases hb : b = m.brPort
      · rw [if_pos ⟨rfl, hb.symm⟩, if_pos hb]
        rfl
      · rw [if_neg fun hc ↦ hb hc.2.symm, if_neg hb]
        rfl
    · rw [if_neg fun hc ↦ ho hc.1.symm, if_neg ho]
      rfl
  simp only [SaiStore.addMember, ← hmembers]
  rfl

theorem length_listed_le (o : Oid) : (s.listed o).length ≤ 64 := by
  rw [listed, List.length_take]
  omega

/-- What is listed is a member. -/
theorem members_of_mem_listed {o m : Oid} (h : m ∈ s.listed o) :
    ∃ b t, s.view.members o b = some (m, t) := by
  obtain ⟨e, he, rfl⟩ := List.mem_map.1 (List.mem_of_mem_take h)
  obtain ⟨-, hfind⟩ := List.mem_filter.1 he
  exact ⟨e.brPort, e.tag, congrArg (Option.map _) (of_decide_eq_true hfind)⟩

/-- A member's object is found. -/
theorem find_of_members {o b m : Oid} {t : Int32} (h : s.view.members o b = some (m, t)) :
    ∃ e, s.find m = some e := by
  obtain ⟨e, he, heq⟩ := Option.map_eq_some_iff.1 h
  obtain ⟨rfl, -⟩ := Prod.mk.inj heq
  refine Option.isSome_iff_exists.1 (List.find?_isSome.2 ⟨e, List.mem_of_find?_eq_some he, ?_⟩)
  exact decide_eq_true rfl

end ListStore

/-! ### The SAI -/

/-- An attribute array with the first `n` entries filled in. -/
def filled (value : SaiAttrId → SaiAttrValue) (n : ℕ) (attr : List SaiAttribute) :
    List SaiAttribute :=
  (attr.take n).map (fun a ↦ ⟨a.id, value a.id⟩) ++ attr.drop n

/-- A `get`. It fills at least one attribute. -/
def getResp (value : SaiAttrId → SaiAttrValue) (list : List Oid) : ℕ → List SaiAttribute → SaiResp
  | 0, _ => SaiResp.bare saiStatusFailure
  | n + 1, attr => ⟨saiStatusSuccess, none, filled value (n + 1) attr, list⟩

/-- The attributes of the switch. -/
def switchValue : SaiAttrId → SaiAttrValue
  | .switchPortList => .objlist 2
  | .switchDefault1qBridgeId => .oid 2
  | .switchDefaultVlanId => .oid (vlanOidOf 1)
  | _ => .oid saiNullObjectId

/-- The attributes of the bridge. -/
def bridgeValue : SaiAttrId → SaiAttrValue
  | .bridgePortList => .objlist 2
  | _ => .oid saiNullObjectId

/-- The attributes of a VLAN. -/
def vlanValue (v : UInt16) (members : List Oid) : SaiAttrId → SaiAttrValue
  | .vlanVlanId => .u16 v
  | .vlanMemberList => .objlist (UInt32.ofNat members.length)
  | _ => .oid saiNullObjectId

/-- The attributes of a member. -/
def memberValue (m : ListMember) : SaiAttrId → SaiAttrValue
  | .vlanMemberVlanId => .oid m.vlan
  | .vlanMemberBridgePortId => .oid m.brPort
  | _ => .oid saiNullObjectId

/-- The member `create_vlan_member` is asked to create. -/
def newMember (s : ListStore) (attr : List SaiAttribute) : ListMember where
  oid := UInt64.ofNat (4294967296 + s.members.length)
  vlan := (attrById attr .vlanMemberVlanId).getOid
  brPort := (attrById attr .vlanMemberBridgePortId).getOid
  tag := (attrById attr .vlanMemberVlanTaggingMode).getS32

/-- What a VLAN answers. -/
def vlanResp (s : ListStore) (o : Oid) (n : ℕ) (attr : List SaiAttribute) : SaiResp :=
  match vidIn s.vids o with
  | some v => getResp (vlanValue v (s.listed o)) (s.listed o) n attr
  | none => SaiResp.bare saiStatusFailure

/-- What a member answers. -/
def memberResp (s : ListStore) (o : Oid) (n : ℕ) (attr : List SaiAttribute) : SaiResp :=
  match s.find o with
  | some m => getResp (memberValue m) [] n attr
  | none => SaiResp.bare saiStatusFailure

/-- A refusal. -/
def refuse (s : ListStore) : SaiResp × ListStore := (SaiResp.bare saiStatusFailure, s)

/-- The creation of an object. -/
def created (o : Oid) (s : ListStore) : SaiResp × ListStore :=
  (⟨saiStatusSuccess, some o, [], []⟩, s)

/-- **The SAI over the lists.** It has one switch and keeps it. -/
def listSai : SaiBackend ListStore
  | .saiApiQuery _, s | .saiLogSet _ _, s | .setSwitchAttribute _ _,
    s => (SaiResp.bare saiStatusSuccess, s)
  | .createSwitch _ _, s => if s.vids = [] then created 1 (s.addVlan 1) else refuse s
  | .removeSwitch _, s => refuse s
  | .getSwitchAttribute _ n attr, s => (getResp switchValue [16, 17] n attr, s)
  | .getBridgeAttribute _ n attr, s => (getResp bridgeValue [32, 33] n attr, s)
  | .setBridgePortAttribute b a, s =>
    (SaiResp.bare saiStatusSuccess, { s with brPortUp := (s.view.setBrPort b a).brPortUp })
  | .createVlan _ _ attr, s =>
    let v := (attrById attr .vlanVlanId).getU16
    if v ∈ s.vids then refuse s else created (vlanOidOf v) (s.addVlan v)
  | .getVlanAttribute o n attr, s => (vlanResp s o n attr, s)
  | .createVlanMember _ _ attr, s =>
    let m := newMember s attr
    if h : (vidIn s.vids m.vlan).isSome = true ∧ s.member m.vlan m.brPort = none then
      created m.oid (s.addMember m h.1)
    else
      refuse s
  | .getVlanMemberAttribute o n attr, s => (memberResp s o n attr, s)
  | .setPortAttribute p a, s =>
    (SaiResp.bare saiStatusSuccess,
      { s with portUp := (s.view.setPort p a).portUp, pvid := (s.view.setPort p a).pvid })

/-! ### It is a store -/

variable {s : ListStore}

/-- What a `get` fills in first is no longer than the list it fills in. -/
theorem count_getResp_le {value : SaiAttrId → SaiAttrValue}
    (h : ∀ id, (value id).getCount ≤ OidArray.arrayLen) (list : List Oid) (n : ℕ)
    (attr : List SaiAttribute) : (attrValue (getResp value list n attr).attr 0).getCount ≤
        OidArray.arrayLen := by
  have hzero : (0 : UInt32) ≤ OidArray.arrayLen := by decide
  rcases n with _ | n
  · exact hzero
  rcases attr with _ | ⟨a, attr⟩
  · exact hzero
  · exact h a.id

/-- It fills in no more than it was asked for. -/
theorem drop_getResp (value : SaiAttrId → SaiAttrValue) (list : List Oid) (n : ℕ)
    (attr : List SaiAttribute) : (getResp value list (n + 1) attr).attr.drop (n + 1) =
        attr.drop (n + 1) := by
  show List.drop (n + 1) (filled value (n + 1) attr) = _
  rw [filled]
  rcases Nat.le_total (n + 1) attr.length with h | h
  · exact List.drop_left' (by rw [List.length_map, List.length_take_of_le h])
  · rw [List.drop_eq_nil_of_le h, List.append_nil, List.drop_eq_nil_of_le]
    rw [List.length_map, List.take_of_length_le h]
    exact h

theorem listSai_read {c : SaiCall} (hc : c.isRead = true) (s : ListStore) :
    (listSai c s).2 = s := by
  cases c with
  | createSwitch _ _ | removeSwitch _ | createVlan _ _ _ | createVlanMember _ _ _
  | setBridgePortAttribute _ _ | setPortAttribute _ _ => cases hc
  | saiApiQuery _ | saiLogSet _ _ | setSwitchAttribute _ _ | getSwitchAttribute _ _ _
  | getBridgeAttribute _ _ _ | getVlanAttribute _ _ _ | getVlanMemberAttribute _ _ _ => rfl

theorem listSai_createSwitch (n : ℕ) (attr : List SaiAttribute) (s : ListStore) :
    listSai (.createSwitch n attr) s = if s.vids = [] then created 1 (s.addVlan 1) else refuse s :=
  rfl

theorem listSai_createVlan (sw : Oid) (n : ℕ) (attr : List SaiAttribute) (s : ListStore) :
    listSai (.createVlan sw n attr) s =
      if (attrById attr .vlanVlanId).getU16 ∈ s.vids then refuse s
      else created (vlanOidOf (attrById attr .vlanVlanId).getU16)
        (s.addVlan (attrById attr .vlanVlanId).getU16) := rfl

theorem listSai_createVlanMember (sw : Oid) (n : ℕ) (attr : List SaiAttribute) (s : ListStore) :
    listSai (.createVlanMember sw n attr) s =
      if h : (vidIn s.vids (newMember s attr).vlan).isSome = true ∧
          s.member (newMember s attr).vlan (newMember s attr).brPort = none then
        created (newMember s attr).oid (s.addMember (newMember s attr) h.1)
      else refuse s := rfl

theorem vlanResp_of_some {o : Oid} {v : UInt16} (h : vidIn s.vids o = some v) (n : ℕ)
    (attr : List SaiAttribute) :
    vlanResp s o n attr = getResp (vlanValue v (s.listed o)) (s.listed o) n attr := by
  rw [vlanResp, h]

theorem vlanResp_of_none {o : Oid} (h : vidIn s.vids o = none) (n : ℕ) (attr : List SaiAttribute) :
    vlanResp s o n attr = SaiResp.bare saiStatusFailure := by
  rw [vlanResp, h]

/-- A VLAN that answers is one of the store. -/
theorem vidIn_of_ok {o : Oid} {n : ℕ} {attr : List SaiAttribute}
    (h : (vlanResp s o n attr).ok = true) : ∃ v, vidIn s.vids o = some v := by
  rcases hv : vidIn s.vids o with _ | v
  · rw [vlanResp_of_none hv] at h
    cases h
  · exact ⟨v, rfl⟩

/-- The VLANs it had keep their identifiers. -/
theorem vidOf_mono_listSai (c : SaiCall) (s : ListStore) {o : Oid} {v : UInt16}
    (h : s.view.vidOf o = some v) : (listSai c s).2.view.vidOf o = some v := by
  rcases hread : c.isRead with _ | _
  swap
  · rw [listSai_read hread]
    exact h
  -- The oids are injective in the ids, so a new VLAN shadows no other.
  have hadd : ∀ v', (s.addVlan v').view.vidOf o = some v := fun v' ↦ by
    refine (congrFun (vidIn_cons v' s.vids) o).trans ?_
    rw [Function.update_apply]
    split
    · obtain ⟨-, ho⟩ := vlanOidOf_of_vidIn h
      rw [vlanOidOf_injective (ho.trans ‹o = vlanOidOf v'›)]
    · exact h
  cases c with
  | createSwitch n attr =>
    rw [listSai_createSwitch]
    split
    · exact hadd 1
    · exact h
  | createVlan sw n attr =>
    rw [listSai_createVlan]
    split
    · exact h
    · exact hadd _
  | createVlanMember sw n attr =>
    rw [listSai_createVlanMember]
    split <;> exact h
  | removeSwitch _ | setBridgePortAttribute _ _ | setPortAttribute _ _ => exact h
  | saiApiQuery _ | saiLogSet _ _ | getSwitchAttribute _ _ _ | setSwitchAttribute _ _
  | getBridgeAttribute _ _ _ | getVlanAttribute _ _ _ | getVlanMemberAttribute _ _ _ => cases hread

/-- A refused call changes nothing. -/
theorem refused_listSai (c : SaiCall) (s : ListStore) (h : (listSai c s).1.ok = false) :
    (listSai c s).2.view = s.view := by
  rcases hread : c.isRead with _ | _
  swap
  · rw [listSai_read hread]
  cases c with
  | createSwitch n attr =>
    rw [listSai_createSwitch] at h ⊢
    split at h
    · cases h
    · rw [if_neg ‹_›]
      rfl
  | createVlan sw n attr =>
    rw [listSai_createVlan] at h ⊢
    split at h
    · rw [if_pos ‹_›]
      rfl
    · cases h
  | createVlanMember sw n attr =>
    rw [listSai_createVlanMember] at h ⊢
    split at h
    · cases h
    · rw [dif_neg ‹_›]
      rfl
  | removeSwitch _ => rfl
  | setBridgePortAttribute _ _ | setPortAttribute _ _ => cases h
  | saiApiQuery _ | saiLogSet _ _ | getSwitchAttribute _ _ _ | setSwitchAttribute _ _
  | getBridgeAttribute _ _ _ | getVlanAttribute _ _ _ | getVlanMemberAttribute _ _ _ => cases hread

/-- The switch comes with the VLAN 1. -/
theorem createSwitch_listSai (n : ℕ) (attr : List SaiAttribute) (s : ListStore)
    (h : (listSai (.createSwitch n attr) s).1.ok = true) :
    ∃ v o, s.view.vidOf o = none ∧
      (listSai (.createSwitch n attr) s).2.view.vlans = Function.update (fun _ ↦ none) v (some o) ∧
      (listSai (.createSwitch n attr) s).2.view.defaultVlan = o := by
  rw [listSai_createSwitch] at h ⊢
  split at h
  · rename_i hnone
    have hfresh : s.view.vidOf (vlanOidOf 1) = none := by
      show vidIn s.vids _ = none
      rw [hnone]
      rfl
    refine ⟨1, vlanOidOf 1, hfresh, ?_, ?_⟩
    · rw [if_pos hnone]
      show (s.addVlan 1).view.vlans = _
      rw [ListStore.view_addVlan hfresh]
      have hempty : s.view.vlans = fun _ ↦ none := funext fun v ↦ by
        rw [ListStore.vlans_view_eq_none, hnone]
        exact List.not_mem_nil
      show Function.update s.view.vlans 1 _ = _
      rw [hempty]
    · rw [if_pos hnone]
      rfl
  · cases h

theorem storeSai_listSai : StoreSai listSai ListStore.view where
  vidOf_mono := vidOf_mono_listSai
  refused := refused_listSai
  read c s hc := by rw [listSai_read hc]
  createSwitch := createSwitch_listSai
  createVlan sw n attr s h := by
    rw [listSai_createVlan] at h ⊢
    split at h
    · cases h
    · rw [if_neg ‹_›]
      refine ⟨ListStore.vlans_view_eq_none.2 ‹_›, ListStore.vidOf_view_of_not_mem ‹_›, ?_⟩
      exact ListStore.view_addVlan _
  createVlanMember sw n attr s h := by
    rw [listSai_createVlanMember] at h ⊢
    split at h
    · rename_i hm
      rw [dif_pos hm]
      exact ⟨ListStore.members_view_eq_none.2 hm.2, _, hm.1, ListStore.view_addMember _ hm.1⟩
    · cases h
  setBridgePortAttribute b a s _ := by
    obtain ⟨up, hup⟩ := s.view.setBrPort_eq b a
    show ListStore.view { s with brPortUp := (s.view.setBrPort b a).brPortUp } = _
    rw [hup]
    rfl
  setPortAttribute p a s _ := by
    obtain ⟨up, pvid, hset⟩ := s.view.setPort_eq p a
    show ListStore.view
      { s with portUp := (s.view.setPort p a).portUp, pvid := (s.view.setPort p a).pvid } = _
    rw [hset]
    rfl
  getVlanId o s h := by
    obtain ⟨v, hv⟩ := vidIn_of_ok h
    show _ = some (attrValue (vlanResp s o 1 vlanIdQuery).attr 0).getU16
    rw [vlanResp_of_some hv]
    exact hv
  getDefaultVlan _ _ _ := rfl

/-- No list it returns is longer than the arrays of the agent. -/
theorem count_le_listSai (c : SaiCall) (s : ListStore) :
    (attrValue (listSai c s).1.attr 0).getCount ≤ OidArray.arrayLen := by
  have hzero : (0 : UInt32) ≤ OidArray.arrayLen := by decide
  have hlisted : ∀ o, UInt32.ofNat (s.listed o).length ≤ OidArray.arrayLen := fun o ↦ by
    have hle := s.length_listed_le o
    rw [UInt32.le_iff_toNat_le, UInt32.toNat_ofNat_of_lt' (by show _ < 2 ^ 32; omega)]
    exact hle
  cases c with
  | createSwitch n attr =>
    rw [listSai_createSwitch]
    split <;> exact hzero
  | createVlan sw n attr =>
    rw [listSai_createVlan]
    split <;> exact hzero
  | createVlanMember sw n attr =>
    rw [listSai_createVlanMember]
    split <;> exact hzero
  | getSwitchAttribute _ n attr =>
    exact count_getResp_le (fun id ↦ by cases id <;> decide) _ n attr
  | getBridgeAttribute _ n attr =>
    exact count_getResp_le (fun id ↦ by cases id <;> decide) _ n attr
  | getVlanAttribute o n attr =>
    show (attrValue (vlanResp s o n attr).attr 0).getCount ≤ _
    rcases hv : vidIn s.vids o with _ | v
    · rw [vlanResp_of_none hv]
      exact hzero
    · rw [vlanResp_of_some hv]
      refine count_getResp_le (fun id ↦ ?_) _ n attr
      cases id with
      | vlanMemberList => exact hlisted o
      | _ => exact hzero
  | getVlanMemberAttribute o n attr =>
    show (attrValue (memberResp s o n attr).attr 0).getCount ≤ _
    rw [memberResp]
    split
    · exact count_getResp_le (fun id ↦ by cases id <;> exact hzero) _ n attr
    · exact hzero
  | saiApiQuery _ | saiLogSet _ _ | setSwitchAttribute _ _ | removeSwitch _
  | setBridgePortAttribute _ _ | setPortAttribute _ _ => exact hzero

/-- It lists members of the VLAN. -/
theorem memberList_listSai (o : Oid) (s : ListStore)
    (h : (listSai (.getVlanAttribute o 1 memberListQuery) s).1.ok = true) :
    (listSai (.getVlanAttribute o 1 memberListQuery) s).1.list.length =
        (attrValue (listSai (.getVlanAttribute o 1 memberListQuery) s).1.attr 0).getCount.toNat ∧
      ∀ m ∈ (listSai (.getVlanAttribute o 1 memberListQuery) s).1.list,
        ∃ b t, s.view.members o b = some (m, t) := by
  obtain ⟨v, hv⟩ := vidIn_of_ok h
  show (vlanResp s o 1 memberListQuery).list.length =
      (attrValue (vlanResp s o 1 memberListQuery).attr 0).getCount.toNat ∧
    ∀ m ∈ (vlanResp s o 1 memberListQuery).list, ∃ b t, s.view.members o b = some (m, t)
  rw [vlanResp_of_some hv]
  refine ⟨?_, fun m hm ↦ ListStore.members_of_mem_listed hm⟩
  show (s.listed o).length = (UInt32.ofNat (s.listed o).length).toNat
  have hle := s.length_listed_le o
  rw [UInt32.toNat_ofNat_of_lt' (by show _ < 2 ^ 32; omega)]

/-- **It refuses what a store cannot do, and nothing else.** -/
theorem exactSai_listSai : ExactSai listSai ListStore.view fun _ ↦ true where
  toStoreSai := storeSai_listSai
  count_le := count_le_listSai
  query_ok _ _ := rfl
  createVlan_ok_iff sw n attr s := by
    rw [listSai_createVlan, ListStore.vlans_view_eq_none]
    split
    · exact iff_of_false nofun fun h ↦ h.2 ‹_›
    · exact iff_of_true rfl ⟨rfl, ‹_›⟩
  createVlanMember_ok_iff sw n attr s := by
    rw [listSai_createVlanMember, ListStore.isVlan_view, ListStore.members_view_eq_none]
    split
    · exact iff_of_true rfl ‹_›
    · exact iff_of_false nofun ‹_›
  setBridgePortAttribute_ok _ _ _ := rfl
  setPortAttribute_ok _ _ _ := rfl
  isVlan_of_get o n attr s h := by
    obtain ⟨v, hv⟩ := vidIn_of_ok h
    rw [ListStore.isVlan_view, hv]
    rfl
  memberList_ok o s h := by
    obtain ⟨v, hv⟩ := Option.isSome_iff_exists.1 (ListStore.isVlan_view.1 h)
    show (vlanResp s o 1 memberListQuery).ok = true
    rw [vlanResp_of_some hv]
    rfl
  memberList := memberList_listSai
  memberQuery_ok m s h := by
    obtain ⟨o, b, t, hm⟩ := h
    obtain ⟨e, he⟩ := ListStore.find_of_members hm
    show (memberResp s m 1 _).ok = true
    rw [memberResp, he]
    rfl
  memberAttribute m n attr s h := by
    show (memberResp s m n attr).attr.drop n = _
    rcases he : s.find m with _ | e
    · have hfail : (memberResp s m n attr).ok = true := h
      rw [memberResp, he] at hfail
      cases hfail
    · rw [memberResp, he]
      rcases n with _ | n
      · have hfail : (memberResp s m 0 attr).ok = true := h
        rw [memberResp, he] at hfail
        cases hfail
      · exact drop_getResp _ _ n attr

end SaiAgent
