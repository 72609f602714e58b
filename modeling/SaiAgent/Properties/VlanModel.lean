import SaiAgent.Properties.PortPairing
import SaiAgent.Properties.Store

/-!
# The port settings without object identifiers

What the three requests that configure a port are for, on a state that knows VLANs by their id only
(`VlanModel`): who is a member of a VLAN, whether the VLAN is cached, which ports are up, the VLAN
ids of the ports. `step` is what a request does to it while SAI refuses just what cannot be done;
`accepts` says which calls it refuses anyway.

Requests for different ports commute (`commutes_iff`) unless both come to create the same VLAN and
there is memory to cache it for one of them only.
-/

namespace SaiAgent

/-! ### A VLAN id -/

/-- What there is under a VLAN id. -/
@[ext]
structure VlanSlot where
  /-- The tagging modes of the members, by bridge port, if the switch has a VLAN with this id. -/
  members : Option (Oid → Option Int32)
  /-- If an object is cached for this id: whether it is that VLAN. -/
  cached : Option Bool

namespace VlanSlot

/-- A VLAN that is neither there nor cached is created, and cached if there is memory. -/
def acquire (creatable mem : Bool) : VlanSlot → VlanSlot
  | ⟨none, none⟩ => if creatable then ⟨some fun _ ↦ none, if mem then some true else none⟩
    else ⟨none, none⟩
  | slot => slot

/-- A bridge port that is no member of the VLAN that is cached becomes one. -/
def join (b : Oid) (mode : Int32) : VlanSlot → Option VlanSlot
  | ⟨some members, some true⟩ =>
    if (members b).isNone then some ⟨some (Function.update members b (some mode)),
      some true⟩ else none
  | _ => none

/-- A bridge port is to become a member: whether it did. -/
def put (creatable mem : Bool) (b : Oid) (mode : Int32) (slot : VlanSlot) : Bool × VlanSlot :=
  match (slot.acquire creatable mem).join b mode with
  | some slot' => (true, slot')
  | none => (false, slot.acquire creatable mem)

variable {creatable mem mem₁ mem₂ : Bool} {b b₁ b₂ : Oid} {mode mode₁ mode₂ : Int32}
    {slot : VlanSlot}

theorem put_cached (members : Oid → Option Int32) :
    put creatable mem b mode ⟨some members, some true⟩ =
      if (members b).isNone then (true, ⟨some (Function.update members b (some mode)), some true⟩)
      else (false, ⟨some members, some true⟩) := by
  rcases h : (members b).isNone with _ | _ <;> simp [put, acquire, join, h]

theorem put_stale (members : Option (Oid → Option Int32)) :
    put creatable mem b mode ⟨members, some false⟩ = (false, ⟨members, some false⟩) := by
  rcases members with _ | _ <;> rfl

theorem put_gone : put creatable mem b mode ⟨none, some true⟩ = (false, ⟨none, some true⟩) := rfl

theorem put_uncached (members : Oid → Option Int32) :
    put creatable mem b mode ⟨some members, none⟩ = (false, ⟨some members, none⟩) := rfl

theorem put_refused : put false mem b mode ⟨none, none⟩ = (false, ⟨none, none⟩) := rfl

theorem put_created : put true true b mode ⟨none, none⟩ =
    (true, ⟨some (Function.update (fun _ ↦ none) b (some mode)), some true⟩) := rfl

theorem put_orphaned : put true false b mode ⟨none, none⟩ = (false, ⟨some fun _ ↦ none, none⟩) :=
  rfl

/-- Two bridge ports become members of one VLAN in either order, unless they come to create it and
only one of them finds memory. -/
theorem put_put_iff (hb : b₁ ≠ b₂) :
    ((slot.put creatable mem₁ b₁ mode₁).2.put creatable mem₂ b₂ mode₂).2 =
        ((slot.put creatable mem₂ b₂ mode₂).2.put creatable mem₁ b₁ mode₁).2 ↔
      ¬(slot = ⟨none, none⟩ ∧ creatable = true ∧ mem₁ ≠ mem₂) := by
  rcases slot with ⟨_ | members, _ | _ | _⟩
  · rcases creatable with _ | _
    · simp [put_refused]
    · rcases mem₁ with _ | _ <;> rcases mem₂ with _ | _ <;>
        simp [put_created, put_orphaned, put_cached, put_uncached, hb, hb.symm,
          Function.update_comm hb]
  · simp [put_stale]
  · simp [put_gone]
  · simp [put_uncached]
  · simp [put_stale]
  · rcases h₁ : members b₁ with _ | _ <;> rcases h₂ : members b₂ with _ | _ <;>
      simp [put_cached, h₁, h₂, hb, hb.symm, Function.update_comm hb]

/-- And each of them fares as it would without the other. -/
theorem put_put_fst (hb : b₁ ≠ b₂) (h : ¬(slot = ⟨none, none⟩ ∧ creatable = true ∧ mem₁ ≠ mem₂)) :
    ((slot.put creatable mem₁ b₁ mode₁).2.put creatable mem₂ b₂ mode₂).1 =
      (slot.put creatable mem₂ b₂ mode₂).1 := by
  rcases slot with ⟨_ | members, _ | _ | _⟩
  · rcases creatable with _ | _
    · simp [put_refused]
    · obtain rfl : mem₁ = mem₂ := by simpa using h
      rcases mem₁ with _ | _ <;> simp [put_created, put_orphaned, put_cached, put_uncached, hb.symm]
  · simp [put_stale]
  · simp [put_gone]
  · simp [put_uncached]
  · simp [put_stale]
  · rcases h₁ : members b₁ with _ | _ <;> rcases h₂ : members b₂ with _ | _ <;>
      simp [put_cached, h₁, h₂, hb.symm]

end VlanSlot

/-! ### Settings -/

/-- The settings of the ports. -/
@[ext]
structure VlanModel where
  slots : UInt16 → VlanSlot
  brPortUp : Oid → Bool
  portUp : Oid → Bool
  pvid : Oid → Option UInt16

/-- What a request asks for, with the objects of its port. -/
inductive PortSetting where
  /-- VLAN_PORT_SET; `mem` says whether there is memory for a new cache entry. -/
  | vlanPortSet (vid : UInt16) (brPort : Oid) (mode : Int32) (mem : Bool)
  /-- VLAN_PVID_SET. -/
  | vlanPvidSet (port : Oid) (vid : UInt16)
  /-- PORT_ATTR_SET of the PHY mode. -/
  | phyModeSet (port : Oid) (up : Bool)
  deriving DecidableEq

/-- The call that creates a VLAN. -/
def createVlanCall (switchOid : Oid) (vid : UInt16) : SaiCall :=
  .createVlan switchOid 1 [⟨.vlanVlanId, .u16 vid⟩]

/-- The call that sets a port's VLAN id. -/
def pvidCall (port : Oid) (vid : UInt16) : SaiCall :=
  .setPortAttribute port ⟨.portPortVlanId, .u16 vid⟩

/-- The call that sets a port's admin state. -/
def adminCall (port : Oid) (up : Bool) : SaiCall :=
  .setPortAttribute port ⟨.portAdminState, .booldata up⟩

namespace VlanModel

variable (accepts : SaiCall → Bool) (switchOid : Oid) (x : VlanModel)

/-- What a request does: whether it is answered with success, and what it leaves. -/
def step : PortSetting → Bool × VlanModel
  | .vlanPortSet vid b mode mem =>
    if accepts (.saiApiQuery .vlan) && accepts (.saiApiQuery .bridge) then
      let r := (x.slots vid).put (accepts (createVlanCall switchOid vid)) mem b mode
      let ok := r.1 && accepts (enableCall b)
      (ok, { x with
        slots := Function.update x.slots vid r.2
        brPortUp := if ok then Function.update x.brPortUp b true else x.brPortUp })
    else
      (false, x)
  | .vlanPvidSet p vid =>
    let ok := accepts (.saiApiQuery .port) && accepts (pvidCall p vid)
    (ok, { x with pvid := if ok then Function.update x.pvid p (some vid) else x.pvid })
  | .phyModeSet p up =>
    let ok := accepts (.saiApiQuery .port) && accepts (adminCall p up)
    (ok, { x with portUp := if ok then Function.update x.portUp p up else x.portUp })

/-- Requests of different ports. -/
def Apart : PortSetting → PortSetting → Prop
  | .vlanPortSet _ b₁ _ _, .vlanPortSet _ b₂ _ _ => b₁ ≠ b₂
  | .vlanPvidSet p₁ _, .vlanPvidSet p₂ _ => p₁ ≠ p₂
  | .phyModeSet p₁ _, .phyModeSet p₂ _ => p₁ ≠ p₂
  | _, _ => True

/-- In either order, each request is answered alike, and the end is the same. -/
structure Commutes (r₁ r₂ : PortSetting) : Prop where
  first : (x.step accepts switchOid r₁).1 =
    ((x.step accepts switchOid r₂).2.step accepts switchOid r₁).1
  second : ((x.step accepts switchOid r₁).2.step accepts switchOid r₂).1 =
    (x.step accepts switchOid r₂).1
  final : ((x.step accepts switchOid r₁).2.step accepts switchOid r₂).2 =
    ((x.step accepts switchOid r₂).2.step accepts switchOid r₁).2

/-- Both requests come to create the same VLAN, and one of them finds no memory to cache it. -/
def Contended : PortSetting → PortSetting → Prop
  | .vlanPortSet v₁ _ _ mem₁, .vlanPortSet v₂ _ _ mem₂ =>
    v₁ = v₂ ∧ (accepts (.saiApiQuery .vlan) && accepts (.saiApiQuery .bridge)) = true ∧
      x.slots v₁ = ⟨none, none⟩ ∧ accepts (createVlanCall switchOid v₁) = true ∧ mem₁ ≠ mem₂
  | _, _ => False

variable {accepts switchOid x}

/-- Two values may be replaced, each of them on a condition of its own, in either order. -/
theorem update_ite_comm {α β : Type} [DecidableEq α] {a b : α} (h : a ≠ b) (ok₁ ok₂ : Bool)
    (f : α → β) (u v : β) :
    (if ok₂ then Function.update (if ok₁ then Function.update f a u else f) b v
      else if ok₁ then Function.update f a u else f) =
    if ok₁ then Function.update (if ok₂ then Function.update f b v else f) a u
      else if ok₂ then Function.update f b v else f := by
  rcases ok₁ with _ | _ <;> rcases ok₂ with _ | _ <;> simp [Function.update_comm h]

theorem Commutes.symm {r₁ r₂ : PortSetting} (h : x.Commutes accepts switchOid r₁ r₂) :
    x.Commutes accepts switchOid r₂ r₁ :=
  ⟨h.second.symm, h.first.symm, h.final.symm⟩

variable {v v₁ v₂ : UInt16} {b₁ b₂ : Oid} {mode₁ mode₂ : Int32} {mem₁ mem₂ : Bool}

/-- A member and a port's VLAN id. -/
theorem commutes_pvid {p : Oid} {v' : UInt16} :
    x.Commutes accepts switchOid (.vlanPortSet v b₁ mode₁ mem₁) (.vlanPvidSet p v') := by
  rcases hq : (accepts (.saiApiQuery .vlan) && accepts (.saiApiQuery .bridge)) with _ | _ <;>
    constructor <;> simp [step, hq]

/-- A member and a port's admin state. -/
theorem commutes_phyMode {p : Oid} {up : Bool} :
    x.Commutes accepts switchOid (.vlanPortSet v b₁ mode₁ mem₁) (.phyModeSet p up) := by
  rcases hq : (accepts (.saiApiQuery .vlan) && accepts (.saiApiQuery .bridge)) with _ | _ <;>
    constructor <;> simp [step, hq]

/-- Settings of different VLANs. -/
theorem commutes_of_ne (hv : v₁ ≠ v₂) (hb : b₁ ≠ b₂) :
    x.Commutes accepts switchOid (.vlanPortSet v₁ b₁ mode₁ mem₁)
        (.vlanPortSet v₂ b₂ mode₂ mem₂) := by
  rcases hq : (accepts (.saiApiQuery .vlan) && accepts (.saiApiQuery .bridge)) with _ | _
  · constructor <;> simp [step, hq]
  · refine ⟨?_, ?_, ?_⟩
    · simp [step, hq, hv]
    · simp [step, hq, hv.symm]
    · simp only [step, hq, if_true, Function.update_of_ne hv, Function.update_of_ne hv.symm,
        update_ite_comm hb, Function.update_comm hv]

/-- Settings of one VLAN. -/
theorem commutes_iff_of_eq (hb : b₁ ≠ b₂) :
    x.Commutes accepts switchOid (.vlanPortSet v b₁ mode₁ mem₁) (.vlanPortSet v b₂ mode₂ mem₂) ↔
      ¬x.Contended accepts switchOid (.vlanPortSet v b₁ mode₁ mem₁)
          (.vlanPortSet v b₂ mode₂ mem₂) := by
  rcases hq : (accepts (.saiApiQuery .vlan) && accepts (.saiApiQuery .bridge)) with _ | _
  · -- Refused at the queries, neither command does anything.
    refine iff_of_true (by constructor <;> simp [step, hq]) ?_
    simp [Contended, hq]
  have hcontended : x.Contended accepts switchOid (.vlanPortSet v b₁ mode₁ mem₁)
      (.vlanPortSet v b₂ mode₂ mem₂) ↔ x.slots v = ⟨none, none⟩ ∧
        accepts (createVlanCall switchOid v) = true ∧ mem₁ ≠ mem₂ := by
    simp [Contended, hq]
  rw [hcontended]
  constructor
  · -- The ends differ in what there is under the id.
    intro h
    have hslot := congrFun (congrArg slots h.final) v
    simp only [step, hq, if_true, Function.update_self] at hslot
    exact (VlanSlot.put_put_iff hb).1 hslot
  · intro h
    have hsecond := @VlanSlot.put_put_fst _ _ _ _ _ mode₁ mode₂ _ hb h
    have hfirst := @VlanSlot.put_put_fst _ _ _ _ _ mode₂ mode₁ _ hb.symm
      fun hc ↦ h ⟨hc.1, hc.2.1, hc.2.2.symm⟩
    have hfinal := (@VlanSlot.put_put_iff _ _ _ _ _ mode₁ mode₂ _ hb).2 h
    refine ⟨?_, ?_, ?_⟩
    · simp only [step, hq, if_true, Function.update_self, hfirst]
    · simp only [step, hq, if_true, Function.update_self, hsecond]
    · simp only [step, hq, if_true, Function.update_self, hfirst, hsecond, hfinal,
        Function.update_idem, update_ite_comm hb]

/-- **Settings of different ports commute** exactly when they do not come to create one VLAN with
memory for one of them only. -/
theorem commutes_iff {r₁ r₂ : PortSetting} (h : Apart r₁ r₂) :
    x.Commutes accepts switchOid r₁ r₂ ↔ ¬x.Contended accepts switchOid r₁ r₂ := by
  rcases r₁ with ⟨v₁, b₁, mode₁, mem₁⟩ | ⟨p₁, v₁⟩ | ⟨p₁, up₁⟩ <;>
    rcases r₂ with ⟨v₂, b₂, mode₂, mem₂⟩ | ⟨p₂, v₂⟩ | ⟨p₂, up₂⟩
  · by_cases hv : v₁ = v₂
    · subst hv
      exact commutes_iff_of_eq h
    · exact iff_of_true (commutes_of_ne hv h) fun hc ↦ hv hc.1
  all_goals refine iff_of_true ?_ id
  · exact commutes_pvid
  · exact commutes_phyMode
  · exact commutes_pvid.symm
  · exact ⟨rfl, rfl, by simp only [step, update_ite_comm (show p₁ ≠ p₂ from h)]⟩
  · exact ⟨rfl, rfl, rfl⟩
  · exact commutes_phyMode.symm
  · exact ⟨rfl, rfl, rfl⟩
  · exact ⟨rfl, rfl, by simp only [step, update_ite_comm (show p₁ ≠ p₂ from h)]⟩

end VlanModel

end SaiAgent
