import SaiAgent.Properties.PortPairing

/-!
# The room of the list queries

Three calls ask SAI for a list: the ports of the switch, the bridge ports of its bridge and the
members of a VLAN. By SAI's convention (`ListConvention`) the count of the attribute is the room
behind the list on the way in and the length of the list on the way out, also where the list does
not fit and the call is refused. `SAI_RET_ERR` makes a refused call once more, with that length in
place of the room. So `sai_switch_init` and `sai_vlan_add_port_member` keep to their arrays exactly
when every list they come to ask for has at most 64 entries (`keepsToRoom_iff`); which lists these
are is read off the operation's plan (`FitsArrays`).
-/

namespace SaiAgent

open Effects Effects.Proc Effects.Plan

variable {σ : Type} {E : SaiBackend σ} {rt : Runtime} {w : World σ}

/-! ### The convention -/

/-- The lists the agent asks for. -/
inductive SaiList where
  | ports (switchOid : Oid)
  | bridgePorts (bridgeOid : Oid)
  | vlanMembers (vlanOid : Oid)
  deriving DecidableEq, Repr

/-- The attribute a list is the value of. -/
def SaiList.attrId : SaiList → SaiAttrId
  | .ports _ => .switchPortList
  | .bridgePorts _ => .bridgePortList
  | .vlanMembers _ => .vlanMemberList

namespace SaiCall

/-- The calls to `get_switch_attribute`, `get_bridge_attribute` and `get_vlan_attribute`. -/
def isGet : SaiCall → Bool
  | .getSwitchAttribute _ _ _ => true
  | .getBridgeAttribute _ _ _ => true
  | .getVlanAttribute _ _ _ => true
  | _ => false

/-- The count such a call passes in its first attribute. -/
def room : SaiCall → UInt32
  | .getSwitchAttribute _ _ attr => (attrValue attr 0).getCount
  | .getBridgeAttribute _ _ attr => (attrValue attr 0).getCount
  | .getVlanAttribute _ _ attr => (attrValue attr 0).getCount
  | _ => 0

/-- The list a call asks for. -/
def listed : SaiCall → Option SaiList
  | .getSwitchAttribute o (_ + 1) (⟨.switchPortList, .objlist _⟩ :: _) => some (.ports o)
  | .getBridgeAttribute o (_ + 1) (⟨.bridgePortList, .objlist _⟩ :: _) => some (.bridgePorts o)
  | .getVlanAttribute o (_ + 1) (⟨.vlanMemberList, .objlist _⟩ :: _) => some (.vlanMembers o)
  | _ => none

end SaiCall

/-- SAI's list convention, for lists of these lengths: a count that is too small is refused, any
other is not; either way the length of the list is stored in the count, and a call that succeeds
stores that many entries. -/
structure ListConvention (E : SaiBackend σ) (len : σ → SaiList → UInt32) : Prop where
  ok_iff : ∀ c s l, c.listed = some l → ((E c s).1.ok = true ↔ len s l ≤ c.room)
  stores : ∀ c s l, c.listed = some l →
    (E c s).1.attr.head? = some ⟨l.attrId, .objlist (len s l)⟩
  fills : ∀ c s l, c.listed = some l → (E c s).1.ok = true →
    (E c s).1.list.length = (len s l).toNat

/-- What SAI stored is the room of the same query made once more. -/
theorem ListConvention.room_retried {len : σ → SaiList → UInt32} (hE : ListConvention E len)
    {c c' : SaiCall} {s : σ} {l : SaiList} (hl : c.listed = some l)
    (hc : retried c (E c s).1 = some c') : c'.room = len s l := by
  have hcount : (attrValue (E c s).1.attr 0).getCount = len s l := by
    have hhead := hE.stores c s l hl
    rw [List.head?_eq_getElem?] at hhead
    rw [attrValue, hhead]
    rfl
  rw [← hcount]
  cases c with
  | getSwitchAttribute o n attr | getBridgeAttribute o n attr | getVlanAttribute o n attr =>
    obtain rfl := Option.some.inj hc
    rfl
  | _ => cases hl

/-! ### The operations -/

/-- The two operations that ask for lists. -/
inductive ListOp where
  | switchInit
  | vlanAddPortMember (vlanId : UInt16) (portId : UInt32) (tag : Bool)

namespace ListOp

/-- The function of the C code. -/
def run (E : SaiBackend σ) (rt : Runtime) : ListOp → AgentM σ SaiStatus
  | switchInit => saiSwitchInit E rt
  | vlanAddPortMember vlanId portId tag => saiVlanAddPortMember E rt vlanId portId tag

/-- The calls it means to make. -/
def plan (rt : Runtime) (a : Agent) : ListOp → SaiPlan
  | switchInit => switchPlan rt a fun _ ↦ .done .complete
  | vlanAddPortMember vlanId portId tag => vlanPortPlan a rt vlanId portId tag

/-- Nothing but a list keeps the operation from returning: there is memory for the hardware
information, and the port number of the request is an index of `br_port_list`. -/
def Sane (rt : Runtime) : ListOp → Prop
  | switchInit => rt.hwInfoMalloc = true
  | vlanAddPortMember _ portId _ => portId < 64

theorem executes (op : ListOp) (E : SaiBackend σ) (rt : Runtime) (w : World σ) :
    ExecutesStatus Overruns E (op.run E rt) w (op.plan rt w.state) := by
  cases op with
  | switchInit => exact executes_saiSwitchInit
  | vlanAddPortMember vlanId portId tag => exact executes_vlanAddPortMember vlanId portId tag

end ListOp

/-- A query is for a list, and it announces the array's own length. -/
def AnnouncesArray (c : SaiCall) : Prop :=
  c.isGet = true → (∃ l, c.listed = some l) ∧ c.room = OidArray.arrayLen

/-- **What the operations mean to pass** is the length of the array. -/
theorem ListOp.makes_plan (op : ListOp) (a : Agent) : (op.plan rt a).Makes AnnouncesArray := by
  cases op with
  | switchInit =>
    refine ⟨nofun, fun _ ↦ ⟨nofun, fun _ ↦ ?_⟩⟩
    unfold createPlan
    split
    · refine ⟨nofun, fun r ↦ ⟨fun _ ↦ ⟨⟨_, rfl⟩, rfl⟩, fun r' ↦ ?_⟩⟩
      dsimp only
      split
      · trivial
      split
      · trivial
      exact ⟨fun _ ↦ ⟨⟨_, rfl⟩, rfl⟩, fun _ ↦ ⟨nofun, fun _ ↦ trivial⟩⟩
    · trivial
  | vlanAddPortMember vlanId portId tag =>
    exact makes_vlanPortPlan_of (fun _ ↦ nofun) (fun _ ↦ nofun) (fun _ _ ↦ ⟨⟨_, rfl⟩, rfl⟩)
      (fun _ ↦ nofun) (fun _ _ _ _ _ ↦ nofun) fun _ _ _ ↦ nofun

/-- A list the call asks for has at most as many entries as an array. -/
def ListFits (len : σ → SaiList → UInt32) (c : SaiCall) (s : σ) : Prop :=
  ∀ l, c.listed = some l → len s l ≤ OidArray.arrayLen

/-- **Every list the operation comes to ask for fits.** Each length is the one the list has where
the operation asks for it first. -/
def ListOp.FitsArrays (E : SaiBackend σ) (len : σ → SaiList → UInt32) (rt : Runtime) (w : World σ)
    (op : ListOp) : Prop :=
  (op.plan rt w.state).Meets SaiResp.ok (ListFits len) E w.env

/-- The calls a run of the function makes. -/
def callsOf {α : Type} (p : AgentM σ α) (w : World σ) : List (SaiCall × SaiResp) :=
  (worldOf (EStateM.run p w)).trace.drop w.trace.length

/-- The operation keeps to its arrays: no query announces more room than there is; where a list does
not fit, the operation returns failure; the number of ports stays within the array, and no entry
from outside an array is written or read, so the operation returns. -/
structure ListOp.KeepsToRoom (E : SaiBackend σ) (len : σ → SaiList → UInt32) (rt : Runtime)
    (w : World σ) (op : ListOp) : Prop where
  room_le : ∀ e ∈ callsOf (op.run E rt) w, e.1.room ≤ OidArray.arrayLen
  fails : ¬op.FitsArrays E len rt w →
    ∃ status w', EStateM.run (op.run E rt) w = .ok status w' ∧ status ≠ saiStatusSuccess
  numPorts_le : w.state.swInfo.numPorts ≤ 64 →
    (worldOf (EStateM.run (op.run E rt) w)).state.swInfo.numPorts ≤ 64
  returns : op.Sane rt → ∃ status w', EStateM.run (op.run E rt) w = .ok status w'

/-! ### Only a repetition breaks it -/

section Convention

variable {len : σ → SaiList → UInt32}

/-- The calls that are no queries announce nothing. -/
theorem room_of_not_get {c : SaiCall} (h : c.isGet = false) : c.room = 0 ∧ c.listed = none := by
  cases c with
  | getSwitchAttribute _ _ _ | getBridgeAttribute _ _ _ | getVlanAttribute _ _ _ => cases h
  | _ => exact ⟨rfl, rfl⟩

/-- Nor do their repetitions. -/
theorem isGet_retried {c c' : SaiCall} {r : SaiResp} (h : retried c r = some c') :
    c'.isGet = c.isGet := by
  cases c <;> cases h <;> rfl

/-- A query that is not made once more was not refused, so its list fits. -/
theorem listFits_of_settled (hE : ListConvention E len) (c : SaiCall) (s : σ)
    (hc : AnnouncesArray c) (hlast : (E c s).1.ok = false → retried c (E c s).1 = none) :
    ListFits len c s := by
  intro l hl
  rcases hget : c.isGet with _ | _
  · cases (room_of_not_get hget).2.symm.trans hl
  rw [← (hc hget).2, ← hE.ok_iff c s l hl]
  by_contra hbad
  have hnone := hlast (Bool.not_eq_true _ ▸ hbad)
  cases c with
  | getSwitchAttribute _ _ _ | getBridgeAttribute _ _ _ | getVlanAttribute _ _ _ => cases hnone
  | _ => cases hget

/-- **The rooms of a run** stay within the array exactly when every list fits. -/
theorem ListOp.room_le_iff (hE : ListConvention E len) (op : ListOp) (w : World σ) :
    (∀ e ∈ callsOf (op.run E rt) w, e.1.room ≤ OidArray.arrayLen) ↔ op.FitsArrays E len rt w := by
  have hzero : (0 : UInt32) ≤ OidArray.arrayLen := by decide
  rw [callsOf, (op.executes E rt w).trace, List.drop_left]
  refine (op.makes_plan w.state).forall_trace_iff (P := fun c ↦ c.room ≤ OidArray.arrayLen)
    (fun c hc ↦ ?_) (listFits_of_settled hE) (fun c s c' hc _ hagain ↦ ?_) w.env
  · rcases hget : c.isGet with _ | _
    · rw [(room_of_not_get hget).1]
      exact hzero
    · rw [(hc hget).2]
      exact UInt32.le_refl _
  · rcases hget : c.isGet with _ | _
    · rw [(room_of_not_get ((isGet_retried hagain).trans hget)).1]
      refine iff_of_true hzero fun l hl ↦ ?_
      cases (room_of_not_get hget).2.symm.trans hl
    · -- The repetition announces the length the refusal stored.
      obtain ⟨⟨l, hl⟩, -⟩ := hc hget
      rw [hE.room_retried hl hagain]
      refine ⟨fun h l' hl' ↦ ?_, fun h ↦ h l hl⟩
      obtain rfl := Option.some.inj (hl.symm.trans hl')
      exact h

/-! ### What the operations leave where every list fits -/

/-- Where the lists fit, no repetition overruns an array. -/
theorem ListOp.not_overruns (hE : ListConvention E len) {op : ListOp}
    (h : op.FitsArrays E len rt w) {c' : SaiCall} {r' : SaiResp}
    (hout : ((op.plan rt w.state).exec SaiResp.ok retried E w.env).outcome = .repeated c' r') :
    ¬Overruns c' r' := by
  obtain ⟨c, s, hc, hfits, hbad, hagain⟩ := (op.makes_plan w.state).exists_of_repeated h hout
  have hget : c.isGet = false := by
    by_contra hne
    obtain ⟨⟨l, hl⟩, hroom⟩ := hc (Bool.not_eq_false _ ▸ hne)
    have hok := (hE.ok_iff c s l hl).2 (by rw [hroom]; exact hfits l hl)
    exact absurd (hbad.symm.trans hok) (by decide)
  have hget' := (isGet_retried hagain).trans hget
  cases c' with
  | getSwitchAttribute _ _ _ | getBridgeAttribute _ _ _ | getVlanAttribute _ _ _ => cases hget'
  | _ => exact id

variable {again : SaiCall → SaiResp → Option SaiCall}

/-- The scan stays in the array while its length does; the induction is over the entries left. -/
theorem scanPlan_ne_stuck {vlanOid brPortOid : Oid} {members : OidArray} {found : Oid → SaiPlan}
    (h : ∀ o s, ((found o).exec SaiResp.ok again E s).outcome ≠ .finished .stuck) :
    ∀ n i s, n + i ≤ 64 → ((scanPlan vlanOid brPortOid members found n i).exec SaiResp.ok again E
      s).outcome ≠ .finished .stuck := by
  intro n
  induction n with
  | zero => exact fun _ s _ ↦ h _ s
  | succ n ih =>
    intro i s hle hstuck
    rw [scanPlan, members.get_of_lt (by omega)] at hstuck
    obtain ⟨-, hstuck⟩ := exec_call_eq_finished_iff.1 hstuck
    split at hstuck
    · exact h _ _ hstuck
    · exact ih (i + 1) _ (by omega) hstuck

theorem ensurePlan_ne_stuck {switchOid vlanOid brPortOid : Oid} {tag : Bool} (o : Oid) (s : σ) :
    ((ensurePlan switchOid vlanOid brPortOid tag o).exec SaiResp.ok again E s).outcome ≠
      .finished .stuck := by
  intro hstuck
  unfold ensurePlan at hstuck
  split at hstuck
  · obtain ⟨-, hstuck⟩ := exec_call_eq_finished_iff.1 hstuck
    cases hstuck
  · obtain ⟨-, hstuck⟩ := exec_call_eq_finished_iff.1 hstuck
    obtain ⟨-, hstuck⟩ := exec_call_eq_finished_iff.1 hstuck
    cases hstuck

/-- A member list that was handed out is no longer than the array it was asked for. -/
theorem memberListPlan_ne_stuck (hE : ListConvention E len) {vlanOid brPortOid : Oid}
    {found : Oid → SaiPlan}
    (h : ∀ o s, ((found o).exec SaiResp.ok again E s).outcome ≠ .finished .stuck) (s : σ) :
    ((memberListPlan rt vlanOid fun members n ↦ scanPlan vlanOid brPortOid members found n
      0).exec SaiResp.ok again E s).outcome ≠ .finished .stuck := by
  intro hstuck
  obtain ⟨hok, hstuck⟩ := exec_call_eq_finished_iff.1 hstuck
  obtain ⟨members, hmembers, -⟩ := rt.vlanMemberList.store_arrayLen
    (E (.getVlanAttribute vlanOid 1 [⟨.vlanMemberList, .objlist OidArray.arrayLen⟩]) s).1.list
  have hle := (hE.ok_iff _ s (.vlanMembers vlanOid) rfl).1 hok
  rw [← hE.room_retried (c := .getVlanAttribute vlanOid 1
    [⟨.vlanMemberList, .objlist OidArray.arrayLen⟩]) rfl rfl] at hle
  simp only [hmembers] at hstuck
  exact scanPlan_ne_stuck h _ 0 _ (UInt32.le_iff_toNat_le.1 hle) hstuck

/-- A sane operation does not get stuck for a reason of its own. -/
theorem ListOp.plan_ne_stuck (hE : ListConvention E len) {op : ListOp} (h : op.Sane rt) (a : Agent)
    (s : σ) : ((op.plan rt a).exec SaiResp.ok retried E s).outcome ≠ .finished .stuck := by
  intro hstuck
  -- Both plans get stuck only for want of memory or at a port number, which are excluded.
  cases op with
  | switchInit =>
    obtain ⟨-, hstuck⟩ := exec_call_eq_finished_iff.1 hstuck
    obtain ⟨-, hstuck⟩ := exec_call_eq_finished_iff.1 hstuck
    rw [createPlan, if_pos (show rt.hwInfoMalloc = true from h)] at hstuck
    obtain ⟨-, hstuck⟩ := exec_call_eq_finished_iff.1 hstuck
    obtain ⟨c, r, hout, -⟩ | ⟨v, hout, hv⟩ := queryPlan_outcome E _ _
    · cases hout.symm.trans hstuck
    · obtain rfl := Outcome.finished.inj (hout.symm.trans hstuck)
      exact hv rfl
  | vlanAddPortMember vlanId portId tag =>
    obtain ⟨-, hstuck⟩ := exec_call_eq_finished_iff.1 hstuck
    obtain ⟨-, hstuck⟩ := exec_call_eq_finished_iff.1 hstuck
    rw [withPort, a.swInfo.brPortList.get_of_lt (UInt32.lt_iff_toNat_lt.1 h)] at hstuck
    dsimp only at hstuck
    split at hstuck
    · cases hstuck
    unfold vlanPlan at hstuck
    split at hstuck
    · exact memberListPlan_ne_stuck hE ensurePlan_ne_stuck _ hstuck
    · obtain ⟨-, hstuck⟩ := exec_call_eq_finished_iff.1 hstuck
      split at hstuck
      · exact memberListPlan_ne_stuck hE ensurePlan_ne_stuck _ hstuck
      · cases hstuck

/-- **Where every list fits, the operation returns.** -/
theorem ListOp.returns_of_fits (hE : ListConvention E len) {op : ListOp}
    (h : op.FitsArrays E len rt w) (hsane : op.Sane rt) :
    ∃ status w', EStateM.run (op.run E rt) w = .ok status w' := by
  have hvalue := (op.executes E rt w).value
  rcases hrun : EStateM.run (op.run E rt) w with ⟨status, w'⟩ | ⟨e, w'⟩
  · exact ⟨status, w', rfl⟩
  · rw [hrun] at hvalue
    rcases hout : ((op.plan rt w.state).exec SaiResp.ok retried E w.env).outcome with v | _ | ⟨c, r⟩
    · rw [hout] at hvalue
      cases v with
      | stuck => exact absurd hout (ListOp.plan_ne_stuck hE hsane w.state w.env)
      | complete | failed => cases hvalue
    · rw [hout] at hvalue
      cases hvalue
    · rw [hout] at hvalue
      exact absurd hvalue (ListOp.not_overruns hE h hout)

/-! ### The number of ports -/

/-- `sai_switch_init` notes a number of ports within the array, if it notes one. -/
theorem numPorts_saiBridgeQuery {switchOid : Oid} {attr : List SaiAttribute}
    (hcount : (attrValue attr 0).getCount ≤ OidArray.arrayLen) :
    Preserves (fun w : World σ ↦ w.state.swInfo.numPorts ≤ 64)
      (saiBridgeQuery E switchOid attr) := by
  refine Preserves.ite (Preserves.pure _) (Preserves.ite (Preserves.pure _)
    (Preserves.bind (Preserves.change fun w _ ↦ ?_) fun _ ↦ Keeps.preserves ?_ (· ≤ 64)))
  · show (attrValue attr 0).getCount.toUInt64 ≤ 64
    rw [UInt64.le_iff_toNat_le, UInt32.toNat_toUInt64]
    exact UInt32.le_iff_toNat_le.1 hcount
  · exact keeps_saiRetErr (keeps_listCall (fun _ ↦ Keeps.ask fun _ ↦ rfl) fun _ _ ↦ rfl) fun _ ↦
      keeps_saiRetErr (keeps_plainCall (Keeps.ask fun _ ↦ rfl)) fun _ ↦ Keeps.pure _

/-- The ports are counted where the query was answered, and then they fit. -/
theorem numPorts_saiSwitchQuery (hE : ListConvention E len) :
    Preserves (fun w : World σ ↦ w.state.swInfo.numPorts ≤ 64) (saiSwitchQuery E) := by
  intro w hw
  rcases hok : (E (.getSwitchAttribute w.state.swInfo.switchOid 3 switchQueryAttr) w.env).1.ok
    with _ | _
  · have hkeep := worldOf_saiSwitchQuery_of_refused
      (f := fun w : World σ ↦ w.state.swInfo.numPorts) (fun _ _ _ ↦ rfl) (fun _ _ ↦ rfl) hok
    exact hkeep.symm ▸ hw
  · obtain ⟨portList, hrun, -⟩ := run_saiSwitchQuery_of_ok hok
    have hle := (hE.ok_iff _ w.env (.ports w.state.swInfo.switchOid) rfl).1 hok
    rw [← hE.room_retried (c := .getSwitchAttribute w.state.swInfo.switchOid 3 switchQueryAttr) rfl
      rfl] at hle
    rw [hrun]
    exact numPorts_saiBridgeQuery hle _ hw

theorem numPorts_createSwitch (hE : ListConvention E len) :
    Preserves (fun w : World σ ↦ w.state.swInfo.numPorts ≤ 64) (createSwitch E rt) := by
  unfold createSwitch
  refine Preserves.ite (Preserves.bind ?_ fun r ↦ Preserves.bind ?_ fun _ ↦
    Preserves.ite (Preserves.pure _) (numPorts_saiSwitchQuery hE)) (Preserves.fault _)
  · exact fun _ hw ↦ hw
  · exact fun _ hw ↦ hw

theorem numPorts_saiSwitchInit (hE : ListConvention E len) :
    Preserves (fun w : World σ ↦ w.state.swInfo.numPorts ≤ 64) (saiSwitchInit E rt) := by
  have hquery : ∀ api, Keeps (fun w : World σ ↦ w.state.swInfo.numPorts)
      (plainCall E (.saiApiQuery api) ()) := fun api ↦
    keeps_plainCall (Keeps.ask fun _ ↦ rfl) ()
  unfold saiSwitchInit
  refine preserves_saiRetErr (fun u ↦ (hquery .switch).preserves (· ≤ 64)) fun _ ↦ ?_
  refine preserves_saiRetErr (fun u ↦ (hquery .bridge).preserves (· ≤ 64)) fun _ ↦ ?_
  exact numPorts_createSwitch hE

/-- **The number of ports** stays within the array, whatever the lists are. -/
theorem ListOp.preserves_numPorts (hE : ListConvention E len) (op : ListOp) :
    Preserves (fun w : World σ ↦ w.state.swInfo.numPorts ≤ 64) (op.run E rt) := by
  cases op with
  | switchInit => exact numPorts_saiSwitchInit hE
  | vlanAddPortMember vlanId portId tag =>
    exact (keeps_saiVlanAddPortMember (f := fun w : World σ ↦ w.state.swInfo.numPorts)
      (fun _ _ _ ↦ rfl) (fun _ _ ↦ rfl) vlanId portId tag).preserves (· ≤ 64)

/-- **Which operations keep to their arrays**: those whose lists fit. -/
theorem ListOp.keepsToRoom_iff (hE : ListConvention E len) (op : ListOp) (w : World σ) :
    op.KeepsToRoom E len rt w ↔ op.FitsArrays E len rt w := by
  refine ⟨fun h ↦ (op.room_le_iff hE w).1 h.room_le, fun h ↦ ?_⟩
  exact ⟨(op.room_le_iff hE w).2 h, fun hnot ↦ absurd h hnot, op.preserves_numPorts hE w,
    ListOp.returns_of_fits hE h⟩

/-- Lists that are never too long fit. -/
theorem ListOp.fitsArrays_of_forall_le (h : ∀ s l, len s l ≤ OidArray.arrayLen) (op : ListOp)
    (w : World σ) : op.FitsArrays E len rt w :=
  meets_of_forall (fun _ s l _ ↦ h s l) _ _

/-! ### What happens where a list does not fit -/

/-- A query made once more is for the same list. -/
theorem ListConvention.listed_retried (hE : ListConvention E len) {c c' : SaiCall} {s : σ}
    {l : SaiList} (hl : c.listed = some l) (hc : retried c (E c s).1 = some c') :
    c'.listed = some l := by
  have hhead := hE.stores c s l hl
  rcases hattr : (E c s).1.attr with _ | ⟨a, attr⟩
  · rw [hattr] at hhead
    cases hhead
  · rw [hattr] at hhead
    obtain rfl := Option.some.inj hhead
    unfold SaiCall.listed at hl
    split at hl
    all_goals
      cases hl
    all_goals
      obtain rfl := Option.some.inj hc
      simp only [hattr]
      rfl

/-- **The repetition writes past the array** where its length is what it was: the operation ends
in undefined behaviour. -/
theorem ListOp.faults_of_not_fits (hE : ListConvention E len)
    (hlen : ∀ c s l, c.isGet = true → len (E c s).2 l = len s l) {op : ListOp}
    (h : ¬op.FitsArrays E len rt w) : ∃ e w', EStateM.run (op.run E rt) w = .error e w' := by
  obtain ⟨c, s, c', hc, hnot, -, hagain, hout⟩ :=
    (op.makes_plan w.state).exists_of_not_meets (listFits_of_settled hE) h
  obtain ⟨l, hl, hlong⟩ : ∃ l, c.listed = some l ∧ ¬len s l ≤ OidArray.arrayLen := by
    simpa only [ListFits, not_forall, exists_prop] using hnot
  have hl' := hE.listed_retried hl hagain
  have hroom := hE.room_retried hl hagain
  have hget : c.isGet = true := by
    by_contra hne
    cases (room_of_not_get (Bool.not_eq_true _ ▸ hne)).2.symm.trans hl
  have hlen' := hlen c s l hget
  -- The second call announces the length that the first one stored, so it succeeds.
  have hok : (E c' (E c s).2).1.ok = true :=
    (hE.ok_iff c' _ l hl').2 (by rw [hlen', hroom]; exact UInt32.le_refl _)
  have hfills := hE.fills c' _ l hl' hok
  have hover : Overruns c' (E c' (E c s).2).1 := by
    have hentries : 64 < ((E c' (E c s).2).1.list.take c'.room.toNat).length := by
      rw [List.length_take, hfills, hlen', hroom, Nat.min_self]
      exact Nat.lt_of_not_le fun hle ↦ hlong (UInt32.le_iff_toNat_le.2 hle)
    cases c' with
    | getSwitchAttribute _ _ _ | getBridgeAttribute _ _ _ | getVlanAttribute _ _ _ => exact hentries
    | _ => cases (isGet_retried hagain).trans hget
  have hvalue := (op.executes E rt w).value
  rw [hout] at hvalue
  rcases hrun : EStateM.run (op.run E rt) w with ⟨status, w'⟩ | ⟨e, w'⟩
  · rw [hrun] at hvalue
    exact absurd hover hvalue.1
  · exact ⟨e, w', rfl⟩

end Convention

/-! ### Sixty-four entries, and one more -/

/-- What a query finds in the attributes it reads. -/
def SaiList.answer (l : SaiList) (count : UInt32) : List SaiAttribute :=
  match l with
  | .ports _ => [⟨l.attrId, .objlist count⟩, ⟨.switchDefault1qBridgeId, .oid 2⟩,
      ⟨.switchDefaultVlanId, .oid 3⟩]
  | _ => [⟨l.attrId, .objlist count⟩]

/-- A SAI whose lists have these lengths. It creates objects with the identifier 1. -/
def sizedSai (len : SaiList → UInt32) : SaiBackend Unit := fun c s ↦
  match c.listed with
  | some l =>
    if len l ≤ c.room then
      (⟨saiStatusSuccess, none, l.answer (len l), List.replicate (len l).toNat 1⟩, s)
    else
      (⟨saiStatusFailure, none, l.answer (len l), []⟩, s)
  | none => (⟨saiStatusSuccess, some 1, [], []⟩, s)

theorem listConvention_sizedSai (len : SaiList → UInt32) :
    ListConvention (sizedSai len) fun _ l ↦ len l := by
  have hanswer : ∀ l : SaiList, ∀ n, (l.answer n).head? = some ⟨l.attrId, .objlist n⟩ := by
    intro l n
    cases l <;> rfl
  refine ⟨fun c s l hl ↦ ?_, fun c s l hl ↦ ?_, fun c s l hl hok ↦ ?_⟩
  · simp only [sizedSai, hl]
    split
    · exact iff_of_true rfl ‹_›
    · exact iff_of_false (show ¬(saiStatusFailure == saiStatusSuccess) = true by decide) ‹_›
  · simp only [sizedSai, hl]
    split
    · exact hanswer l _
    · exact hanswer l _
  · simp only [sizedSai, hl] at hok ⊢
    split at hok
    · rw [if_pos ‹_›]
      exact List.length_replicate
    · cases hok

/-- The agent before `main` runs. -/
def freshWorld : World Unit := ⟨Agent.zero, (), []⟩

/-- A switch whose lists fill the arrays is brought up. -/
theorem keepsToRoom_sixtyFour :
    ListOp.switchInit.KeepsToRoom (sizedSai fun _ ↦ 64) (fun _ _ ↦ 64) (Runtime.calm 0)
      freshWorld :=
  (ListOp.switchInit.keepsToRoom_iff (listConvention_sizedSai fun _ ↦ 64) freshWorld).2
    (ListOp.fitsArrays_of_forall_le (fun _ _ ↦ UInt32.le_refl _) _ _)

/-- For a switch with one port more, the query is refused and made once more, with room for 65. -/
theorem sixtyFive_announced :
    ListConvention (sizedSai fun _ ↦ 65) (fun _ _ ↦ 65) ∧
      ¬ListOp.switchInit.KeepsToRoom (sizedSai fun _ ↦ 65) (fun _ _ ↦ 65) (Runtime.calm 0)
        freshWorld := by
  refine ⟨listConvention_sizedSai fun _ ↦ 65, fun h ↦ ?_⟩
  have hcall : ∃ e ∈ callsOf (ListOp.switchInit.run (sizedSai fun _ ↦ 65) (Runtime.calm 0))
      freshWorld, e.1.room = 65 := by decide +kernel
  obtain ⟨e, he, hroom⟩ := hcall
  have hle := h.room_le e he
  rw [hroom] at hle
  exact absurd hle (by decide)

end SaiAgent
