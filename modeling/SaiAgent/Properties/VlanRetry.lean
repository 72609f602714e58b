import SaiAgent.Properties.VlanMembers

/-!
# Calling `sai_vlan_add_port_member` once more

A call for a member that is there, or that a call before it began to make. Over a SAI that refuses
only what it cannot do, the second call completes what the first one began exactly when the first
leaves the port where it can be put into the VLAN. Whether it does is decided by the cache and the
store before it, and by what SAI and the allocator answered in it (`Retryable`): `retried_iff`.
-/

namespace SaiAgent

open Effects Effects.Proc Effects.Plan Effects.Run

variable {σ : Type} {E E₁ E₂ : SaiBackend σ} {view : σ → SaiStore} {accepts : SaiCall → Bool}
  {rt rt₁ rt₂ : Runtime} {w w' : World σ} {S : SaiStore} {v vid : UInt16} {b o : Oid}
  {mode : Int32} {tag : Bool} {port : UInt32} {t : List (SaiCall × SaiResp)}

/-! ### What a call does to the members -/

/-- The calls that create members. -/
def createsMember : SaiCall → Bool
  | .createVlanMember _ _ _ => true
  | _ => false

/-- Among the calls is one in which SAI created a member. -/
def MemberGranted (t : List (SaiCall × SaiResp)) : Prop :=
  ∃ e ∈ t, createsMember e.1 = true ∧ e.2.ok = true

instance : Decidable (MemberGranted t) := inferInstanceAs (Decidable (∃ _ ∈ _, _))

theorem not_memberGranted_nil : ¬MemberGranted [] := fun ⟨_, he, _⟩ ↦ by cases he

theorem memberGranted_concat {e : SaiCall × SaiResp} :
    MemberGranted (t ++ [e]) ↔ MemberGranted t ∨ (createsMember e.1 = true ∧ e.2.ok = true) := by
  simp only [MemberGranted, List.mem_append, List.mem_singleton, or_and_right, exists_or,
    exists_eq_left]

theorem memberGranted_cons {e : SaiCall × SaiResp} :
    MemberGranted (e :: t) ↔ (createsMember e.1 = true ∧ e.2.ok = true) ∨ MemberGranted t := by
  simp only [MemberGranted, List.mem_cons, or_and_right, exists_or, exists_eq_left]

/-- A call that creates no member leaves the members alone. -/
theorem StoreSai.members_eq (hE : StoreSai E view) {c : SaiCall} (hc : c.isSwitchLife = false)
    (s : σ) (h : ¬(createsMember c = true ∧ (E c s).1.ok = true)) :
    (view (E c s).2).members = (view s).members := by
  rcases hok : (E c s).1.ok with _ | _
  · rw [hE.refused c s hok]
  cases c with
  | createSwitch _ _ | removeSwitch _ => cases hc
  | createVlanMember sw n attr => exact absurd ⟨rfl, hok⟩ h
  | createVlan sw n attr =>
    obtain ⟨-, hfresh, hview⟩ := hE.createVlan sw n attr s hok
    rw [hview]
    rfl
  | setBridgePortAttribute b a =>
    obtain ⟨up, hset⟩ := (view s).setBrPort_eq b a
    rw [hE.setBridgePortAttribute b a s hok, hset]
  | setPortAttribute p a =>
    obtain ⟨up, pvid, hset⟩ := (view s).setPort_eq p a
    rw [hE.setPortAttribute p a s hok, hset]
  | saiApiQuery _ | saiLogSet _ _ | getSwitchAttribute _ _ _ | setSwitchAttribute _ _
  | getBridgeAttribute _ _ _ | getVlanAttribute _ _ _ | getVlanMemberAttribute _ _ _ =>
    rw [hE.read _ s rfl]

/-- A member that is created is there. -/
theorem StoreSai.isSome_members (hE : StoreSai E view) {sw : Oid} (s : σ)
    (h : (E (createMember sw o b tag) s).1.ok = true) :
    ((view (E (createMember sw o b tag) s).2).members o b).isSome = true := by
  obtain ⟨-, m, hm, hview⟩ := hE.createVlanMember sw 3 _ s h
  rw [createMember, hview]
  exact Option.isSome_iff_exists.2 ⟨_, SaiStore.members_addMember_self⟩

/-- A repeated call is of the kind of the first one. -/
theorem retried_kind {c c' : SaiCall} {r : SaiResp} (h : retried c r = some c') :
    c'.isVlanLife = c.isVlanLife ∧ c'.isSwitchLife = c.isSwitchLife ∧ createsMember c' = false := by
  cases c <;> cases h <;> exact ⟨rfl, rfl, rfl⟩

/-- **No member is created**: the members are what they were. -/
theorem members_exec_of_not_granted (hE : StoreSai E view) {p : SaiPlan}
    (hp : p.Makes fun c ↦ c.isSwitchLife = false) {s : σ}
    (h : ¬MemberGranted (p.exec SaiResp.ok retried E s).trace) :
    (view (p.exec SaiResp.ok retried E s).env).members = (view s).members := by
  refine hp.exec_induction (t := []) (J := fun t s' ↦ ¬MemberGranted t →
    (view s').members = (view s).members) (fun c r c' hc hr ↦ ?_) (fun t c s' hc hJ hnot ↦ ?_)
    (fun _ ↦ rfl) h
  · rw [(retried_kind hr).2.1, hc]
  · rw [memberGranted_concat, not_or] at hnot
    exact (hE.members_eq hc s' hnot.2).trans (hJ hnot.1)

/-- **A member is created** in the one VLAN the calls are about: it is there in the end. -/
theorem isSome_members_exec (hE : StoreSai E view) {p : SaiPlan} {s : σ}
    (hp : p.Makes fun c ↦ c.isSwitchLife = false ∧
      (createsMember c = true → ∃ sw tag, c = createMember sw o b tag))
    (h : MemberGranted (p.exec SaiResp.ok retried E s).trace) :
    ((view (p.exec SaiResp.ok retried E s).env).members o b).isSome = true := by
  refine hp.exec_induction (t := []) (J := fun t s' ↦ MemberGranted t →
    ((view s').members o b).isSome = true) (fun c r c' hc hr ↦ ?_) (fun t c s' hc hJ hg ↦ ?_)
    (fun hg ↦ absurd hg not_memberGranted_nil) h
  · obtain ⟨-, hlife, hnone⟩ := retried_kind hr
    exact ⟨hlife.trans hc.1, fun hcreates ↦ absurd (hnone.symm.trans hcreates) nofun⟩
  · by_cases hnew : createsMember c = true ∧ (E c s').1.ok = true
    · obtain ⟨sw, tag, rfl⟩ := hc.2 hnew.1
      exact hE.isSome_members s' hnew.2
    · rw [hE.members_eq hc.1 s' hnew]
      exact hJ ((memberGranted_concat.1 hg).resolve_right hnew)

/-- Without a call that creates or removes a VLAN, the VLANs are what they were. -/
theorem vlanPart_exec (hE : StoreSai E view) {p : SaiPlan}
    (hp : p.Makes fun c ↦ c.isVlanLife = false) (s : σ) :
    (view (p.exec SaiResp.ok retried E s).env).vlanPart = (view s).vlanPart :=
  hp.exec_induction (t := []) (J := fun _ s' ↦ (view s').vlanPart = (view s).vlanPart)
    (fun _ _ _ hc hr ↦ (retried_kind hr).1.trans hc)
    (fun _ _ s' hc hJ ↦ (hE.vlanPart_eq hc s').trans hJ) rfl

/-- A member created after a call of another kind is created once that call succeeded. -/
theorem memberGranted_call {c : SaiCall} {next : SaiResp → SaiPlan} {s : σ}
    (hc : createsMember c = false)
    (h : MemberGranted ((Plan.call c next).exec SaiResp.ok retried E s).trace) :
    (E c s).1.ok = true ∧
      MemberGranted ((next (E c s).1).exec SaiResp.ok retried E (E c s).2).trace := by
  have hnot : ∀ {c' : SaiCall} {r : SaiResp}, createsMember c' = false →
      ¬(createsMember c' = true ∧ r.ok = true) := fun hc' h ↦ absurd (hc'.symm.trans h.1) nofun
  rcases hok : (E c s).1.ok with _ | _
  · rcases ha : retried c (E c s).1 with _ | c'
    · rw [exec_call_refused hok ha, memberGranted_cons] at h
      exact absurd h (not_or.2 ⟨hnot hc, not_memberGranted_nil⟩)
    · rw [exec_call_repeated hok ha, memberGranted_cons, memberGranted_cons] at h
      exact absurd h (not_or.2 ⟨hnot hc, not_or.2 ⟨hnot (retried_kind ha).2.2,
        not_memberGranted_nil⟩⟩)
  · rw [exec_call_ok hok, Run.cons_trace, memberGranted_cons] at h
    exact ⟨rfl, h.resolve_left (hnot hc)⟩

/-! ### What the first call leaves -/

/-- SAI creates the member during the call: it does among the calls of the plan, made from this
state. -/
def GrantsMember (E : SaiBackend σ) (rt : Runtime) (w : World σ) (vid : UInt16) (port : UInt32)
    (tag : Bool) : Prop :=
  MemberGranted ((vlanPortPlan w.state rt vid port tag).exec SaiResp.ok retried E w.env).trace

instance : Decidable (GrantsMember E rt w vid port tag) :=
  inferInstanceAs (Decidable (MemberGranted _))

/-- **The first call leaves the port where the second one can put it into the VLAN**: SAI created
no member in it; and, in the state before it, the VLAN was cached, the switch's and without the
port, or it was neither cached nor there, and there was memory for its entry in the call in which
it was created — the first one, or else the second. -/
def Retryable (E : SaiBackend σ) (view : σ → SaiStore) (rt₁ rt₂ : Runtime) (w : World σ)
    (vid : UInt16) (port : UInt32) (b : Oid) (tag : Bool) : Prop :=
  ¬GrantsMember E rt₁ w vid port tag ∧
  ((∃ e, saiagentVlanGet w.state.vlanList vid = some e ∧ (view w.env).vlans vid = some e.oid ∧
      (view w.env).members e.oid b = none) ∨
    (saiagentVlanGet w.state.vlanList vid = none ∧ (view w.env).vlans vid = none ∧
      (CreatesVlan E w vid port → rt₁.vlanInfoCalloc = true) ∧
      (¬CreatesVlan E w vid port → rt₂.vlanInfoCalloc = true)))

/-- The store after the call is the one its plan leads to. -/
theorem env_saiVlanAddPortMember (w : World σ) :
    (worldOf (EStateM.run (saiVlanAddPortMember E rt vid port tag) w)).env =
      ((vlanPortPlan w.state rt vid port tag).exec SaiResp.ok retried E w.env).env :=
  (@executes_vlanAddPortMember σ E rt w vid port tag).env

/-- Where SAI creates no member, none is there that was not. -/
theorem members_of_not_grantsMember (hE : StoreSai E view)
    (h : ¬GrantsMember E rt w vid port tag) :
    (view (worldOf (EStateM.run (saiVlanAddPortMember E rt vid port tag) w)).env).members =
      (view w.env).members := by
  rw [env_saiVlanAddPortMember]
  exact members_exec_of_not_granted hE (makes_vlanPortPlan_of (fun _ ↦ rfl) (fun _ ↦ rfl)
    (fun _ ↦ rfl) (fun _ ↦ rfl) (fun _ _ _ _ _ ↦ rfl) fun _ _ _ ↦ rfl) h

/-- The plan from the cached VLAN on. -/
theorem makes_addPlan_member {sw : Oid} : (addPlan rt sw b tag o).Makes fun c ↦
    c.isVlanLife = false ∧ (createsMember c = true → ∃ sw tag, c = createMember sw o b tag) :=
  makes_addPlan ⟨rfl, nofun⟩ (fun _ ↦ ⟨rfl, nofun⟩) ⟨rfl, fun _ ↦ ⟨sw, tag, rfl⟩⟩ ⟨rfl, nofun⟩

/-- What is no creation or removal of a VLAN is none of a switch. -/
theorem isSwitchLife_of_isVlanLife {c : SaiCall} (h : c.isVlanLife = false) :
    c.isSwitchLife = false := by
  cases c <;> first | rfl | cases h

/-- The port's bridge port is found, and the plan goes on to the VLAN. -/
theorem vlanPortPlan_eq (hget : w.state.swInfo.brPortList.get port.toNat = .ok b)
    (hb : b ≠ saiNullObjectId) : vlanPortPlan w.state rt vid port tag =
      .call (.saiApiQuery .vlan) fun _ ↦ .call (.saiApiQuery .bridge) fun _ ↦
        vlanPlan w.state rt vid (addPlan rt w.state.swInfo.switchOid b tag) := by
  simp only [vlanPortPlan, withPort, hget, if_neg hb]
  rfl

/-- **The member is created in the cached VLAN.** -/
theorem isSome_members_of_cached (hE : StoreSai E view) {e : VlanInfo}
    (hlook : saiagentVlanGet w.state.vlanList vid = some e)
    (hget : w.state.swInfo.brPortList.get port.toNat = .ok b) (hb : b ≠ saiNullObjectId)
    (h : GrantsMember E rt w vid port tag) :
    ((view (worldOf (EStateM.run (saiVlanAddPortMember E rt vid port tag) w)).env).members
      e.oid b).isSome = true := by
  rw [env_saiVlanAddPortMember]
  refine isSome_members_exec hE ?_ h
  rw [vlanPortPlan_eq hget hb, vlanPlan, hlook]
  exact ⟨⟨rfl, nofun⟩, fun _ ↦ ⟨⟨rfl, nofun⟩, fun _ ↦ makes_addPlan_member.mono fun c hc ↦
    ⟨isSwitchLife_of_isVlanLife hc.1, hc.2⟩⟩⟩

/-- **The member is created in a new VLAN**: SAI created the VLAN before, and it was cached. -/
theorem isSome_members_of_uncached (hE : StoreSai E view)
    (hlook : saiagentVlanGet w.state.vlanList vid = none)
    (hget : w.state.swInfo.brPortList.get port.toNat = .ok b) (hb : b ≠ saiNullObjectId)
    (h : GrantsMember E rt w vid port tag) :
    CreatesVlan E w vid port ∧ ∃ o,
      (view (worldOf (EStateM.run (saiVlanAddPortMember E rt vid port tag) w)).env).vlans vid =
        some o ∧
      ((view (worldOf (EStateM.run (saiVlanAddPortMember E rt vid port tag) w)).env).members o
        b).isSome = true := by
  rw [env_saiVlanAddPortMember]
  rw [GrantsMember, vlanPortPlan_eq hget hb] at h
  rw [vlanPortPlan_eq hget hb]
  -- Each call before the member's succeeded.
  obtain ⟨h₁, h⟩ := memberGranted_call rfl h
  obtain ⟨h₂, h⟩ := memberGranted_call rfl h
  rw [vlanPlan, hlook] at h
  obtain ⟨h₃, h⟩ := memberGranted_call rfl h
  refine ⟨⟨h₁, h₂, ⟨b, hget, hb⟩, hlook, h₃⟩, ?_⟩
  obtain ⟨-, hfresh, hview⟩ := hE.createVlan _ _ _ _ h₃
  rw [exec_call_ok h₁, Run.cons_env, exec_call_ok h₂, Run.cons_env, vlanPlan, hlook,
    exec_call_ok h₃, Run.cons_env]
  have hout : SaiResp.outOid _ = some _ := if_pos h₃
  rw [hout, Option.getD_some] at h ⊢
  rcases hmem : rt.vlanInfoCalloc with _ | _
  · rw [hmem] at h
    exact absurd h not_memberGranted_nil
  rw [hmem] at h
  refine ⟨_, ?_, isSome_members_exec hE (makes_addPlan_member.mono fun c hc ↦
    ⟨isSwitchLife_of_isVlanLife hc.1, hc.2⟩) h⟩
  refine (congrFun (congrArg Prod.fst (vlanPart_exec hE (makes_addPlan_member.mono fun c hc ↦
    hc.1) _)) vid).trans ?_
  rw [hview]
  exact Function.update_self ..

/-! ### What the second call finds -/

theorem joinable_of_cached {e : VlanInfo} (h : saiagentVlanGet w.state.vlanList vid = some e) :
    Joinable accepts view rt w vid b ↔
      (view w.env).vlans vid = some e.oid ∧ (view w.env).members e.oid b = none := by
  simp [Joinable, h]

theorem joinable_of_uncached (h : saiagentVlanGet w.state.vlanList vid = none) :
    Joinable (fun _ ↦ true) view rt w vid b ↔
      (view w.env).vlans vid = none ∧ rt.vlanInfoCalloc = true := by
  simp [Joinable, h]

/-- The VLAN was cached: it still is, and nothing but a new member is in the way. -/
theorem joinable_iff_retryable_of_cached (hE : StoreSai E view) {e : VlanInfo}
    (hlook : saiagentVlanGet w.state.vlanList vid = some e)
    (hget : w.state.swInfo.brPortList.get port.toNat = .ok b) (hb : b ≠ saiNullObjectId)
    (hw : worldOf (EStateM.run (saiVlanAddPortMember E rt₁ vid port tag) w) = w') :
    Joinable (fun _ ↦ true) view rt₂ w' vid b ↔ Retryable E view rt₁ rt₂ w vid port b tag := by
  obtain ⟨hsame, -⟩ := @vlanView_saiVlanAddPortMember σ E rt₁ view hE w vid port tag
  rw [hw] at hsame
  have hview := hsame fun h ↦ nomatch hlook.symm.trans h.uncached
  have hvlans : (view w'.env).vlans = (view w.env).vlans := congrArg (·.2.1) hview
  have hlook' : saiagentVlanGet w'.state.vlanList vid = some e :=
    (congrArg (fun x ↦ saiagentVlanGet x.1 vid) hview).trans hlook
  have hretry : Retryable E view rt₁ rt₂ w vid port b tag ↔ ¬GrantsMember E rt₁ w vid port tag ∧
      (view w.env).vlans vid = some e.oid ∧ (view w.env).members e.oid b = none := by
    simp [Retryable, hlook]
  rw [joinable_of_cached hlook', hretry, hvlans]
  by_cases hgrant : GrantsMember E rt₁ w vid port tag
  · have hthere := isSome_members_of_cached hE hlook hget hb hgrant
    rw [hw] at hthere
    exact iff_of_false (fun h ↦ by simp [h.2] at hthere) fun h ↦ h.1 hgrant
  · have hmembers := members_of_not_grantsMember hE hgrant
    rw [hw] at hmembers
    rw [hmembers]
    exact (and_iff_right hgrant).symm

/-- The VLAN was not cached, and SAI created it: it is cached where there was memory. -/
theorem joinable_iff_retryable_of_created (hE : StoreSai E view)
    (hget : w.state.swInfo.brPortList.get port.toNat = .ok b) (hb : b ≠ saiNullObjectId)
    (hcreates : CreatesVlan E w vid port)
    (hw : worldOf (EStateM.run (saiVlanAddPortMember E rt₁ vid port tag) w) = w') :
    Joinable (fun _ ↦ true) view rt₂ w' vid b ↔ Retryable E view rt₁ rt₂ w vid port b tag := by
  obtain ⟨-, hnew⟩ := @vlanView_saiVlanAddPortMember σ E rt₁ view hE w vid port tag
  obtain ⟨hnone, o, hfresh, hview⟩ := hnew hcreates
  rw [hw] at hview
  have hlist : w'.state.vlanList = if rt₁.vlanInfoCalloc then ⟨vid, o⟩ :: w.state.vlanList
    else w.state.vlanList := congrArg Prod.fst hview
  have hvlan : (view w'.env).vlans vid = some o :=
    (congrArg (fun x ↦ x.2.1 vid) hview).trans (Function.update_self ..)
  have hretry : Retryable E view rt₁ rt₂ w vid port b tag ↔
      ¬GrantsMember E rt₁ w vid port tag ∧ rt₁.vlanInfoCalloc = true := by
    simp [Retryable, hcreates.uncached, hnone, hcreates]
  rw [hretry]
  rcases hmem : rt₁.vlanInfoCalloc with _ | _
  · -- The VLAN is there, and nothing knows of it.
    rw [hmem] at hlist
    refine iff_of_false ?_ fun h ↦ by cases h.2
    rw [joinable_of_uncached ((congrArg (saiagentVlanGet · vid) hlist).trans hcreates.uncached)]
    exact fun h ↦ by cases hvlan.symm.trans h.1
  · rw [hmem] at hlist
    have hlook' : saiagentVlanGet w'.state.vlanList vid = some ⟨vid, o⟩ := by
      rw [hlist]
      exact (saiagentVlanGet_cons _ _ _).trans (if_pos rfl)
    rw [joinable_of_cached hlook', and_iff_right hvlan, and_iff_left rfl]
    by_cases hgrant : GrantsMember E rt₁ w vid port tag
    · obtain ⟨-, o', ho', hthere⟩ := isSome_members_of_uncached hE hcreates.uncached hget hb hgrant
      rw [hw] at ho' hthere
      obtain rfl := Option.some.inj (hvlan.symm.trans ho')
      exact iff_of_false (fun h ↦ by simp [h] at hthere) fun h ↦ h hgrant
    · have hmembers := members_of_not_grantsMember hE hgrant
      rw [hw] at hmembers
      refine iff_of_true ?_ hgrant
      rw [hmembers]
      exact SaiStore.members_of_fresh hfresh b

/-- The VLAN was not cached and SAI did not create it: nothing changed. -/
theorem joinable_iff_retryable_of_not_created (hE : StoreSai E view)
    (hlook : saiagentVlanGet w.state.vlanList vid = none)
    (hget : w.state.swInfo.brPortList.get port.toNat = .ok b) (hb : b ≠ saiNullObjectId)
    (hcreates : ¬CreatesVlan E w vid port)
    (hw : worldOf (EStateM.run (saiVlanAddPortMember E rt₁ vid port tag) w) = w') :
    Joinable (fun _ ↦ true) view rt₂ w' vid b ↔ Retryable E view rt₁ rt₂ w vid port b tag := by
  obtain ⟨hsame, -⟩ := @vlanView_saiVlanAddPortMember σ E rt₁ view hE w vid port tag
  rw [hw] at hsame
  have hview := hsame hcreates
  have hvlans : (view w'.env).vlans = (view w.env).vlans := congrArg (·.2.1) hview
  have hlook' : saiagentVlanGet w'.state.vlanList vid = none :=
    (congrArg (fun x ↦ saiagentVlanGet x.1 vid) hview).trans hlook
  have hgrant : ¬GrantsMember E rt₁ w vid port tag := fun h ↦
    hcreates (isSome_members_of_uncached hE hlook hget hb h).1
  have hretry : Retryable E view rt₁ rt₂ w vid port b tag ↔
      (view w.env).vlans vid = none ∧ rt₂.vlanInfoCalloc = true := by
    simp [Retryable, hlook, hcreates, hgrant]
  rw [joinable_of_uncached hlook', hretry, hvlans]

/-- **What the first call leaves is decided before it.** -/
theorem joinable_iff_retryable (hE : StoreSai E view)
    (hget : w.state.swInfo.brPortList.get port.toNat = .ok b) (hb : b ≠ saiNullObjectId) :
    Joinable (fun _ ↦ true) view rt₂
        (worldOf (EStateM.run (saiVlanAddPortMember E rt₁ vid port tag) w)) vid b ↔
      Retryable E view rt₁ rt₂ w vid port b tag := by
  rcases hlook : saiagentVlanGet w.state.vlanList vid with _ | e
  · by_cases hcreates : CreatesVlan E w vid port
    · exact joinable_iff_retryable_of_created hE hget hb hcreates rfl
    · exact joinable_iff_retryable_of_not_created hE hlook hget hb hcreates rfl
  · exact joinable_iff_retryable_of_cached hE hlook hget hb rfl

/-! ### The second call -/

/-- The call succeeded, and the VLAN is there once, the port is in it once and is up. -/
def Completed (view : σ → SaiStore) (vid : UInt16) (b : Oid) : EStateM.Result Fault
    (World σ) SaiStatus → Prop
  | .ok status w => status = saiStatusSuccess ∧ (∃! o, (view w.env).vlans vid = some o) ∧
      (∀ o, (view w.env).vlans vid = some o → ∃! m, ∃ t, (view w.env).members o b = some (m, t)) ∧
      (view w.env).brPortUp b = true
  | .error _ _ => False

theorem Completed.status {r : EStateM.Result Fault (World σ) SaiStatus}
    (h : Completed view vid b r) : valueOf r = .ok saiStatusSuccess := by
  rcases r with ⟨status, w⟩ | _
  · exact congrArg Except.ok h.1
  · exact h.elim

/-- A port that was put into a VLAN is in it once. -/
theorem existsUnique_of_memberMode (h : S.memberMode v b = some mode) :
    (∃! o, S.vlans v = some o) ∧
      ∀ o, S.vlans v = some o → ∃! m, ∃ t, S.members o b = some (m, t) := by
  obtain ⟨o, ho, hm⟩ := Option.bind_eq_some_iff.1 h
  obtain ⟨⟨m, t⟩, hmember, -⟩ := Option.map_eq_some_iff.1 hm
  refine ⟨⟨o, ho, fun o' ho' ↦ Option.some.inj (ho'.symm.trans ho)⟩, fun o' ho' ↦ ?_⟩
  obtain rfl := Option.some.inj (ho'.symm.trans ho)
  refine ⟨m, ⟨t, hmember⟩, ?_⟩
  rintro m' ⟨t', hm'⟩
  exact congrArg Prod.fst (Option.some.inj (hm'.symm.trans hmember))

/-- A call during which SAI refuses nothing but what it cannot do. -/
theorem completed_iff (hE : ExactSai E view fun _ ↦ true) (hk : Known view w)
    (hget : w.state.swInfo.brPortList.get port.toNat = .ok b) (hb : b ≠ saiNullObjectId) :
    Completed view vid b (EStateM.run (saiVlanAddPortMember E rt vid port tag) w) ↔
      Joinable (fun _ ↦ true) view rt w vid b := by
  obtain ⟨status, w', hrun, hst, hjoined⟩ := run_saiVlanAddPortMember hE hk hget hb rt vid tag
  rw [hrun]
  constructor
  · intro h
    exact (hst.1 h.1).joinable
  · intro h
    have hok := hst.2 ⟨rfl, rfl, h, rfl⟩
    have hmode := (hjoined hok).memberMode vid b
    rw [if_pos ⟨rfl, rfl⟩] at hmode
    obtain ⟨hvlan, hmember⟩ := existsUnique_of_memberMode hmode
    refine ⟨hok, hvlan, hmember, ?_⟩
    rw [(hjoined hok).brPortUp, Function.update_self]

/-- The port cannot be put into the VLAN once it is in it. -/
theorem not_joinable_of_memberMode (h : (view w.env).memberMode v b = some mode) :
    ¬Joinable accepts view rt w v b := by
  obtain ⟨o, ho, hm⟩ := Option.bind_eq_some_iff.1 h
  rintro (⟨e, -, hv, hnone⟩ | ⟨-, hnone, -⟩)
  · obtain rfl := Option.some.inj (ho.symm.trans hv)
    rw [hnone] at hm
    cases hm
  · cases ho.symm.trans hnone

variable (E₁) in
/-- **A second call completes the first one** — from every state a session over a store SAI
reaches, and whatever SAI refused or the allocator did during the first call — exactly when the
state before the first call and what SAI and the allocator answered in it allow it. -/
theorem retried_iff (hE₁ : StoreSai E₁ view) (hE₂ : ExactSai E₂ view fun _ ↦ true) (env : σ)
    (is : List SessionInput) (vid : UInt16) (tag : Bool)
    (hget : (Session.exec E₁ (Session.start env) is).world.state.swInfo.brPortList.get
      port.toNat = .ok b) (hb : b ≠ saiNullObjectId) :
    let w := (Session.exec E₁ (Session.start env) is).world
    Completed view vid b (EStateM.run (saiVlanAddPortMember E₂ rt₂ vid port tag)
        (worldOf (EStateM.run (saiVlanAddPortMember E₁ rt₁ vid port tag) w))) ↔
      Retryable E₁ view rt₁ rt₂ w vid port b tag := by
  intro w
  have hknown : Known view (worldOf (EStateM.run (saiVlanAddPortMember E₁ rt₁ vid port tag) w)) :=
    preserves_known_saiVlanAddPortMember hE₁ vid port tag _ (known_exec E₁ hE₁ env is)
  have hsw : (worldOf (EStateM.run (saiVlanAddPortMember E₁ rt₁ vid port tag) w)).state.swInfo =
      w.state.swInfo :=
    keeps_saiVlanAddPortMember (f := fun w : World σ ↦ w.state.swInfo) (fun _ _ _ ↦ rfl)
      (fun _ _ ↦ rfl) vid port tag w
  rw [completed_iff hE₂ hknown (by rw [hsw]; exact hget) hb,
    joinable_iff_retryable hE₁ hget hb]

/-- **Not after a first call that succeeded**, over a SAI that refuses only what it cannot do or
does not accept. -/
theorem not_retryable_of_success (hE : ExactSai E view accepts) (hk : Known view w)
    (hget : w.state.swInfo.brPortList.get port.toNat = .ok b) (hb : b ≠ saiNullObjectId)
    (hrun : EStateM.run (saiVlanAddPortMember E rt₁ vid port tag) w = .ok saiStatusSuccess w') :
    ¬Retryable E view rt₁ rt₂ w vid port b tag := by
  obtain ⟨status, w'', hrun', -, hjoined⟩ := run_saiVlanAddPortMember hE hk hget hb rt₁ vid tag
  obtain ⟨rfl, rfl⟩ := EStateM.Result.ok.inj (hrun'.symm.trans hrun)
  have hmode := (hjoined rfl).memberMode vid b
  rw [if_pos ⟨rfl, rfl⟩] at hmode
  rw [← joinable_iff_retryable hE.toStoreSai hget hb, hrun]
  exact not_joinable_of_memberMode hmode

/-- **Not after a first call that failed for lack of memory** for the entry of the VLAN it had
created. -/
theorem not_retryable_of_orphaned (hcreates : CreatesVlan E w vid port)
    (hmem : rt₁.vlanInfoCalloc = false) : ¬Retryable E view rt₁ rt₂ w vid port b tag := by
  rintro ⟨-, ⟨e, hlook, -⟩ | ⟨-, -, hcached, -⟩⟩
  · cases hlook.symm.trans hcreates.uncached
  · cases hmem.symm.trans (hcached hcreates)

/-- A SAI that refuses some calls and is `E` for the others. -/
def refusing (refuses : SaiCall → Bool) (E : SaiBackend σ) : SaiBackend σ := fun c s ↦
  if refuses c then (SaiResp.bare saiStatusFailure, s) else E c s

/-- It is a store if `E` is one. -/
theorem storeSai_refusing (hE : StoreSai E view) (refuses : SaiCall → Bool) :
    StoreSai (refusing refuses E) view := by
  have hcases : ∀ c s, ((refusing refuses E c s).1.ok = false ∧ (refusing refuses E c s).2 = s) ∨
      refusing refuses E c s = E c s := fun c s ↦ by
    rcases h : refuses c with _ | _
    · exact Or.inr (by rw [refusing, h]; rfl)
    · exact Or.inl (by rw [refusing, h]; exact ⟨rfl, rfl⟩)
  have hok : ∀ {c s}, (refusing refuses E c s).1.ok = true →
      refusing refuses E c s = E c s := fun h ↦
    (hcases _ _).resolve_left fun hc ↦ by
      rw [hc.1] at h
      cases h
  -- The first three fields speak about refused calls too, the others about calls that succeed.
  refine ⟨fun c s o v h ↦ ?_, fun c s h ↦ ?_, fun c s h ↦ ?_, fun n attr s h ↦ ?_,
    fun sw n attr s h ↦ ?_, fun sw n attr s h ↦ ?_, fun b a s h ↦ ?_, fun p a s h ↦ ?_, fun o s h ↦
      ?_, fun o s h ↦ ?_⟩
  · obtain ⟨-, hs⟩ | heq := hcases c s
    · rw [hs]
      exact h
    · rw [heq]
      exact hE.vidOf_mono c s h
  · obtain ⟨-, hs⟩ | heq := hcases c s
    · rw [hs]
    · rw [heq] at h ⊢
      exact hE.refused c s h
  · obtain ⟨-, hs⟩ | heq := hcases c s
    · rw [hs]
    · rw [heq]
      exact hE.read c s h
  all_goals
    have heq := hok h
    rw [heq] at h ⊢
  · exact hE.createSwitch n attr s h
  · exact hE.createVlan sw n attr s h
  · exact hE.createVlanMember sw n attr s h
  · exact hE.setBridgePortAttribute b a s h
  · exact hE.setPortAttribute p a s h
  · exact hE.getVlanId o s h
  · exact hE.getDefaultVlan o s h

/-- A SAI that creates no member leaves a VLAN without members that is cached; the second call puts
the port into it. -/
theorem retried_listSai :
    Completed ListStore.view 10 32
      (EStateM.run (saiVlanAddPortMember listSai (Runtime.calm 0) 10 0 true)
        (worldOf (EStateM.run (saiVlanAddPortMember (refusing createsMember listSai)
          (Runtime.calm 0) 10 0 true) (Session.exec (refusing createsMember listSai)
            (Session.start ListStore.empty) [bareInput .switchInit]).world))) :=
  (retried_iff (refusing createsMember listSai) (storeSai_refusing storeSai_listSai _)
    exactSai_listSai ListStore.empty [bareInput .switchInit] 10 true (by rfl) (by decide)).2
    ⟨by decide +kernel, Or.inr ⟨by decide +kernel, by decide +kernel, fun _ ↦ rfl, fun _ ↦ rfl⟩⟩

/-- Over a SAI that refuses nothing it could do, the first call succeeds and the second one does
not: the member is there. -/
theorem second_call_fails :
    listWorld.state.swInfo.brPortList.get 0 = .ok 32 ∧
    valueOf (EStateM.run (saiVlanAddPortMember listSai (Runtime.calm 0) 10 0 true) listWorld) =
      .ok saiStatusSuccess ∧
    ¬Completed ListStore.view 10 32
      (EStateM.run (saiVlanAddPortMember listSai (Runtime.calm 0) 10 0 true)
        (worldOf (EStateM.run (saiVlanAddPortMember listSai (Runtime.calm 0) 10 0 true)
          listWorld))) := by
  refine ⟨by rfl, by decide +kernel, fun h ↦ ?_⟩
  have hstatus := h.status
  revert hstatus
  decide +kernel

end SaiAgent
