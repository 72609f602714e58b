import SaiAgent.Properties.InitRequest
import SaiAgent.Properties.PortPairing
import SaiAgent.Properties.Store

/-!
# What requests do to the VLANs

The VLANs of the switch and the list `saiagent_vlan.c` caches them in, together (`vlanView`). Two
requests change them: VLAN_PORT_SET creates a VLAN that is not cached
(`vlanView_saiVlanAddPortMember`), SWITCH_INIT a switch with a default VLAN, which it puts into the
cache (`vlanView_processSwitchInit`). Everything else leaves both alone. Whatever SAI refuses, what
is cached stays an object that is or was the VLAN it is cached for (`Known`).
-/

namespace SaiAgent

open Effects Effects.Proc Effects.Plan Effects.Run

variable {σ : Type} {E : SaiBackend σ} {rt : Runtime} {w w' : World σ} {view : σ → SaiStore}
  {request reply : SaiagentMsg}

/-! ### What calls do to the VLANs -/

/-- Only creations and removals touch the VLANs. -/
theorem StoreSai.vlanPart_eq (h : StoreSai E view) {c : SaiCall} (hc : c.isVlanLife = false)
    (s : σ) : (view (E c s).2).vlanPart = (view s).vlanPart := by
  rcases hok : (E c s).1.ok with _ | _
  · rw [h.refused c s hok]
  cases c with
  | createVlan _ _ _ | createSwitch _ _ | removeSwitch _ => cases hc
  | createVlanMember sw n attr =>
    obtain ⟨-, m, hm, hview⟩ := h.createVlanMember sw n attr s hok
    rw [hview, SaiStore.vlanPart_addMember]
  | setBridgePortAttribute b a => rw [h.setBridgePortAttribute b a s hok,
    SaiStore.vlanPart_setBrPort]
  | setPortAttribute p a => rw [h.setPortAttribute p a s hok, SaiStore.vlanPart_setPort]
  | saiApiQuery _ | saiLogSet _ _ | getSwitchAttribute _ _ _ | setSwitchAttribute _ _
  | getBridgeAttribute _ _ _ | getVlanAttribute _ _ _ | getVlanMemberAttribute _ _ _ =>
    rw [h.read _ s rfl]

variable (view) in
/-- The cache and the VLANs. -/
def vlanView (w : World σ) :
    List VlanInfo × ((UInt16 → Option Oid) × (Oid → Option UInt16) × Oid) :=
  (w.state.vlanList, (view w.env).vlanPart)

theorem quiet_vlanView (h : StoreSai E view) : Quiet E (vlanView view) :=
  fun w _ hc ↦ congrArg (Prod.mk w.state.vlanList) (h.vlanPart_eq hc w.env)

/-! ### VLAN_PORT_SET -/

/-- `sai_vlan_add_port_member` comes to create a VLAN, and SAI creates it: both queries succeed, the
port has a bridge port, and the VLAN is not cached. -/
structure CreatesVlan (E : SaiBackend σ) (w : World σ) (vid : UInt16) (port : UInt32) : Prop where
  vlanApi : (E (.saiApiQuery .vlan) w.env).1.ok = true
  bridgeApi : (E (.saiApiQuery .bridge) (w.asked E (.saiApiQuery .vlan)).env).1.ok = true
  brPort : ∃ b, w.state.swInfo.brPortList.get port.toNat = .ok b ∧ b ≠ saiNullObjectId
  uncached : saiagentVlanGet w.state.vlanList vid = none
  created : (E (.createVlan w.state.swInfo.switchOid 1 [⟨.vlanVlanId, .u16 vid⟩])
    ((w.asked E (.saiApiQuery .vlan)).asked E (.saiApiQuery .bridge)).env).1.ok = true

/-- What it does with the VLAN it has: list the members, look for the port's, create it, enable the
port. -/
def addToVlan (E : SaiBackend σ) (rt : Runtime) (brPortOid : Oid) (tag : Bool) (vlanOid : Oid) :
    AgentM σ SaiStatus :=
  saiRetErr (memberListCall E vlanOid)
    ([⟨.vlanMemberList, .objlist OidArray.arrayLen⟩], rt.vlanMemberList) fun l ↦
  scanMembers E vlanOid brPortOid l.2 (ensureMember E vlanOid brPortOid tag)
    (attrValue l.1 0).getCount.toNat 0

theorem keeps_addToVlan {β : Type} {f : World σ → β} (h : Quiet E f) (brPortOid : Oid) (tag : Bool)
    (vlanOid : Oid) : Keeps f (addToVlan E rt brPortOid tag vlanOid) :=
  keeps_saiRetErr
    (fun _ ↦ keeps_saiCall (h.ask rfl) fun _ ↦ Keeps.bind (Keeps.lift _) fun _ ↦ Keeps.pure _)
    fun _ ↦ keeps_scanMembers h _ _ _ (keeps_ensureMember h vlanOid _ tag) _ _

/-- The function after its two queries. -/
theorem run_saiVlanAddPortMember_of_ok {vid : UInt16} {port : UInt32} {tag : Bool}
    (h₁ : (E (.saiApiQuery .vlan) w.env).1.ok = true)
    (h₂ : (E (.saiApiQuery .bridge) (w.asked E (.saiApiQuery .vlan)).env).1.ok = true) :
    EStateM.run (saiVlanAddPortMember E rt vid port tag) w =
      EStateM.run (lift (w.state.swInfo.brPortList.get port.toNat) >>= fun b ↦
          if b = saiNullObjectId then pure saiStatusFailure
          else useOrCreateVlan E rt vid (addToVlan E rt b tag))
        ((w.asked E (.saiApiQuery .vlan)).asked E (.saiApiQuery .bridge)) := by
  rw [saiVlanAddPortMember, run_saiRetErr_plainCall_of_ok h₁, run_saiRetErr_plainCall_of_ok h₂]
  rfl

/-- The VLAN of the function: where it is not cached it is created, if SAI lets it be. -/
theorem vlanView_useOrCreateVlan (hE : StoreSai E view) (w : World σ) (vid : UInt16) (b : Oid)
    (tag : Bool) : let created := saiagentVlanGet w.state.vlanList vid = none ∧
      (E (.createVlan w.state.swInfo.switchOid 1 [⟨.vlanVlanId, .u16 vid⟩]) w.env).1.ok = true
    let w' := worldOf (EStateM.run (useOrCreateVlan E rt vid (addToVlan E rt b tag)) w)
    (¬created → vlanView view w' = vlanView view w) ∧
    (created → (view w.env).vlans vid = none ∧ ∃ o, ∃ h : (view w.env).vidOf o = none,
      vlanView view w' =
        (if rt.vlanInfoCalloc then ⟨vid, o⟩ :: w.state.vlanList else w.state.vlanList,
          ((view w.env).addVlan vid o h).vlanPart)) := by
  have hquiet := quiet_vlanView hE
  rw [useOrCreateVlan, run_getState_bind]
  rcases hlook : saiagentVlanGet w.state.vlanList vid with _ | info
  · dsimp only
    rw [run_getState_bind, EStateM.run_bind, run_ask]
    dsimp only
    rcases hok : (E (.createVlan w.state.swInfo.switchOid 1 [⟨.vlanVlanId, .u16 vid⟩])
      w.env).1.ok with _ | _
    · refine ⟨fun _ ↦ ?_, fun h ↦ absurd h.2 (by decide)⟩
      rw [if_pos (SaiResp.ok_eq_false_iff.1 hok)]
      exact congrArg (Prod.mk _) (congrArg SaiStore.vlanPart (hE.refused _ _ hok))
    · refine ⟨fun h ↦ absurd ⟨rfl, rfl⟩ h, fun _ ↦ ?_⟩
      obtain ⟨hnone, hfresh, hnew⟩ := hE.createVlan _ _ _ _ hok
      have hout : SaiResp.outOid _ = some _ := if_pos hok
      refine ⟨hnone, _, hfresh, ?_⟩
      rw [if_neg (not_ne_iff.2 (SaiResp.ok_iff.1 hok)), hout, Option.getD_some, saiagentVlanAddNew]
      -- Without memory for the entry the VLAN is there and the list as before.
      rcases rt.vlanInfoCalloc with _ | _
      · exact congrArg (Prod.mk _) (congrArg SaiStore.vlanPart hnew)
      · -- What follows the entry touches neither the list nor the VLANs.
        refine (keeps_addToVlan hquiet b tag _ (OracleWorld.mapState _ _)).trans ?_
        exact congrArg (Prod.mk _) (congrArg SaiStore.vlanPart hnew)
  · exact ⟨fun _ ↦ keeps_addToVlan hquiet b tag info.oid _, fun h ↦ nomatch h.1⟩

/-- **VLAN_PORT_SET leaves the cache and the VLANs alone**, or it creates a VLAN, and caches it
where there is memory for the entry. -/
theorem vlanView_saiVlanAddPortMember (hE : StoreSai E view) (w : World σ) (vid : UInt16)
    (port : UInt32) (tag : Bool) :
    (¬CreatesVlan E w vid port →
      vlanView view (worldOf (EStateM.run (saiVlanAddPortMember E rt vid port tag) w)) =
        vlanView view w) ∧
    (CreatesVlan E w vid port → (view w.env).vlans vid = none ∧
      ∃ o, ∃ h : (view w.env).vidOf o = none,
        vlanView view (worldOf (EStateM.run (saiVlanAddPortMember E rt vid port tag) w)) =
          (if rt.vlanInfoCalloc then ⟨vid, o⟩ :: w.state.vlanList else w.state.vlanList,
            ((view w.env).addVlan vid o h).vlanPart)) := by
  have hquery : ∀ (w : World σ) api, vlanView view (w.asked E (.saiApiQuery api)) =
    vlanView view w :=
    fun w api ↦ quiet_vlanView hE w _ rfl
  -- A refused query ends the operation before the cache is looked at.
  rcases h₁ : (E (.saiApiQuery .vlan) w.env).1.ok with _ | _
  · refine ⟨fun _ ↦ ?_, fun h ↦ absurd (h₁.symm.trans h.vlanApi) (by decide)⟩
    rw [saiVlanAddPortMember, run_saiRetErr_plainCall_of_refused h₁, worldOf_ok, hquery, hquery]
  rcases h₂ : (E (.saiApiQuery .bridge) (w.asked E (.saiApiQuery .vlan)).env).1.ok with _ | _
  · refine ⟨fun _ ↦ ?_, fun h ↦ absurd (h₂.symm.trans h.bridgeApi) (by decide)⟩
    rw [saiVlanAddPortMember, run_saiRetErr_plainCall_of_ok h₁, run_saiRetErr_plainCall_of_refused
      h₂, worldOf_ok, hquery, hquery, hquery]
  rw [run_saiVlanAddPortMember_of_ok h₁ h₂]
  have hview : vlanView view ((w.asked E (.saiApiQuery .vlan)).asked E (.saiApiQuery .bridge)) =
      vlanView view w := by rw [hquery, hquery]
  have hstore : view ((w.asked E (.saiApiQuery .vlan)).asked E (.saiApiQuery .bridge)).env =
    view w.env :=
    (hE.read _ _ rfl).trans (hE.read _ _ rfl)
  rcases hget : w.state.swInfo.brPortList.get port.toNat with e | b
  · refine ⟨fun _ ↦ hview, fun h ↦ ?_⟩
    obtain ⟨b, hb, -⟩ := h.brPort
    cases hget.symm.trans hb
  show (_ → vlanView view (worldOf (EStateM.run (ite _ _ _) _)) = _) ∧ (_ → _ ∧ ∃ o, ∃ h,
    vlanView view (worldOf (EStateM.run (ite _ _ _) _)) = _)
  by_cases hnull : b = saiNullObjectId
  · rw [if_pos hnull]
    refine ⟨fun _ ↦ hview, fun h ↦ ?_⟩
    obtain ⟨b', hb', hne⟩ := h.brPort
    cases hget.symm.trans hb'
    exact absurd hnull hne
  · rw [if_neg hnull]
    obtain ⟨hsame, hnew⟩ := @vlanView_useOrCreateVlan σ E rt view hE
      ((w.asked E (.saiApiQuery .vlan)).asked E (.saiApiQuery .bridge)) vid b tag
    rw [hview] at hsame
    rw [hstore] at hnew
    exact ⟨fun h ↦ hsame fun hc ↦ h ⟨h₁, h₂, ⟨b, hget, hnull⟩, hc.1, hc.2⟩,
      fun h ↦ hnew ⟨h.uncached, h.created⟩⟩

/-! ### SWITCH_INIT -/

/-- `sai_switch_init` comes to create a switch, and SAI creates it. -/
structure CreatesSwitch (E : SaiBackend σ) (rt : Runtime) (w : World σ) : Prop where
  switchApi : (E (.saiApiQuery .switch) w.env).1.ok = true
  bridgeApi : (E (.saiApiQuery .bridge) (w.asked E (.saiApiQuery .switch)).env).1.ok = true
  memory : rt.hwInfoMalloc = true
  created : (E (.createSwitch 3 createSwitchAttr)
    ((w.asked E (.saiApiQuery .switch)).asked E (.saiApiQuery .bridge)).env).1.ok = true

/-- The world in which a created switch is first queried. -/
def createdWorld (E : SaiBackend σ) (w : World σ) : World σ :=
  (((w.asked E (.saiApiQuery .switch)).asked E (.saiApiQuery .bridge)).asked E
    (.createSwitch 3 createSwitchAttr)).mapState fun a ↦ a.setSwitchOid
      ((E (.createSwitch 3 createSwitchAttr) ((w.asked E (.saiApiQuery .switch)).asked E
        (.saiApiQuery .bridge)).env).1.oid.getD saiNullObjectId)

/-- The switch's answer about its attributes. -/
def switchAnswer (E : SaiBackend σ) (w : World σ) : SaiResp :=
  (E (.getSwitchAttribute w.state.swInfo.switchOid 3 switchQueryAttr) w.env).1

/-- `sai_switch_init` creates a switch and comes to note its default VLAN. -/
structure LearnsDefault (E : SaiBackend σ) (rt : Runtime) (w : World σ) : Prop where
  creates : CreatesSwitch E rt w
  answered : (switchAnswer E (createdWorld E w)).ok = true
  bridge : (attrValue (switchAnswer E (createdWorld E w)).attr 1).getOid ≠ saiNullObjectId
  vlan : (attrValue (switchAnswer E (createdWorld E w)).attr 2).getOid ≠ saiNullObjectId

/-- What is left alone where no switch is created. -/
def initView (view : σ → SaiStore) (w : World σ) :
    (List VlanInfo × ((UInt16 → Option Oid) × (Oid → Option UInt16) × Oid)) × Oid :=
  (vlanView view w, w.state.swInfo.defaultVlanOid)

theorem quiet_initView (h : StoreSai E view) : Quiet E (initView view) :=
  fun w c hc ↦ congrArg (·, w.state.swInfo.defaultVlanOid) (quiet_vlanView h w c hc)

/-- Without a new switch, nothing changes. -/
theorem initView_saiSwitchInit (hE : StoreSai E view) (h : ¬CreatesSwitch E rt w) :
    initView view (worldOf (EStateM.run (saiSwitchInit E rt) w)) = initView view w := by
  have hquery : ∀ (w : World σ) api, initView view (w.asked E (.saiApiQuery api)) =
    initView view w :=
    fun w api ↦ quiet_initView hE w _ rfl
  rcases h₁ : (E (.saiApiQuery .switch) w.env).1.ok with _ | _
  · rw [saiSwitchInit, run_saiRetErr_plainCall_of_refused h₁, worldOf_ok, hquery, hquery]
  rcases h₂ : (E (.saiApiQuery .bridge) (w.asked E (.saiApiQuery .switch)).env).1.ok with _ | _
  · rw [saiSwitchInit, run_saiRetErr_plainCall_of_ok h₁, run_saiRetErr_plainCall_of_refused h₂,
      worldOf_ok, hquery, hquery, hquery]
  have hview : initView view ((w.asked E (.saiApiQuery .switch)).asked E (.saiApiQuery .bridge)) =
      initView view w := by rw [hquery, hquery]
  rw [saiSwitchInit, run_saiRetErr_plainCall_of_ok h₁, run_saiRetErr_plainCall_of_ok
    h₂, createSwitch]
  -- The hardware string is allocated between the queries and the creation.
  rcases hmem : rt.hwInfoMalloc with _ | _
  · exact hview
  rw [if_pos rfl, EStateM.run_bind, run_ask]
  dsimp only
  rw [run_modState_bind]
  rcases h₃ : (E (.createSwitch 3 createSwitchAttr)
      ((w.asked E (.saiApiQuery .switch)).asked E (.saiApiQuery .bridge)).env).1.ok with _ | _
  · rw [if_pos (SaiResp.ok_eq_false_iff.1 h₃)]
    refine Eq.trans ?_ hview
    exact congrArg (fun p ↦ ((_, p), _)) (congrArg SaiStore.vlanPart (hE.refused _ _ h₃))
  · exact absurd ⟨h₁, h₂, hmem, h₃⟩ h

/-- With one, `sai_switch_init` goes on to query it. -/
theorem run_saiSwitchInit_of_creates (h : CreatesSwitch E rt w) :
    EStateM.run (saiSwitchInit E rt) w = EStateM.run (saiSwitchQuery E) (createdWorld E w) := by
  have hout : SaiResp.outOid _ = some _ := if_pos h.created
  rw [saiSwitchInit, run_saiRetErr_plainCall_of_ok h.switchApi,
    run_saiRetErr_plainCall_of_ok h.bridgeApi, createSwitch, if_pos h.memory,
      EStateM.run_bind, run_ask]
  dsimp only
  rw [run_modState_bind, if_neg (not_ne_iff.2 (SaiResp.ok_iff.1 h.created)), hout]
  rfl

/-- A query that went well notes the default VLAN, and no other way leads to it. -/
theorem defaultVlanOid_saiSwitchQuery (w : World σ) :
    (worldOf (EStateM.run (saiSwitchQuery E) w)).state.swInfo.defaultVlanOid =
      if (switchAnswer E w).ok = true ∧
          (attrValue (switchAnswer E w).attr 1).getOid ≠ saiNullObjectId ∧
          (attrValue (switchAnswer E w).attr 2).getOid ≠ saiNullObjectId then
        (attrValue (switchAnswer E w).attr 2).getOid
      else
        w.state.swInfo.defaultVlanOid := by
  rcases h : (switchAnswer E w).ok with _ | _
  · rw [if_neg fun hc ↦ absurd hc.1 (by decide)]
    exact worldOf_saiSwitchQuery_of_refused (f := fun w : World σ ↦ w.state.swInfo.defaultVlanOid)
      (fun _ _ _ ↦ rfl) (fun _ _ ↦ rfl) h
  · obtain ⟨portList, hrun, -⟩ := run_saiSwitchQuery_of_ok (E := E) (w := w) h
    rw [hrun]
    show (worldOf (EStateM.run (saiBridgeQuery E _ (switchAnswer E w).attr)
      _)).state.swInfo.defaultVlanOid = _
    rw [saiBridgeQuery]
    by_cases hbridge : (attrValue (switchAnswer E w).attr 1).getOid = saiNullObjectId
    · rw [if_pos hbridge, if_neg fun hc ↦ hc.2.1 hbridge]
      rfl
    by_cases hvlan : (attrValue (switchAnswer E w).attr 2).getOid = saiNullObjectId
    · rw [if_neg hbridge, if_pos hvlan, if_neg fun hc ↦ hc.2.2 hvlan]
      rfl
    rw [if_neg hbridge, if_neg hvlan, if_pos ⟨rfl, hbridge, hvlan⟩, run_modState_bind]
    exact keeps_saiRetErr (f := fun w : World σ ↦ w.state.swInfo.defaultVlanOid)
      (keeps_listCall (fun _ ↦ Keeps.ask fun _ ↦ rfl) fun _ _ ↦ rfl)
      (fun _ ↦ keeps_saiRetErr (keeps_plainCall (Keeps.ask fun _ ↦ rfl)) fun _ ↦ Keeps.pure _) _

/-- **A new switch**: the cache is what it was, and the only VLAN is the default one, which the
agent has noted if it came to. -/
theorem vlans_of_creates (hE : StoreSai E view) (h : CreatesSwitch E rt w) :
    (worldOf (EStateM.run (saiSwitchInit E rt) w)).state.vlanList = w.state.vlanList ∧
      ∃ v o, (view (worldOf (EStateM.run (saiSwitchInit E rt) w)).env).vlans =
          Function.update (fun _ ↦ none) v (some o) ∧
        (view (worldOf (EStateM.run (saiSwitchInit E rt) w)).env).defaultVlan = o ∧
        (LearnsDefault E rt w →
          (worldOf (EStateM.run (saiSwitchInit E rt) w)).state.swInfo.defaultVlanOid = o) := by
  have hkeeps : Keeps (vlanView view) (saiSwitchQuery E) :=
    keeps_saiSwitchQuery (quiet_vlanView hE) (fun _ _ ↦ rfl) (fun _ _ ↦ rfl) fun _ _ _ _ ↦ rfl
  have hview := hkeeps (createdWorld E w)
  obtain ⟨v, o, -, hvlans, hdefault⟩ := hE.createSwitch 3 createSwitchAttr _ h.created
  have hpart := congrArg Prod.snd hview
  rw [run_saiSwitchInit_of_creates h]
  refine ⟨congrArg Prod.fst hview, v, o, (congrArg Prod.fst hpart).trans hvlans,
    (congrArg (fun p ↦ p.2.2) hpart).trans hdefault, fun hl ↦ ?_⟩
  rw [defaultVlanOid_saiSwitchQuery, if_pos ⟨hl.answered, hl.bridge, hl.vlan⟩]
  exact (hE.getDefaultVlan _ _ hl.answered).trans hdefault

/-- Without a note of it, `sw_info` names the default VLAN it named. -/
theorem defaultVlanOid_of_not_learns (hE : StoreSai E view) (h : ¬LearnsDefault E rt w) :
    (worldOf (EStateM.run (saiSwitchInit E rt) w)).state.swInfo.defaultVlanOid =
      w.state.swInfo.defaultVlanOid := by
  by_cases hc : CreatesSwitch E rt w
  · rw [run_saiSwitchInit_of_creates hc, defaultVlanOid_saiSwitchQuery,
      if_neg fun hl ↦ h ⟨hc, hl.1, hl.2.1, hl.2.2⟩]
    rfl
  · exact congrArg Prod.snd (initView_saiSwitchInit hE hc)

/-- What `sai_vlan_default_init` caches is a VLAN with its id. -/
theorem vidOf_saiVlanDefaultInit (hE : StoreSai E view) (rt : Runtime) (w : World σ) :
    (worldOf (EStateM.run (saiVlanDefaultInit E rt) w)).state.vlanList = w.state.vlanList ∨
      ∃ e, (view w.env).vidOf e.oid = some e.id ∧
        (worldOf (EStateM.run (saiVlanDefaultInit E rt) w)).state.vlanList =
            e :: w.state.vlanList := by
  rcases h₁ : (E (.saiApiQuery .vlan) w.env).1.ok with _ | _
  · rw [saiVlanDefaultInit, run_saiRetErr_plainCall_of_refused h₁]
    exact Or.inl rfl
  have hrun : EStateM.run (saiVlanDefaultInit E rt) w = _ := run_saiRetErr_plainCall_of_ok h₁
  rw [run_getState_bind, OracleWorld.asked_state] at hrun
  by_cases hnull : w.state.swInfo.defaultVlanOid = saiNullObjectId
  · rw [hrun, if_pos hnull]
    exact Or.inl rfl
  rw [if_neg hnull] at hrun
  rcases h₂ : (E (.getVlanAttribute w.state.swInfo.defaultVlanOid 1 vlanIdQuery)
      (w.asked E (.saiApiQuery .vlan)).env).1.ok with _ | _
  · rw [hrun.trans (run_saiRetErr_of_refused h₂ rfl rfl)]
    exact Or.inl rfl
  have hvid := hE.getVlanId _ _ h₂
  rw [show view (w.asked E (.saiApiQuery .vlan)).env = view w.env from hE.read _ _ rfl] at hvid
  rw [hrun.trans (run_saiRetErr_of_ok h₂ rfl), saiagentVlanAddNew]
  rcases rt.vlanInfoCalloc with _ | _
  · exact Or.inl rfl
  · exact Or.inr ⟨⟨_, w.state.swInfo.defaultVlanOid⟩, hvid, rfl⟩

/-- The same for `saiagent_vlan_init`: what it does after that is to register handlers. -/
theorem vidOf_saiagentVlanInit (hE : StoreSai E view) (rt : Runtime) (w : World σ) :
    (worldOf (EStateM.run (saiagentVlanInit E rt) w)).state.vlanList = w.state.vlanList ∨
      ∃ e, (view w.env).vidOf e.oid = some e.id ∧
        (worldOf (EStateM.run (saiagentVlanInit E rt) w)).state.vlanList =
            e :: w.state.vlanList := by
  have hset : ∀ type cb, Keeps (fun w : World σ ↦ w.state.vlanList)
      (saiagentIpcCbSet type cb : AgentM σ Rc) := fun _ _ ↦ keeps_saiagentIpcCbSet fun _ ↦ rfl
  rw [saiagentVlanInit, EStateM.run_bind, run_ask]
  dsimp only
  split
  · exact Or.inl rfl
  have hcase := vidOf_saiVlanDefaultInit hE rt (w.asked E (.saiLogSet .vlan .debug))
  rw [show view (w.asked E (.saiLogSet .vlan .debug)).env = view w.env from hE.read
    _ _ rfl] at hcase
  rwa [worldOf_bind_of_keeps (f := fun w : World σ ↦ w.state.vlanList)
    (fun status ↦ Keeps.ite (Keeps.pure _) (Keeps.bind (hset _ _) fun _ ↦ Keeps.bind (hset _ _)
        fun _ ↦ Keeps.bind (hset _ _) fun _ ↦
      Keeps.bind (hset _ _) fun _ ↦ Keeps.bind (hset _ _) fun _ ↦ Keeps.pure _))]

/-- How `saiagent_vlan_init` fares after `sai_switch_init`, with this default VLAN. -/
def vlanInitOutcome (E : SaiBackend σ) (rt : Runtime) (w : World σ) (oid : Oid) :
    Outcome SaiCall SaiResp Verdict :=
  ((vlanInitPlan rt oid).exec SaiResp.ok retried E
    ((switchPlan rt w.state fun _ ↦ .done .complete).exec SaiResp.ok retried E w.env).env).outcome

/-- The default VLAN `sw_info` names after `sai_switch_init`. -/
def Notes (E : SaiBackend σ) (rt : Runtime) (w : World σ) (oid : Oid) : Prop :=
  (LearnsDefault E rt w → oid = (attrValue (switchAnswer E (createdWorld E w)).attr 2).getOid) ∧
    (¬LearnsDefault E rt w → oid = w.state.swInfo.defaultVlanOid)

theorem notes_saiSwitchInit (hE : StoreSai E view) :
    Notes E rt w (worldOf (EStateM.run (saiSwitchInit E rt) w)).state.swInfo.defaultVlanOid := by
  refine ⟨fun h ↦ ?_, defaultVlanOid_of_not_learns hE⟩
  rw [run_saiSwitchInit_of_creates h.creates, defaultVlanOid_saiSwitchQuery,
    if_pos ⟨h.answered, h.bridge, h.vlan⟩]

/-- The initialisers other than that of the VLANs do not register VLAN_PORT_SET. -/
theorem vlanPortSet_registerAll (a : Agent) {handlers : List Handler}
    (h : ∀ handler ∈ handlers, handler ≠ .vlanPortSet) :
    (a.registerAll handlers).ipcCbList PresteraCmdType.vlanPortSet =
      a.ipcCbList PresteraCmdType.vlanPortSet :=
  a.registerAll_of_not_mem fun handler hmem e ↦
    h handler hmem (Handler.cmdType_injective (h := .vlanPortSet) e)

theorem ne_vlanPortSet_of_mem (status : SaiStatus) :
    ∀ handler ∈ (if status = saiStatusSuccess then switchHandlers else []),
        handler ≠ .vlanPortSet := by
  split
  · decide
  · exact fun _ h ↦ absurd h List.not_mem_nil

/-- `sai_switch_init` registers nothing. -/
theorem ipcCbList_saiSwitchInit :
    (worldOf (EStateM.run (saiSwitchInit E rt) w)).state.ipcCbList = w.state.ipcCbList :=
  keeps_saiSwitchInit (f := fun w : World σ ↦ w.state.ipcCbList) (fun _ _ ↦ rfl) (fun _ _ ↦ rfl)
    (fun _ _ ↦ rfl) (fun _ _ ↦ rfl) (fun _ _ _ _ ↦ rfl) w

/-- `saiagent_vlan_init` was told of a success and has cached nothing. -/
def Believes (E : SaiBackend σ) (rt : Runtime) (w : World σ) (oid : Oid) : Prop :=
  rt.switchInitStatus = rcStatusOk ∧ vlanInitOutcome E rt w oid ≠ .finished .complete ∧
    settled (vlanInitOutcome E rt w oid) = some true

/-- The initialisers after `sai_switch_init`, where its unassigned status lets them run. -/
theorem vlanView_processSwitchInit_of_eq (hE : StoreSai E view) (hr : IsReply reply)
    {status : SaiStatus} (hsg : rt.switchInitStatus = rcStatusOk)
    (hrun : EStateM.run (saiSwitchInit E rt) w = .ok status w') :
    let oid := w'.state.swInfo.defaultVlanOid
    let final := worldOf (EStateM.run (saiagentIpcProcessSwitchInit E rt request reply) w)
    (vlanView view final = vlanView view w' ∧
      (final.state.ipcCbList PresteraCmdType.vlanPortSet = w.state.ipcCbList
        PresteraCmdType.vlanPortSet ∨ Believes E rt w oid)) ∨
      (vlanInitOutcome E rt w oid = .finished .complete ∧ ∃ id, (view w'.env).vidOf oid = some id ∧
        vlanView view final = (⟨id, oid⟩ :: w'.state.vlanList, (view w'.env).vlanPart)) := by
  have htable := @ipcCbList_saiSwitchInit σ E rt w
  have henv := (@executes_saiSwitchInit σ E rt w).env
  rw [hrun, worldOf_ok] at htable henv
  obtain ⟨r, w₃, hreply, -, hvlan⟩ := run_processSwitchInit_of_eq request hsg hr hrun
  obtain ⟨rc, hinit⟩ := hvlan.run
  have hpart := (keeps_saiagentVlanInit (f := fun w : World σ ↦ (view w.env).vlanPart)
    (fun w c hc ↦ hE.vlanPart_eq hc w.env) (fun _ _ ↦ rfl) fun _ _ _ ↦ rfl).eq_of_ok hinit
  have hcached := vidOf_saiagentVlanInit hE rt (w'.mapState fun a ↦ a.registerAll
    ((if status = saiStatusSuccess then switchHandlers else []) ++ (portHandlers ++ fdbHandlers)))
  rw [hinit] at hcached
  rw [hreply]
  simp only [worldOf_ok, vlanView, OracleWorld.mapState_state, OracleWorld.mapState_env,
    Agent.registerAll_vlanList] at hpart hcached ⊢
  rw [henv] at hvlan
  obtain ⟨ho, id, hstate⟩ | ⟨ho, hstate⟩ := hvlan.state
  · -- The default VLAN was asked for its id and cached.
    have hlist : w₃.state.vlanList = ⟨id, w'.state.swInfo.defaultVlanOid⟩ :: w'.state.vlanList := by
      rw [hstate]
      simp [Agent.pushVlan]
    rw [hlist] at hcached ⊢
    obtain hsame | ⟨e, he, hcons⟩ := hcached
    · exact absurd hsame (List.cons_ne_self _ _)
    · obtain ⟨rfl, -⟩ := List.cons.inj hcons
      exact Or.inr ⟨ho, id, he, by rw [hpart]⟩
  · -- It was not; the handlers are registered all the same where a repeated call succeeded.
    have hlist : w₃.state.vlanList = w'.state.vlanList := by
      rw [hstate]
      simp
    refine Or.inl ⟨Prod.ext hlist hpart, ?_⟩
    rw [vlanPortSet_registerAll w₃.state (by decide), hstate]
    by_cases hsettled : settled (vlanInitOutcome E rt w w'.state.swInfo.defaultVlanOid) = some true
    · exact Or.inr ⟨hsg, ho, hsettled⟩
    · left
      rw [vlanInitOutcome] at hsettled
      rw [if_neg hsettled]
      have hrest : ∀ handler ∈ portHandlers ++ fdbHandlers, handler ≠ .vlanPortSet := by decide
      exact (vlanPortSet_registerAll w'.state
        (List.forall_mem_append.2 ⟨ne_vlanPortSet_of_mem status, hrest⟩)).trans (congrFun htable _)

/-- **The whole request**: what `sai_switch_init` leaves, or on top of it a new entry for the VLAN
`sw_info` names as the default one. Without that entry, VLAN_PORT_SET is registered only if
`saiagent_vlan_init` believes it made one. -/
theorem vlanView_processSwitchInit (hE : StoreSai E view) (hr : IsReply reply) (w : World σ) :
    let w' := worldOf (EStateM.run (saiSwitchInit E rt) w)
    let oid := w'.state.swInfo.defaultVlanOid
    let final := worldOf (EStateM.run (saiagentIpcProcessSwitchInit E rt request reply) w)
    (vlanView view final = vlanView view w' ∧
      (final.state.ipcCbList PresteraCmdType.vlanPortSet = w.state.ipcCbList
        PresteraCmdType.vlanPortSet ∨ Believes E rt w oid)) ∨
      (rt.switchInitStatus = rcStatusOk ∧ vlanInitOutcome E rt w oid = .finished .complete ∧
        ∃ id, (view w'.env).vidOf oid = some id ∧
          vlanView view final = (⟨id, oid⟩ :: w'.state.vlanList, (view w'.env).vlanPart)) := by
  have htable := @ipcCbList_saiSwitchInit σ E rt w
  rcases hrun : EStateM.run (saiSwitchInit E rt) w with ⟨status, w'⟩ | ⟨e, w'⟩
  · by_cases hsg : rt.switchInitStatus = rcStatusOk
    · obtain h | h := @vlanView_processSwitchInit_of_eq σ E rt w w' view request reply hE hr status
        hsg hrun
      · exact Or.inl h
      · exact Or.inr ⟨hsg, h⟩
    · -- The group reports a failure, and nothing is asked for the VLAN.
      rw [hrun, worldOf_ok] at htable
      obtain ⟨r, hreply, -⟩ := run_processSwitchInit_of_ne request hsg hr hrun
      rw [hreply]
      refine Or.inl ⟨congrArg (·, _) (Agent.registerAll_vlanList _ _), Or.inl ?_⟩
      exact (vlanPortSet_registerAll _ (ne_vlanPortSet_of_mem status)).trans (congrFun htable _)
  · rw [hrun, worldOf_error] at htable
    rw [run_processSwitchInit_of_fault hrun]
    exact Or.inl ⟨rfl, Or.inl (congrFun htable _)⟩

/-! ### Handlers -/

/-- The VLAN id of a VLAN_PORT_SET. -/
abbrev vlanIdOf (request : SaiagentMsg) : UInt16 :=
  (PresteraMsgVlanReq.ofBuff (request.buff.getD [])).vid

/-- After `sai_vlan_add_port_member`, VLAN_PORT_SET acknowledges. -/
theorem worldOf_vlanPortSet (w : World σ) :
    worldOf (EStateM.run (Handler.vlanPortSet.run E rt request reply) w) =
      worldOf (EStateM.run (saiVlanAddPortMember E rt (vlanIdOf request) (vlanPortOf request)
        ((PresteraMsgVlanReq.ofBuff (request.buff.getD [])).isTagged ≠ 0)) w) :=
  worldOf_bind_of_keeps (f := fun w : World σ ↦ w) (fun _ ↦ Keeps.ite (Keeps.lift _)
    (Keeps.lift _)) w

/-- The other requests leave the cache and the VLANs alone. -/
theorem vlanView_handler (hE : StoreSai E view) {handler : Handler} (hport : handler ≠ .vlanPortSet)
    (hinit : handler ≠ .switchInit) (hreset : handler ≠ .switchReset) (w : World σ) :
    vlanView view (worldOf (EStateM.run (handler.run E rt request reply) w)) = vlanView view w :=
  keeps_handler (quiet_vlanView hE) (fun h ↦ absurd h hreset) (fun h ↦ absurd h hport)
    (fun _ _ _ ↦ rfl) (fun _ _ _ ↦ rfl) (fun _ _ ↦ rfl) hinit request reply w

/-! ### What is cached was a VLAN -/

theorem saiagentVlanGet_cons (e : VlanInfo) (list : List VlanInfo) (v : UInt16) :
    saiagentVlanGet (e :: list) v = if e.id = v then some e else saiagentVlanGet list v := by
  rw [saiagentVlanGet, List.find?_cons]
  by_cases h : e.id = v
  · rw [if_pos h, decide_eq_true h]
  · rw [if_neg h, decide_eq_false h]
    rfl

theorem mem_of_saiagentVlanGet {e : VlanInfo} {list : List VlanInfo} {v : UInt16}
    (h : saiagentVlanGet list v = some e) : e ∈ list ∧ e.id = v :=
  ⟨List.mem_of_find?_eq_some h, of_decide_eq_true
    (List.find?_some (p := fun e : VlanInfo ↦ e.id = v) h)⟩

variable (view) in
/-- Every entry names an object that is or was a VLAN with its id. -/
def Known (w : World σ) : Prop := ∀ e ∈ w.state.vlanList, (view w.env).vidOf e.oid = some e.id

/-- An object once used stays used. -/
theorem vidOf_worldOf_saiSwitchInit (hE : StoreSai E view) {o : Oid} {v : UInt16}
    (h : (view w.env).vidOf o = some v) :
    (view (worldOf (EStateM.run (saiSwitchInit E rt) w)).env).vidOf o = some v := by
  rw [(@executes_saiSwitchInit σ E rt w).env]
  exact exec_env_of_forall (J := fun s ↦ (view s).vidOf o = some v)
    (fun c s hs ↦ hE.vidOf_mono c s hs) _ _ h

theorem known_iff_of_vlanView {list : List VlanInfo} {S : SaiStore}
    (h : vlanView view w = (list, S.vlanPart)) :
    Known view w ↔ ∀ e ∈ list, S.vidOf e.oid = some e.id := by
  have hlist : w.state.vlanList = list := congrArg Prod.fst h
  have hvid : (view w.env).vidOf = S.vidOf := congrArg (fun p ↦ p.2.2.1) h
  rw [Known, hlist, hvid]

theorem known_congr (h : vlanView view w' = vlanView view w) (hk : Known view w) : Known view w' :=
  (known_iff_of_vlanView h).2 hk

/-- A VLAN added under a new identifier leaves the ids of the others as they are. -/
theorem vidOf_addVlan {S : SaiStore} {v v' : UInt16} {o o' : Oid} (h : S.vidOf o = none)
    (ho : S.vidOf o' = some v') : (S.addVlan v o h).vidOf o' = some v' := by
  have hne : o' ≠ o := by
    rintro rfl
    cases h.symm.trans ho
  exact (Function.update_of_ne hne ..).trans ho

/-- `sai_vlan_add_port_member` caches what it created. -/
theorem preserves_known_saiVlanAddPortMember (hE : StoreSai E view) (vid : UInt16) (port : UInt32)
    (tag : Bool) : Preserves (Known view) (saiVlanAddPortMember E rt vid port tag) := by
  intro w hk
  obtain ⟨hsame, hnew⟩ := @vlanView_saiVlanAddPortMember _ E rt _ hE w vid port tag
  by_cases hc : CreatesVlan E w vid port
  · obtain ⟨-, o, ho, hview⟩ := hnew hc
    have hold : ∀ e ∈ w.state.vlanList, ((view w.env).addVlan vid o ho).vidOf e.oid = some e.id :=
      fun e he ↦ vidOf_addVlan ho (hk e he)
    refine (known_iff_of_vlanView hview).2 fun e he ↦ ?_
    split at he
    · obtain rfl | he := List.mem_cons.1 he
      · exact Function.update_self ..
      · exact hold e he
    · exact hold e he
  · exact known_congr (hsame hc) hk

theorem known_vlanPortSet (hE : StoreSai E view) (hk : Known view w) :
    Known view (worldOf (EStateM.run (Handler.vlanPortSet.run E rt request reply) w)) := by
  rw [worldOf_vlanPortSet]
  exact preserves_known_saiVlanAddPortMember hE _ _ _ w hk

theorem known_switchInit (hE : StoreSai E view) (hr : IsReply reply) (hk : Known view w) :
    Known view (worldOf (EStateM.run (Handler.switchInit.run E rt request reply) w)) := by
  have hinit : Known view (worldOf (EStateM.run (saiSwitchInit E rt) w)) := by
    have hlist : (worldOf (EStateM.run (saiSwitchInit E rt) w)).state.vlanList = w.state.vlanList :=
      keeps_saiSwitchInit (f := fun w : World σ ↦ w.state.vlanList) (fun _ _ ↦ rfl) (fun _ _ ↦ rfl)
        (fun _ _ ↦ rfl) (fun _ _ ↦ rfl) (fun _ _ _ _ ↦ rfl) w
    intro e he
    rw [hlist] at he
    exact vidOf_worldOf_saiSwitchInit hE (hk e he)
  obtain ⟨hsame, -⟩ | ⟨-, -, id, hid, hview⟩ :=
    @vlanView_processSwitchInit σ E rt view request reply hE hr w
  · exact known_congr hsame hinit
  · refine (known_iff_of_vlanView hview).2 fun e he ↦ ?_
    obtain rfl | he := List.mem_cons.1 he
    · exact hid
    · exact hinit e he

/-- No call takes an identifier back. -/
theorem preserves_known_ask (hE : StoreSai E view) (c : SaiCall) :
    Preserves (Known view) (ask E c : AgentM σ SaiResp) :=
  fun w hk e he ↦ hE.vidOf_mono c w.env (hk e he)

/-- A removed switch takes no identifier back. -/
theorem known_switchReset (hE : StoreSai E view) (hk : Known view w) :
    Known view (worldOf (EStateM.run (Handler.switchReset.run E rt request reply) w)) := by
  have hkeeps : ∀ {α : Type} {p : AgentM σ α}, Keeps (vlanView view) p → Preserves (Known view) p :=
    fun h w hw ↦ known_congr (h w) hw
  show Known view (worldOf (EStateM.run (saiagentIpcProcessSwitchReset E rt request reply) w))
  rw [saiagentIpcProcessSwitchReset, run_getState_bind]
  refine Preserves.ite ?_ (hkeeps (Keeps.lift _)) w hk
  refine Preserves.bind (hkeeps (keeps_saiagentThreadStop (fun _ _ ↦ rfl) _)) fun _ ↦
    Preserves.bind (preserves_known_ask hE _) fun r ↦ Preserves.ite (Preserves.fault _) ?_
  exact Preserves.bind (preserves_known_ask hE _) fun _ ↦ hkeeps
    (Keeps.bind (keeps_saiagentThreadDestroy (fun _ _ ↦ rfl) _) fun _ ↦
      Keeps.bind (Keeps.bind (Keeps.modState fun _ ↦ rfl) fun _ ↦ Keeps.pure _)
        fun _ ↦ Keeps.lift _)

/-- **Every handler keeps it**, whatever SAI refuses. -/
theorem preserves_known (hE : StoreSai E view) (hr : IsReply reply) (handler : Handler) :
    Preserves (Known view) (handler.run E rt request reply) := by
  intro w hk
  by_cases hport : handler = .vlanPortSet
  · subst hport
    exact known_vlanPortSet hE hk
  by_cases hinit : handler = .switchInit
  · subst hinit
    exact known_switchInit hE hr hk
  by_cases hreset : handler = .switchReset
  · subst hreset
    exact known_switchReset hE hk
  · exact known_congr (vlanView_handler hE hport hinit hreset w) hk

/-- And every request. -/
theorem known_step (hE : StoreSai E view) {s : Session σ} (i : SessionInput)
    (hs : Known view s.world) : Known view (s.step E i).world := by
  rw [Session.step_world]
  rcases hsel : selected s.world.state.ipcCbList i.buf.bytes i.size with _ | handler
  · obtain ⟨reply, h⟩ := Session.handle_of_not_selected (E := E) hsel
    rw [h]
    exact hs
  · rw [Session.handle_of_selected hsel]
    exact preserves_known hE (isReply_freshReply i.out.length_eq) handler _ hs

variable (E) in
/-- **In every state of a session**, what is cached was a VLAN. -/
theorem known_exec (hE : StoreSai E view) (env : σ) (is : List SessionInput) :
    Known view (Session.exec E (Session.start env) is).world :=
  exec_invariant_of_all (J := fun s : Session σ ↦ Known view s.world)
    (fun _ i _ hs ↦ known_step hE i hs) is (Session.start env) nofun

end SaiAgent
