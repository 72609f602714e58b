import SaiAgent.Properties.PortCommute

/-!
# Who is a member of a VLAN

VLAN_PORT_SET carries `is_member` and `is_tagged`. Over a SAI that refuses only what it cannot do,
`sai_vlan_add_port_member` puts a port into a VLAN exactly when there is a VLAN it can use, or one
it can create and cache, and the port is not in it (`Joinable`). `honoured_iff` says whether the
members of the VLANs are those the acknowledged requests asked for.
-/

namespace SaiAgent

open Effects Effects.Proc Effects.Run

variable {σ : Type} {E : SaiBackend σ} {view : σ → SaiStore} {accepts : SaiCall → Bool}
  {rt : Runtime} {w w' : World σ} {list : List VlanInfo} {S S' : SaiStore}
  {v vid : UInt16} {b : Oid} {mode : Int32} {tag : Bool} {port : UInt32}

/-! ### Joining a VLAN -/

/-- The port can be put into the VLAN: it is cached, is the switch's and does not have the port;
or it is neither cached nor there, and can be created and cached. -/
def Joinable (accepts : SaiCall → Bool) (view : σ → SaiStore) (rt : Runtime) (w : World σ)
    (v : UInt16) (b : Oid) : Prop :=
  (∃ e, saiagentVlanGet w.state.vlanList v = some e ∧ (view w.env).vlans v = some e.oid ∧
    (view w.env).members e.oid b = none) ∨
  (saiagentVlanGet w.state.vlanList v = none ∧ (view w.env).vlans v = none ∧
    accepts (createVlanCall w.state.swInfo.switchOid v) = true ∧ rt.vlanInfoCalloc = true)

/-- It is put in exactly then. -/
theorem put_settingsOf_iff (hk : Known view w) :
    (((settingsOf view w).slots v).put (accepts (createVlanCall w.state.swInfo.switchOid v))
      rt.vlanInfoCalloc b mode).1 = true ↔ Joinable accepts view rt w v b := by
  show ((slotOf w.state.vlanList (view w.env) v).put _ _ b mode).1 = true ↔ _
  rcases hlook : saiagentVlanGet w.state.vlanList v with _ | e
  · have hcached : (slotOf w.state.vlanList (view w.env) v).cached = none :=
      (slotOf_of_uncached hlook).1
    have hjoin : Joinable accepts view rt w v b ↔ (view w.env).vlans v = none ∧
        accepts (createVlanCall w.state.swInfo.switchOid v) = true ∧ rt.vlanInfoCalloc = true := by
      simp [Joinable, hlook]
    rw [hjoin, ← (slotOf_of_uncached (S := view w.env) hlook).2]
    rcases hslot : slotOf w.state.vlanList (view w.env) v with ⟨_ | members, cached⟩
    · rw [hslot] at hcached
      obtain rfl : cached = none := hcached
      rcases accepts (createVlanCall w.state.swInfo.switchOid v) with _ | _
      · simp [VlanSlot.put_refused]
      · rcases rt.vlanInfoCalloc with _ | _
        · simp [VlanSlot.put_orphaned]
        · simp [VlanSlot.put_created]
    · rw [hslot] at hcached
      obtain rfl : cached = none := hcached
      simp [VlanSlot.put_uncached]
  · have hjoin : Joinable accepts view rt w v b ↔ (view w.env).vlans v = some e.oid ∧
        (view w.env).members e.oid b = none := by
      simp [Joinable, hlook]
    rw [hjoin]
    obtain ⟨hmem, -⟩ := mem_of_saiagentVlanGet hlook
    obtain ⟨-, hv, hslot⟩ | ⟨hvlan, members, hslot⟩ := slotOf_of_cached hlook (hk e hmem)
    · rw [hslot, VlanSlot.put_cached]
      rcases hm : (view w.env).members e.oid b with _ | m <;> simp [hv]
    · -- The cached VLAN is one the switch no longer has.
      rw [hslot, VlanSlot.put_stale]
      exact iff_of_false nofun fun h ↦ hvlan ⟨v, h.1⟩

/-- What is there under the id then. -/
theorem VlanSlot.put_of_fst {slot : VlanSlot} {creatable mem : Bool}
    (h : (slot.put creatable mem b mode).1 = true) :
    ∃ members, (slot.put creatable mem b mode).2 = ⟨some (Function.update members b (some mode)),
      some true⟩ ∧ (slot.members.getD fun _ ↦ none) = members := by
  rcases slot with ⟨_ | members, _ | _ | _⟩
  · rcases creatable with _ | _
    · cases h
    · rcases mem with _ | _
      · cases h
      · exact ⟨_, rfl, rfl⟩
  · cases h
  · cases h
  · cases h
  · cases h
  · rw [put_cached] at h ⊢
    split at h
    · rw [if_pos ‹_›]
      exact ⟨members, rfl, rfl⟩
    · cases h

/-- The tagging mode a bridge port has in a VLAN, if it is in it. -/
def SaiStore.memberMode (S : SaiStore) (v : UInt16) (b : Oid) : Option Int32 :=
  (S.vlans v).bind fun o ↦ (S.members o b).map Prod.snd

theorem memberMode_eq : S.memberMode v b = ((slotOf list S v).members.getD fun _ ↦ none) b := by
  rw [SaiStore.memberMode, slotOf]
  rcases S.vlans v with _ | _ <;> rfl

/-- VLAN_PORT_SET takes effect: SAI hands out its methods, the port can be put into the VLAN, and
can be enabled. -/
structure TakesEffect (accepts : SaiCall → Bool) (view : σ → SaiStore) (rt : Runtime) (w : World σ)
    (v : UInt16) (b : Oid) : Prop where
  vlanApi : accepts (.saiApiQuery .vlan) = true
  bridgeApi : accepts (.saiApiQuery .bridge) = true
  joinable : Joinable accepts view rt w v b
  enabled : accepts (enableCall b) = true

/-- What it changes then. -/
structure Joined (S S' : SaiStore) (vid : UInt16) (b : Oid) (mode : Int32) : Prop where
  memberMode : ∀ v' b', S'.memberMode v' b' = if v' = vid ∧ b' = b then some mode
    else S.memberMode v' b'
  brPortUp : S'.brPortUp = Function.update S.brPortUp b true

/-- The step of VLAN_PORT_SET succeeds exactly then. -/
theorem step_vlanPortSet_iff (hk : Known view w) :
    ((settingsOf view w).step accepts w.state.swInfo.switchOid
      (.vlanPortSet v b mode rt.vlanInfoCalloc)).1 = true ↔ TakesEffect accepts view rt w v b := by
  rcases h₁ : accepts (.saiApiQuery .vlan) with _ | _
  · refine iff_of_false ?_ fun h ↦ by cases h₁.symm.trans h.vlanApi
    rw [VlanModel.step, h₁]
    exact Bool.false_ne_true
  rcases h₂ : accepts (.saiApiQuery .bridge) with _ | _
  · refine iff_of_false ?_ fun h ↦ by cases h₂.symm.trans h.bridgeApi
    rw [VlanModel.step, h₁, h₂]
    exact Bool.false_ne_true
  · rw [VlanModel.step_of_queries h₁ h₂, Bool.and_eq_true, put_settingsOf_iff hk]
    exact ⟨fun h ↦ ⟨h₁, h₂, h.1, h.2⟩, fun h ↦ ⟨h.joinable, h.enabled⟩⟩

/-- And changes that. -/
theorem joined_of_step (h : TakesEffect accepts view rt w v b) (hk : Known view w)
    (hx : settingsOf view w' = ((settingsOf view w).step accepts w.state.swInfo.switchOid
      (.vlanPortSet v b mode rt.vlanInfoCalloc)).2) :
    Joined (view w.env) (view w'.env) v b mode := by
  have hput := (@put_settingsOf_iff σ view accepts rt w v b mode hk).2 h.joinable
  obtain ⟨members, hmembers, hold⟩ := VlanSlot.put_of_fst hput
  rw [VlanModel.step_of_queries h.vlanApi h.bridgeApi, hput, hmembers, h.enabled] at hx
  have hslots : slotOf w'.state.vlanList (view w'.env) = Function.update
      (slotOf w.state.vlanList (view w.env)) v ⟨some (Function.update members b (some mode)),
        some true⟩ := congrArg VlanModel.slots hx
  refine ⟨fun v' b' ↦ ?_, ?_⟩
  · rw [@memberMode_eq w'.state.vlanList, @memberMode_eq w.state.vlanList, hslots]
    by_cases hv : v' = v
    · rw [hv, Function.update_self]
      show Function.update members b _ b' = _
      rw [Function.update_apply]
      by_cases hb : b' = b
      · rw [if_pos hb, if_pos ⟨rfl, hb⟩]
      · rw [if_neg hb, if_neg fun hc ↦ hb hc.2]
        exact (congrFun hold b').symm
    · rw [Function.update_of_ne hv, if_neg fun hc ↦ hv hc.1]
  · exact congrArg VlanModel.brPortUp hx

/-- **`sai_vlan_add_port_member` succeeds exactly when it takes effect.** -/
theorem run_saiVlanAddPortMember (hE : ExactSai E view accepts) (hk : Known view w)
    (hget : w.state.swInfo.brPortList.get port.toNat = .ok b)
    (hb : b ≠ saiNullObjectId) (rt : Runtime) (vid : UInt16) (tag : Bool) :
    ∃ status w', EStateM.run (saiVlanAddPortMember E rt vid port tag) w = .ok status w' ∧
      (status = saiStatusSuccess ↔ TakesEffect accepts view rt w vid b) ∧
      (status = saiStatusSuccess → Joined (view w.env) (view w'.env) vid b (modeOf tag)) := by
  obtain ⟨status, w', hrun, hst, list, hstate, hx⟩ :=
    @returns_saiVlanAddPortMember σ E view accepts rt w.state (view w.env) vid b tag hE hk port
      hget hb w ⟨rfl, rfl⟩
  have hiff : status = saiStatusSuccess ↔ TakesEffect accepts view rt w vid b :=
    hst.trans (step_vlanPortSet_iff hk)
  refine ⟨status, w', hrun, hiff, fun h ↦ joined_of_step (hiff.1 h) hk ?_⟩
  rw [settingsOf, hstate]
  exact hx

/-! ### What is acknowledged -/

/-- The request in a buffer. -/
def vlanReqOf (i : SessionInput) : PresteraMsgVlanReq := PresteraMsgVlanReq.ofBuff i.buf.bytes

/-- **What VLAN_PORT_SET is for**: the port is a member of the VLAN if `is_member` says so,
tagged if `is_tagged` says so, and nothing else changes. -/
structure Honoured (b : Oid) (S S' : SaiStore) (req : PresteraMsgVlanReq) : Prop where
  member : (S'.memberMode req.vid b).isSome = true ↔ req.isMember ≠ 0
  tagged : ∀ t, S'.memberMode req.vid b = some t → (t = saiVlanTaggingModeTagged ↔ req.isTagged ≠ 0)
  others : ∀ v' b', ¬(v' = req.vid ∧ b' = b) → S'.memberMode v' b' = S.memberMode v' b'

/-- A VLAN_PORT_SET that is acknowledged is honoured. -/
def Honours (E : SaiBackend σ) (view : σ → SaiStore) (s : Session σ) (i : SessionInput) : Prop :=
  selected s.world.state.ipcCbList i.buf.bytes i.size = some .vlanPortSet →
    ∀ reply w', Session.handle E s.world i = .ok reply w' → replyStatus reply = presteraCmdAckOk →
      ∃ b, s.world.state.swInfo.brPortList.get (vlanReqOf i).port.toNat = .ok b ∧
        Honoured b (view s.world.env) (view w'.env) (vlanReqOf i)

/-- A VLAN_PORT_SET that takes effect asks for a member. -/
def AsksForMember (accepts : SaiCall → Bool) (view : σ → SaiStore) (s : Session σ)
    (i : SessionInput) : Prop :=
  selected s.world.state.ipcCbList i.buf.bytes i.size = some .vlanPortSet →
    (∃ b, s.world.state.swInfo.brPortList.get (vlanReqOf i).port.toNat = .ok b ∧
      b ≠ saiNullObjectId ∧ TakesEffect accepts view i.rt s.world (vlanReqOf i).vid b) →
    (vlanReqOf i).isMember ≠ 0

/-- A new member is tagged if that was asked for. -/
theorem modeOf_eq_tagged : modeOf tag = saiVlanTaggingModeTagged ↔ tag = true := by
  rcases tag with _ | _ <;> decide

/-- What was asked for is a member, with the mode that was asked for. -/
theorem honoured_iff_of_joined {req : PresteraMsgVlanReq}
    (h : Joined S S' req.vid b (modeOf (req.isTagged ≠ 0))) : Honoured b S S' req ↔
        req.isMember ≠ 0 := by
  have hmode : S'.memberMode req.vid b = some (modeOf (req.isTagged ≠ 0)) := by
    rw [h.memberMode, if_pos ⟨rfl, rfl⟩]
  constructor
  · intro hh
    exact hh.member.1 (by rw [hmode]; rfl)
  · intro hne
    refine ⟨iff_of_true (by rw [hmode]; rfl) hne, fun t ht ↦ ?_, fun v' b' hother ↦ ?_⟩
    · obtain rfl := Option.some.inj (hmode.symm.trans ht)
      rw [modeOf_eq_tagged, decide_eq_true_iff]
    · rw [h.memberMode, if_neg hother]

/-- A call that succeeds has found a bridge port. -/
theorem brPort_of_success (hE : ExactSai E view accepts)
    (hrun : EStateM.run (saiVlanAddPortMember E rt vid port tag) w = .ok saiStatusSuccess w') :
    ∃ b, w.state.swInfo.brPortList.get port.toNat = .ok b ∧ b ≠ saiNullObjectId := by
  -- A refused query is asked once more, and refused again.
  have hquery : ∀ {api : SaiApi} {rest : Unit → AgentM σ SaiStatus} {w : World σ},
      EStateM.run (saiRetErr (plainCall E (.saiApiQuery api)) () rest) w = .ok saiStatusSuccess w' →
        EStateM.run (rest ()) (w.asked E (.saiApiQuery api)) = .ok saiStatusSuccess w' := by
    intro api rest w h
    rcases hok : (E (.saiApiQuery api) w.env).1.ok with _ | _
    · rw [run_saiRetErr_plainCall_of_refused hok] at h
      injection h with hstatus
      have hagain : (E (.saiApiQuery api) (w.asked E (.saiApiQuery api)).env).1.ok = false := by
        rw [hE.query_ok, ← hE.query_ok api w.env]
        exact hok
      exact absurd hstatus (SaiResp.ok_eq_false_iff.1 hagain)
    · rw [run_saiRetErr_plainCall_of_ok hok] at h
      exact h
  obtain ⟨b, w₁, hfind, hrest⟩ := run_bind_eq_ok.1 (hquery (hquery hrun))
  have hget : lift (w.state.swInfo.brPortList.get port.toNat) _ = .ok b w₁ := hfind
  refine ⟨b, ?_, ?_⟩
  · rcases h : w.state.swInfo.brPortList.get port.toNat with e | b'
    · rw [h] at hget
      cases hget
    · rw [h] at hget
      cases hget
      rfl
  · rintro rfl
    cases hrest

/-- An acknowledged VLAN_PORT_SET found a bridge port. -/
theorem brPort_of_acknowledged (hE : ExactSai E view accepts) {request reply reply' : SaiagentMsg}
    (hr : IsReply reply)
    (hrun : EStateM.run (Handler.vlanPortSet.run E rt request reply) w = .ok reply' w')
    (hack : replyStatus reply' = presteraCmdAckOk) :
    ∃ b, w.state.swInfo.brPortList.get (vlanPortOf request).toNat = .ok b ∧
        b ≠ saiNullObjectId := by
  obtain ⟨status, w₁, hstatus, hput⟩ := run_bind_eq_ok.1 hrun
  have hok : status = saiStatusSuccess := by
    by_contra hne
    rw [if_pos hne] at hput
    obtain ⟨failed, hfailed, hp⟩ := run_lift_putReplyAck hr rcStatusErr w₁
    obtain ⟨rfl, -⟩ := EStateM.Result.ok.inj (hfailed.symm.trans hput)
    rw [hack] at hp
    exact absurd (ackResponse_status_eq_ok.1 hp.symm) (by decide)
  exact brPort_of_success hE (hok ▸ hstatus)

/-- **A VLAN_PORT_SET is honoured exactly when it asks for a member**, if it takes effect. -/
theorem honours_iff (hE : ExactSai E view accepts) {s : Session σ} (hk : Known view s.world)
    (i : SessionInput) : Honours E view s i ↔ AsksForMember accepts view s i := by
  have hreply := isReply_freshReply i.out.length_eq
  -- Over a bridge port, the request is acknowledged exactly when it takes effect, and the port
  -- joins then.
  have hsetting : selected s.world.state.ipcCbList i.buf.bytes i.size = some .vlanPortSet → ∀ {b},
      s.world.state.swInfo.brPortList.get (vlanReqOf i).port.toNat = .ok b → b ≠ saiNullObjectId →
      ∃ reply w', Session.handle E s.world i = .ok reply w' ∧
        (replyStatus reply = presteraCmdAckOk ↔ TakesEffect accepts view i.rt s.world
          (vlanReqOf i).vid b) ∧
        (TakesEffect accepts view i.rt s.world (vlanReqOf i).vid b →
          Joined (view s.world.env) (view w'.env) (vlanReqOf i).vid b
            (modeOf ((vlanReqOf i).isTagged ≠ 0))) := by
    intro hsel b hget hb
    obtain ⟨reply, w', hrun, hack, hx, -⟩ := handle_setting hE hk hsel (Asks.vlanPortSet hb hget)
    exact ⟨reply, w', hrun, (replyStatus_ackOf hreply hack).trans (step_vlanPortSet_iff hk),
      fun h ↦ joined_of_step h hk hx⟩
  constructor
  · rintro h hsel ⟨b, hget, hb, htakes⟩
    obtain ⟨reply, w', hrun, hack, hjoined⟩ := hsetting hsel hget hb
    obtain ⟨b', hget', hhonoured⟩ := h hsel reply w' hrun (hack.2 htakes)
    obtain rfl := Except.ok.inj (hget.symm.trans hget')
    exact (honoured_iff_of_joined (hjoined htakes)).1 hhonoured
  · intro h hsel reply w' hrun hack
    obtain ⟨b, hget, hb⟩ := brPort_of_acknowledged hE hreply
      ((@Session.handle_of_selected σ E s i _ hsel).symm.trans hrun) hack
    obtain ⟨reply', w₁, hrun', hack', hjoined⟩ := hsetting hsel hget hb
    obtain ⟨rfl, rfl⟩ := EStateM.Result.ok.inj (hrun'.symm.trans hrun)
    have htakes := hack'.1 hack
    exact ⟨b, hget, (honoured_iff_of_joined (hjoined htakes)).2 (h hsel ⟨b, hget, hb, htakes⟩)⟩

/-- **The members are those that were asked for**, after every acknowledged VLAN_PORT_SET of a
session, exactly when each of them that takes effect asks for a member. A session is over with an
access past an array, so a port number that is not in the lists is asked for at its end only. -/
theorem honoured_iff (hE : ExactSai E view accepts) (env : σ) (is : List SessionInput) :
    Along Session.Live (Session.step E) (Honours E view) (Session.start env) is ↔
      Along Session.Live (Session.step E) (AsksForMember accepts view) (Session.start env) is :=
  along_iff_along (J := fun s : Session σ ↦ Known view s.world)
    (fun _ i _ hs _ ↦ known_step hE.toStoreSai i hs) (fun _ i _ hs ↦ honours_iff hE hs i) is
      (Session.start env) nofun

/-- The first port is put into the VLAN 10. -/
theorem honoured_listSai :
    Along Session.Live (Session.step listSai) (Honours listSai ListStore.view)
      (Session.start ListStore.empty)
      [bareInput .switchInit, vlanPortInput 0 10 1 1 (Runtime.calm 0)] :=
  (honoured_iff exactSai_listSai ListStore.empty _).2
    fun _ ↦ ⟨fun hsel ↦ absurd hsel (by decide +kernel), fun _ ↦ ⟨fun _ _ ↦ by decide, trivial⟩⟩

/-- It is put into it, too, when it is to leave it, and the request is acknowledged. -/
theorem leaving_port_joins :
    ¬Along Session.Live (Session.step listSai) (Honours listSai ListStore.view)
      (Session.start ListStore.empty)
      [bareInput .switchInit, vlanPortInput 0 10 0 0 (Runtime.calm 0)] := by
  intro h
  have hlast := ((h (by decide +kernel)).2 (by decide +kernel)).1 (by decide +kernel)
  have hack : (valueOf (Session.handle listSai listWorld
      (vlanPortInput 0 10 0 0 (Runtime.calm 0)))).map replyStatus = .ok presteraCmdAckOk := by
    decide +kernel
  have hmember : ((ListStore.view (worldOf (Session.handle listSai listWorld
      (vlanPortInput 0 10 0 0 (Runtime.calm 0)))).env).memberMode 10 32).isSome = true := by
    decide +kernel
  rcases hrun : Session.handle listSai listWorld (vlanPortInput 0 10 0 0 (Runtime.calm 0)) with
    ⟨reply, w'⟩ | ⟨e, w'⟩
  · rw [hrun] at hack hmember
    obtain ⟨b, hget, hhonoured⟩ := hlast reply w' hrun (Except.ok.inj hack)
    have hport : listWorld.state.swInfo.brPortList.get 0 = .ok 32 := rfl
    obtain rfl := Except.ok.inj (hport.symm.trans hget)
    exact hhonoured.member.1 hmember (by decide)
  · rw [hrun] at hack
    cases hack

end SaiAgent
