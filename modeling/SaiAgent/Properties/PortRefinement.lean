import SaiAgent.Properties.PortNumbers
import SaiAgent.Properties.VlanLife
import SaiAgent.Properties.VlanModel

/-!
# The agent's handlers as settings

The handlers of VLAN_PORT_SET, VLAN_PVID_SET and PORT_ATTR_SET over a SAI that refuses only what it
cannot do carry out the step of `VlanModel` (`refines_setting`). The model's state is read off the
cache and the store (`abstraction`), without the object identifiers. This needs that what is cached
was a VLAN (`Known`), which every session keeps.

The scan for an existing member never finds one: `get_vlan_member_attribute` is asked for one
attribute, so the bridge port it is compared with stays null (`returns_scanMembers`).
-/

namespace SaiAgent

open Effects Effects.Proc

variable {σ : Type} {E : SaiBackend σ} {view : σ → SaiStore} {accepts : SaiCall → Bool}
  {rt : Runtime} {a : Agent} {S : SaiStore} {list : List VlanInfo} {v : UInt16}
  {b o : Oid} {tag : Bool}

/-! ### The abstraction -/

/-- What there is under a VLAN id. -/
def slotOf (list : List VlanInfo) (S : SaiStore) (v : UInt16) : VlanSlot where
  members := (S.vlans v).map fun o b ↦ (S.members o b).map Prod.snd
  cached := (saiagentVlanGet list v).map fun e ↦ decide (S.vlans v = some e.oid)

/-- The settings, read off the cache and the store. -/
def abstraction (list : List VlanInfo) (S : SaiStore) : VlanModel where
  slots := slotOf list S
  brPortUp := S.brPortUp
  portUp := S.portUp
  pvid := S.pvid

/-- The last call of VLAN_PORT_SET. -/
theorem abstraction_enabled (ok : Bool) (b : Oid) :
    abstraction list (if ok then S.setBrPort b ⟨.bridgePortAdminState, .booldata true⟩ else S) =
      { abstraction list S with
        brPortUp := if ok then Function.update S.brPortUp b true else S.brPortUp } := by
  rcases ok with _ | _ <;> rfl

/-- The last call of VLAN_PVID_SET. -/
theorem abstraction_pvid (ok : Bool) (p : Oid) (v : UInt16) :
    abstraction list (if ok then S.setPort p ⟨.portPortVlanId, .u16 v⟩ else S) =
      { abstraction list S with pvid := if ok then Function.update S.pvid p (some v)
          else S.pvid } := by
  rcases ok with _ | _ <;> rfl

/-- The last call of PORT_ATTR_SET. -/
theorem abstraction_admin (ok : Bool) (p : Oid) (up : Bool) :
    abstraction list (if ok then S.setPort p ⟨.portAdminState, .booldata up⟩ else S) =
      { abstraction list S with portUp := if ok then Function.update S.portUp p up
          else S.portUp } := by
  rcases ok with _ | _ <;> rfl

/-- Another id's VLAN is another object. -/
theorem SaiStore.ne_of_vlans {v' : UInt16} {o' : Oid} (h : S.vlans v = some o)
    (h' : S.vlans v' = some o') (hne : v' ≠ v) : o' ≠ o := by
  rintro rfl
  exact hne (Option.some.inj ((S.vidOf_of_vlans h').symm.trans (S.vidOf_of_vlans h)))

theorem slotOf_addMember {m : Oid} {t : Int32} (h : (S.vidOf o).isSome = true)
    (hv : S.vlans v = some o) : slotOf list (S.addMember o b m t h) = Function.update
      (slotOf list S) v ⟨some (Function.update (fun b ↦ (S.members o b).map Prod.snd) b (some t)),
          (slotOf list S v).cached⟩ := by
  funext v'
  rw [Function.update_apply]
  by_cases hne : v' = v
  · subst hne
    rw [if_pos rfl]
    refine VlanSlot.ext ?_ rfl
    show (S.vlans v').map _ = _
    rw [hv, Option.map_some]
    refine congrArg some (funext fun b' ↦ ?_)
    show ((Function.update S.members o (Function.update (S.members o) b (some (m, t)))) o
      b').map Prod.snd = _
    rw [Function.update_self, Function.update_apply, Function.update_apply]
    split <;> rfl
  · rw [if_neg hne]
    refine VlanSlot.ext ?_ rfl
    show (S.vlans v').map _ = (S.vlans v').map _
    refine Option.map_congr fun o' ho' ↦ funext fun b' ↦ ?_
    show ((Function.update S.members o (Function.update (S.members o) b (some (m, t)))) o'
      b').map Prod.snd = _
    rw [Function.update_of_ne (SaiStore.ne_of_vlans hv ho' hne)]

/-- A new VLAN has no members, and nothing that was cached is it. -/
theorem slotOf_addVlan (ho : S.vidOf o = none) (hlook : saiagentVlanGet list v = none) :
    slotOf list (S.addVlan v o ho) = Function.update (slotOf list S) v
        ⟨some fun _ ↦ none, none⟩ := by
  funext v'
  rw [Function.update_apply]
  by_cases hne : v' = v
  · subst hne
    rw [if_pos rfl]
    refine VlanSlot.ext ?_ ?_
    · show (Function.update S.vlans v' (some o) v').map _ = _
      rw [Function.update_self, Option.map_some]
      refine congrArg some (funext fun b' ↦ ?_)
      show (S.members o b').map Prod.snd = none
      rw [SaiStore.members_of_fresh ho]
      rfl
    · show (saiagentVlanGet list v').map _ = none
      rw [hlook]
      rfl
  · rw [if_neg hne, slotOf, slotOf]
    show VlanSlot.mk ((Function.update S.vlans v (some o) v').map _)
      (Option.map (fun e : VlanInfo ↦ decide (Function.update S.vlans v (some o) v' = some e.oid))
        _) = _
    rw [Function.update_of_ne hne]
    rfl

/-- The VLAN of the switch is cached. -/
theorem slotOf_cons (hv : S.vlans v = some o) :
    slotOf (⟨v, o⟩ :: list) S =
      Function.update (slotOf list S) v ⟨(slotOf list S v).members, some true⟩ := by
  funext v'
  rw [Function.update_apply]
  by_cases hne : v' = v
  · subst hne
    rw [if_pos rfl]
    refine VlanSlot.ext rfl ?_
    show (saiagentVlanGet (⟨v', o⟩ :: list) v').map _ = _
    rw [saiagentVlanGet_cons, if_pos rfl, Option.map_some, decide_eq_true hv]
  · rw [if_neg hne]
    refine VlanSlot.ext rfl ?_
    show (saiagentVlanGet (⟨v, o⟩ :: list) v').map _ = _
    rw [saiagentVlanGet_cons, if_neg (Ne.symm hne)]
    rfl

/-! ### Calls -/

/-- The agent and the store. -/
def At (view : σ → SaiStore) (a : Agent) (S : SaiStore) (w : World σ) : Prop :=
  w.state = a ∧ view w.env = S

/-- A wrapped call that stores nothing and succeeds. -/
theorem returns_plainCall_of_ok {c : SaiCall} {rest : Unit → AgentM σ SaiStatus} {S' : SaiStore}
    {Q : SaiStatus → World σ → Prop} (hok : ∀ s, view s = S → (E c s).1.ok = true ∧
    view (E c s).2 = S') (h : Returns (At view a S') (rest ()) Q) :
    Returns (At view a S) (saiRetErr (plainCall E c) () rest) Q := by
  rintro w ⟨hstate, henv⟩
  obtain ⟨hc, hview⟩ := hok w.env henv
  rw [run_saiRetErr_plainCall_of_ok hc]
  exact h (w.asked E c) ⟨hstate, hview⟩

/-- One that is refused whenever it is made: the repetition is refused, too, and nothing happens. -/
theorem returns_plainCall_of_refused (hE : StoreSai E view) {c : SaiCall} {rest : Unit →
    AgentM σ SaiStatus} (hc : ∀ s, view s = S → (E c s).1.ok = false) :
    Returns (At view a S) (saiRetErr (plainCall E c) () rest)
      fun st w ↦ st ≠ saiStatusSuccess ∧ At view a S w := by
  rintro w ⟨hstate, henv⟩
  have hfirst := hc w.env henv
  have hview : view (w.asked E c).env = S := (hE.refused c w.env hfirst).trans henv
  have hsecond := hc _ hview
  exact ⟨_, _, run_saiRetErr_plainCall_of_refused hfirst, SaiResp.ok_eq_false_iff.1 hsecond, hstate,
    (hE.refused c _ hsecond).trans hview⟩

/-- A query of a method table. -/
theorem returns_query (hE : ExactSai E view accepts) {api : SaiApi} {rest : Unit →
    AgentM σ SaiStatus} {Q : SaiStatus → World σ → Prop}
    (hok : accepts (.saiApiQuery api) = true → Returns (At view a S) (rest ()) Q)
    (hbad : accepts (.saiApiQuery api) = false → ∀ st w, st ≠ saiStatusSuccess ∧
      At view a S w → Q st w) :
    Returns (At view a S) (saiRetErr (plainCall E (.saiApiQuery api)) () rest) Q := by
  rcases hc : accepts (.saiApiQuery api) with _ | _
  · exact (returns_plainCall_of_refused hE.toStoreSai fun s _ ↦ (hE.query_ok api s).trans hc).mono
      (fun _ h ↦ h) (hbad hc)
  · exact returns_plainCall_of_ok
      (fun s hs ↦ ⟨(hE.query_ok api s).trans hc, (hE.read _ _ rfl).trans hs⟩) (hok hc)

/-- A setting, the last call of a function. -/
theorem returns_set (hE : StoreSai E view) {c : SaiCall} {S' : SaiStore}
    (hc : ∀ s, (E c s).1.ok = accepts c) (hset : ∀ s, view s = S → (E c s).1.ok = true →
      view (E c s).2 = S') :
    Returns (At view a S) (saiRetErr (plainCall E c) () fun _ ↦ pure saiStatusSuccess)
      fun st w ↦ (st = saiStatusSuccess ↔ accepts c = true) ∧
        At view a (if accepts c then S' else S) w := by
  rcases h : accepts c with _ | _
  · refine (returns_plainCall_of_refused hE fun s _ ↦ (hc s).trans h).mono (fun _ hw ↦ hw) ?_
    rintro st w ⟨hst, hw⟩
    exact ⟨iff_of_false hst nofun, hw⟩
  · refine returns_plainCall_of_ok (fun s hs ↦ ⟨(hc s).trans h, hset s hs ((hc s).trans h)⟩)
      (Returns.pure fun w hw ↦ ⟨iff_of_true rfl rfl, hw⟩)

/-! ### The functions of VLAN_PORT_SET -/

/-- The tagging mode of a new member. -/
def modeOf (tag : Bool) : Int32 :=
  if tag then saiVlanTaggingModeTagged else saiVlanTaggingModeUntagged

theorem returns_enableBridgePort (hE : ExactSai E view accepts) :
    Returns (At view a S) (enableBridgePort E b) fun st w ↦
      (st = saiStatusSuccess ↔ accepts (enableCall b) = true) ∧
        At view a (if accepts (enableCall b) then S.setBrPort b ⟨.bridgePortAdminState,
          .booldata true⟩ else S) w := by
  refine returns_set hE.toStoreSai (fun s ↦ hE.setBridgePortAttribute_ok b _ s) fun s hs hok ↦ ?_
  rw [← hs]
  exact hE.setBridgePortAttribute b _ s hok

/-- A member that is there, or a VLAN that is not, is no reason to go on. -/
theorem returns_ensureMember_of_refused (hE : ExactSai E view accepts)
    (h : ¬(S.IsVlan o ∧ S.members o b = none)) :
    Returns (At view a S) (ensureMember E o b tag saiNullObjectId)
      fun st w ↦ st ≠ saiStatusSuccess ∧ At view a S w := by
  refine Returns.ite (fun hne ↦ absurd rfl hne) fun _ ↦ ?_
  refine Returns.bind (R := fun _ ↦ At view a S) (Returns.getState fun _ hw ↦ hw) fun sw ↦
    Returns.bind (R := fun r w ↦ r.ok = false ∧ At view a S w) (Returns.ask ?_) fun r ↦
      Returns.ite (fun hr ↦ Returns.pure fun w hw ↦ ⟨hr, hw.2⟩) fun hr w hw ↦
        absurd (SaiResp.ok_iff.2 (not_not.1 hr)) (by rw [hw.1]; nofun)
  rintro w ⟨hstate, rfl⟩
  have hrefused : (E (createMember sw o b tag) w.env).1.ok = false :=
    Bool.eq_false_iff.2 fun hok ↦ h ((hE.createVlanMember_ok_iff sw 3 _ w.env).1 hok)
  exact ⟨hrefused, hstate, hE.refused _ _ hrefused⟩

/-- A new member, and the bridge port is enabled. -/
theorem returns_ensureMember (hE : ExactSai E view accepts) (hvlan : S.IsVlan o)
    (hm : S.members o b = none) :
        Returns (At view a S) (ensureMember E o b tag saiNullObjectId) fun st w ↦
      (st = saiStatusSuccess ↔ accepts (enableCall b) = true) ∧
        ∃ m h, At view a (if accepts (enableCall b)
          then (S.addMember o b m (modeOf tag) h).setBrPort b
            ⟨.bridgePortAdminState, .booldata true⟩
          else S.addMember o b m (modeOf tag) h) w := by
  refine Returns.ite (fun hne ↦ absurd rfl hne) fun _ ↦ ?_
  refine Returns.bind (R := fun _ ↦ At view a S) (Returns.getState fun _ hw ↦ hw) fun sw ↦
    Returns.bind (R := fun r w ↦ r.ok = true ∧ ∃ m h, At view a (S.addMember o b m (modeOf tag) h)
      w) (Returns.ask ?_) fun r ↦ Returns.ite (fun hr w hw ↦ absurd (SaiResp.ok_iff.1 hw.1) hr)
        fun _ w hw ↦ ?_
  · rintro w ⟨hstate, rfl⟩
    have hok : (E (createMember sw o b tag) w.env).1.ok = true :=
      (hE.createVlanMember_ok_iff sw 3 _ w.env).2 ⟨hvlan, hm⟩
    obtain ⟨-, m, h, hview⟩ := hE.createVlanMember sw 3 _ w.env hok
    exact ⟨hok, m, h, hstate, hview⟩
  · obtain ⟨-, m, h, hw⟩ := hw
    obtain ⟨st, w', hrun, hst, hw'⟩ := returns_enableBridgePort hE w hw
    exact ⟨st, w', hrun, hst, m, h, hw'⟩

/-- The entry the scan compares the bridge port with is as null as it was. -/
theorem attrValue_memberQuery {attr : List SaiAttribute}
    (h : attr.drop 1 = [⟨.vlanMemberBridgePortId, .oid saiNullObjectId⟩]) :
    (attrValue attr 1).getOid = saiNullObjectId := by
  have hget : attr[1]? = some ⟨.vlanMemberBridgePortId, .oid saiNullObjectId⟩ := by
    rw [← List.head?_drop, h]
    rfl
  rw [attrValue, hget]
  rfl

/-- **The scan finds nothing**: the bridge port it looks for is compared with an attribute SAI was
not asked for. The induction is over the entries left, all of them members. -/
theorem returns_scanMembers (hE : ExactSai E view accepts) (hb : b ≠ saiNullObjectId)
    {members : OidArray} {rest : Oid → AgentM σ SaiStatus} {Q : SaiStatus → World σ → Prop}
    (hrest : Returns (At view a S) (rest saiNullObjectId) Q) :
    ∀ n i, (∀ j < n, ∃ m, members.get (i + j) = .ok m ∧ ∃ o b t, S.members o b = some (m, t)) →
      Returns (At view a S) (scanMembers E o b members rest n i) Q
  | 0, _, _ => hrest
  | n + 1, i, h => by
    obtain ⟨m, hget, hmember⟩ := h 0 (Nat.succ_pos n)
    refine Returns.bind (R := fun x w ↦ x = m ∧ At view a S w) (Returns.lift hget fun w hw ↦
      ⟨rfl, hw⟩) fun x ↦ ?_
    refine Returns.bind (R := fun r w ↦ (r.ok = true ∧ (attrValue r.attr 1).getOid =
      saiNullObjectId) ∧ At view a S w) (Returns.ask ?_) fun r ↦ ?_
    · rintro w ⟨rfl, hstate, rfl⟩
      have hok := hE.memberQuery_ok x w.env hmember
      exact ⟨⟨hok, attrValue_memberQuery (hE.memberAttribute x 1 _ w.env hok)⟩, hstate,
        hE.read _ _ rfl⟩
    · rintro w ⟨⟨hok, hnull⟩, hw⟩
      rw [if_neg (not_ne_iff.2 (SaiResp.ok_iff.1 hok)), if_neg fun hc ↦ hb (hc.2.trans hnull)]
      refine returns_scanMembers hE hb hrest n (i + 1) (fun j hj ↦ ?_) w hw
      obtain ⟨m', hget', hmember'⟩ := h (j + 1) (Nat.succ_lt_succ hj)
      exact ⟨m', by rw [← hget']; congr 1; omega, hmember'⟩

/-- The member list of a VLAN arrives in the array. -/
theorem returns_memberList (hE : ExactSai E view accepts) (hvlan : S.IsVlan o) (array : OidArray)
    {rest : List SaiAttribute × OidArray → AgentM σ SaiStatus} {Q : SaiStatus → World σ → Prop}
    (hrest : ∀ l : List SaiAttribute × OidArray, (∀ j < (attrValue l.1 0).getCount.toNat,
      ∃ m, l.2.get j = .ok m ∧ ∃ o b t, S.members o b = some (m, t)) →
        Returns (At view a S) (rest l) Q) :
    Returns (At view a S) (saiRetErr (memberListCall E o) (memberListQuery, array) rest) Q := by
  rintro w ⟨hstate, rfl⟩
  have hok := hE.memberList_ok o w.env hvlan
  obtain ⟨hlen, hmembers⟩ := hE.memberList o w.env hok
  -- The list fits, so no member is cut off.
  have hcount :=
    UInt32.le_iff_toNat_le.1 (hE.count_le (.getVlanAttribute o 1 memberListQuery) w.env)
  obtain ⟨array', hstore, hentries⟩ :=
    array.store_arrayLen (E (.getVlanAttribute o 1 memberListQuery) w.env).1.list
  have hrun : EStateM.run (saiRetErr (memberListCall E o) (memberListQuery, array) rest) w =
      EStateM.run (rest ((E (.getVlanAttribute o 1 memberListQuery) w.env).1.attr, array'))
        (w.asked E (.getVlanAttribute o 1 memberListQuery)) :=
    run_saiRetErr_of_ok hok (by
      show EStateM.run (lift (array.store OidArray.arrayLen _) >>= _) _ = _
      rw [hstore]
      rfl)
  rw [hrun]
  refine hrest _ (fun j hj ↦ ?_) _ ⟨hstate, hE.read _ _ rfl⟩
  have hj : j < (E (.getVlanAttribute o 1 memberListQuery) w.env).1.list.length := hlen ▸ hj
  refine ⟨_, OidArray.get_eq_ok_iff.2 ?_, o, hmembers _ (List.getElem_mem hj)⟩
  have htake : (E (.getVlanAttribute o 1 memberListQuery) w.env).1.list.take 64 = _ :=
    List.take_of_length_le (Nat.le_trans (Nat.le_of_eq hlen) hcount)
  rw [hentries, htake, List.getElem?_append_left hj, List.getElem?_eq_getElem hj]

/-- A query of an object that is no VLAN is refused, and its repetition, too. -/
theorem returns_memberList_of_refused (hE : ExactSai E view accepts) (hvlan : ¬S.IsVlan o)
    (array : OidArray) {rest : List SaiAttribute × OidArray → AgentM σ SaiStatus} :
    Returns (At view a S) (saiRetErr (memberListCall E o) (memberListQuery, array) rest)
      fun st w ↦ st ≠ saiStatusSuccess ∧ At view a S w := by
  rintro w ⟨hstate, rfl⟩
  have hrefused : ∀ s attr, view s = view w.env → (E (.getVlanAttribute o 1 attr) s).1.ok = false :=
    fun s attr hs ↦ Bool.eq_false_iff.2 fun hok ↦ hvlan (hs ▸ hE.isVlan_of_get o 1 attr s hok)
  obtain ⟨array₁, hfirst, -⟩ :=
    array.store_arrayLen (E (.getVlanAttribute o 1 memberListQuery) w.env).1.list
  -- The macro's second query has the count that the first one stored, which is no larger.
  obtain ⟨array₂, hsecond⟩ := array₁.store_of_le
    (hE.count_le (.getVlanAttribute o 1 memberListQuery) w.env)
    (E (.getVlanAttribute o 1 (E (.getVlanAttribute o 1 memberListQuery) w.env).1.attr)
      (w.asked E (.getVlanAttribute o 1 memberListQuery)).env).1.list
  have hview : view (w.asked E (.getVlanAttribute o 1 memberListQuery)).env = view w.env :=
    hE.read _ _ rfl
  have hrun := @run_saiRetErr_of_refused σ (List SaiAttribute × OidArray) E
    (fun l ↦ .getVlanAttribute o 1 l.1) (fun l r ↦ do
      let list ← lift (l.2.store (attrValue l.1 0).getCount r.list)
      return (r.attr, list)) (memberListQuery, array) (_, array₁) (_, array₂) rest w
    (w.asked E (.getVlanAttribute o 1 memberListQuery)) _ (hrefused w.env memberListQuery rfl)
    (by
      show EStateM.run (lift (array.store OidArray.arrayLen _) >>= _) _ = _
      rw [hfirst]
      rfl)
    (by
      show EStateM.run (lift (array₁.store _ _) >>= _) _ = _
      rw [hsecond]
      rfl)
  exact ⟨_, _, hrun, SaiResp.ok_eq_false_iff.1 (hrefused _ _ hview), hstate,
    (hE.read _ _ rfl).trans hview⟩

/-! ### A VLAN to join -/

/-- The VLAN is one of the switch, and the bridge port is no member of it yet. -/
theorem returns_addToVlan (hE : ExactSai E view accepts) (hb : b ≠ saiNullObjectId)
    (hvlan : S.IsVlan o) (hm : S.members o b = none) :
    Returns (At view a S) (addToVlan E rt b tag o) fun st w ↦
      (st = saiStatusSuccess ↔ accepts (enableCall b) = true) ∧
        ∃ m h, At view a (if accepts (enableCall b)
          then (S.addMember o b m (modeOf tag) h).setBrPort b
            ⟨.bridgePortAdminState, .booldata true⟩
          else S.addMember o b m (modeOf tag) h) w :=
  returns_memberList hE hvlan _ fun _ hl ↦
    returns_scanMembers hE hb (returns_ensureMember hE hvlan hm) _ _ fun j hj ↦ by
      rw [Nat.zero_add]
      exact hl j hj

/-- The VLAN is gone, or the bridge port is a member of it. -/
theorem returns_addToVlan_of_refused (hE : ExactSai E view accepts) (hb : b ≠ saiNullObjectId)
    (h : ¬(S.IsVlan o ∧ S.members o b = none)) :
    Returns (At view a S) (addToVlan E rt b tag o)
      fun st w ↦ st ≠ saiStatusSuccess ∧ At view a S w := by
  by_cases hvlan : S.IsVlan o
  · exact returns_memberList hE hvlan _ fun _ hl ↦
      returns_scanMembers hE hb (returns_ensureMember_of_refused hE h) _ _ fun j hj ↦ by
        rw [Nat.zero_add]
        exact hl j hj
  · exact returns_memberList_of_refused hE hvlan _

/-! ### VLAN_PORT_SET -/

/-- The function returns what the step answers, and leaves a cache and a store that are what
the step leaves. -/
def Attains (view : σ → SaiStore) (a : Agent) (y : Bool × VlanModel) (st : SaiStatus)
    (w : World σ) : Prop :=
  (st = saiStatusSuccess ↔ y.1 = true) ∧
    ∃ list, w.state = { a with vlanList := list } ∧ abstraction list (view w.env) = y.2

/-- Nothing happens. -/
theorem attains_of_refused {st : SaiStatus} {w : World σ} (hst : st ≠ saiStatusSuccess)
    (hw : At view a S w) : Attains view a (false, abstraction a.vlanList S) st w :=
  ⟨iff_of_false hst nofun, a.vlanList, hw.1, by rw [hw.2]⟩

/-- A step whose queries succeed. -/
theorem VlanModel.step_of_queries {x : VlanModel} {switchOid : Oid} {mem : Bool} {mode : Int32}
    (h₁ : accepts (.saiApiQuery .vlan) = true) (h₂ : accepts (.saiApiQuery .bridge) = true) :
    x.step accepts switchOid (.vlanPortSet v b mode mem) =
      (((x.slots v).put (accepts (createVlanCall switchOid v)) mem b mode).1 &&
          accepts (enableCall b), { x with
        slots := Function.update x.slots v
          ((x.slots v).put (accepts (createVlanCall switchOid v)) mem b mode).2
        brPortUp :=
          if ((x.slots v).put (accepts (createVlanCall switchOid v)) mem b
            mode).1 && accepts (enableCall b)
          then Function.update x.brPortUp b true else x.brPortUp }) := by
  rw [VlanModel.step, h₁, h₂]
  rfl

/-- A bridge port that cannot join leaves the id as it is. -/
theorem VlanModel.step_of_not_put {x : VlanModel} {switchOid : Oid} {mem : Bool} {mode : Int32}
    (h₁ : accepts (.saiApiQuery .vlan) = true) (h₂ : accepts (.saiApiQuery .bridge) = true)
    (h : (x.slots v).put (accepts (createVlanCall switchOid v)) mem b mode = (false, x.slots v)) :
    x.step accepts switchOid (.vlanPortSet v b mode mem) = (false, x) := by
  rw [VlanModel.step_of_queries h₁ h₂, h]
  exact congrArg (Prod.mk false) (VlanModel.ext (Function.update_eq_self v x.slots) rfl rfl rfl)

/-- The slot of an id that is cached. -/
theorem slotOf_of_cached {e : VlanInfo} (hlook : saiagentVlanGet list v = some e)
    (hk : S.vidOf e.oid = some e.id) :
    (S.IsVlan e.oid ∧ S.vlans v = some e.oid ∧
        slotOf list S v = ⟨some fun b ↦ (S.members e.oid b).map Prod.snd, some true⟩) ∨
      (¬S.IsVlan e.oid ∧ ∃ members, slotOf list S v = ⟨members, some false⟩) := by
  obtain ⟨-, hid⟩ := mem_of_saiagentVlanGet hlook
  by_cases hvlan : S.IsVlan e.oid
  · have hv : S.vlans v = some e.oid := hid ▸ SaiStore.vlans_eq_of_isVlan hvlan hk
    exact Or.inl ⟨hvlan, hv, by rw [slotOf, hv, hlook, Option.map_some, Option.map_some,
      decide_eq_true rfl]⟩
  · have hne : ¬S.vlans v = some e.oid := fun hv ↦ hvlan ⟨v, hv⟩
    exact Or.inr ⟨hvlan, _, by rw [slotOf, hlook, Option.map_some, decide_eq_false hne]⟩

/-- The VLAN is cached. -/
theorem returns_cached (hE : ExactSai E view accepts) (hb : b ≠ saiNullObjectId) {e : VlanInfo}
    (hlook : saiagentVlanGet a.vlanList v = some e) (hk : S.vidOf e.oid = some e.id)
    (h₁ : accepts (.saiApiQuery .vlan) = true) (h₂ : accepts (.saiApiQuery .bridge) = true) :
    Returns (At view a S) (addToVlan E rt b tag e.oid) (Attains view a
      ((abstraction a.vlanList S).step accepts a.swInfo.switchOid
        (.vlanPortSet v b (modeOf tag) rt.vlanInfoCalloc))) := by
  obtain ⟨hvlan, hv, hslot⟩ | ⟨hvlan, members, hslot⟩ := slotOf_of_cached hlook hk
  · -- SAI has the cached VLAN: the port joins unless it is a member.
    by_cases hm : S.members e.oid b = none
    · refine (returns_addToVlan hE hb hvlan hm).mono (fun _ hw ↦ hw) ?_
      rintro st w ⟨hst, m, h, hstate, henv⟩
      have hput : ((abstraction a.vlanList S).slots v).put
          (accepts (createVlanCall a.swInfo.switchOid v)) rt.vlanInfoCalloc b (modeOf tag) =
            (true, ⟨some (Function.update (fun b ↦ (S.members e.oid b).map Prod.snd) b
              (some (modeOf tag))), some true⟩) := by
        rw [show (abstraction a.vlanList S).slots v = _ from hslot, VlanSlot.put_cached, hm]
        rfl
      rw [VlanModel.step_of_queries h₁ h₂, hput]
      refine ⟨hst, a.vlanList, hstate, ?_⟩
      rw [henv, abstraction_enabled]
      refine VlanModel.ext ?_ rfl rfl rfl
      show slotOf a.vlanList (S.addMember e.oid b m (modeOf tag) h) = _
      rw [slotOf_addMember h hv, hslot]
      rfl
    · have hput : ((abstraction a.vlanList S).slots v).put
          (accepts (createVlanCall a.swInfo.switchOid v)) rt.vlanInfoCalloc b (modeOf tag) =
            (false, (abstraction a.vlanList S).slots v) := by
        rw [show (abstraction a.vlanList S).slots v = _ from hslot, VlanSlot.put_cached, if_neg]
        rw [Option.isNone_iff_eq_none, Option.map_eq_none_iff]
        exact hm
      rw [VlanModel.step_of_not_put h₁ h₂ hput]
      exact (returns_addToVlan_of_refused hE hb fun h ↦ hm h.2).mono (fun _ hw ↦ hw) fun st w hw ↦
        attains_of_refused hw.1 hw.2
  · -- The entry is stale, and the member query is refused.
    have hput : ((abstraction a.vlanList S).slots v).put
        (accepts (createVlanCall a.swInfo.switchOid v)) rt.vlanInfoCalloc b (modeOf tag) =
          (false, (abstraction a.vlanList S).slots v) := by
      rw [show (abstraction a.vlanList S).slots v = _ from hslot, VlanSlot.put_stale]
    rw [VlanModel.step_of_not_put h₁ h₂ hput]
    exact (returns_addToVlan_of_refused hE hb fun h ↦ hvlan h.1).mono (fun _ hw ↦ hw) fun st w hw ↦
      attains_of_refused hw.1 hw.2

/-- The slot of an id that is not cached. -/
theorem slotOf_of_uncached (hlook : saiagentVlanGet list v = none) :
    (slotOf list S v).cached = none ∧ ((slotOf list S v).members = none ↔ S.vlans v = none) :=
  ⟨by rw [slotOf, hlook]; rfl, Option.map_eq_none_iff⟩

/-- The VLAN is not cached, and SAI does not create it. -/
theorem step_of_not_created {x : VlanModel} (h₁ : accepts (.saiApiQuery .vlan) = true)
    (h₂ : accepts (.saiApiQuery .bridge) = true) {switchOid : Oid} {mem : Bool} {mode : Int32}
    (hcached : (x.slots v).cached = none)
    (h : ¬(accepts (createVlanCall switchOid v) = true ∧ (x.slots v).members = none)) :
    x.step accepts switchOid (.vlanPortSet v b mode mem) = (false, x) := by
  refine VlanModel.step_of_not_put h₁ h₂ ?_
  rcases hslot : x.slots v with ⟨_ | members, cached⟩
  · rw [hslot] at h hcached
    obtain rfl : cached = none := hcached
    rw [Bool.eq_false_iff.2 fun hc ↦ h ⟨hc, rfl⟩, VlanSlot.put_refused]
  · rw [hslot] at hcached
    obtain rfl : cached = none := hcached
    rw [VlanSlot.put_uncached]

/-- The VLAN was created and is cached. -/
theorem returns_created (hE : ExactSai E view accepts) (hb : b ≠ saiNullObjectId)
    (hlook : saiagentVlanGet a.vlanList v = none) (hnone : S.vlans v = none) (ho : S.vidOf o = none)
    (h₁ : accepts (.saiApiQuery .vlan) = true) (h₂ : accepts (.saiApiQuery .bridge) = true)
    (hcreate : accepts (createVlanCall a.swInfo.switchOid v) = true) :
    Returns (At view (a.pushVlan ⟨v, o⟩) (S.addVlan v o ho)) (addToVlan E rt b tag o)
      (Attains view a ((abstraction a.vlanList S).step accepts a.swInfo.switchOid
        (.vlanPortSet v b (modeOf tag) true))) := by
  have hv : (S.addVlan v o ho).vlans v = some o := Function.update_self ..
  have hslot : (abstraction a.vlanList S).slots v = ⟨none, none⟩ := by
    show slotOf a.vlanList S v = _
    rw [slotOf, hnone, hlook]
    rfl
  refine (returns_addToVlan hE hb ⟨v, hv⟩ (SaiStore.members_of_fresh ho b)).mono (fun _ hw ↦ hw) ?_
  rintro st w ⟨hst, m, h, hstate, henv⟩
  rw [VlanModel.step_of_queries h₁ h₂, hslot, hcreate, VlanSlot.put_created]
  refine ⟨hst, _, hstate, ?_⟩
  rw [henv, abstraction_enabled]
  refine VlanModel.ext ?_ rfl rfl rfl
  have hmembers : (fun b ↦ ((S.addVlan v o ho).members o b).map Prod.snd) = fun _ ↦
      none := funext fun b' ↦ by
    show (S.members o b').map _ = none
    rw [SaiStore.members_of_fresh ho]
    rfl
  show slotOf (⟨v, o⟩ :: a.vlanList) ((S.addVlan v o ho).addMember o b m (modeOf tag) h) = _
  rw [slotOf_addMember h hv, hmembers, slotOf_cons hv, slotOf_addVlan ho hlook,
    Function.update_idem, Function.update_idem, Function.update_self]
  rfl

/-- The VLAN was created, and there is no memory to cache it. -/
theorem attains_orphaned (hlook : saiagentVlanGet a.vlanList v = none) (hnone : S.vlans v = none)
    (ho : S.vidOf o = none) (h₁ : accepts (.saiApiQuery .vlan) = true)
    (h₂ : accepts (.saiApiQuery .bridge) = true)
    (hcreate : accepts (createVlanCall a.swInfo.switchOid v) = true) {mode : Int32} {st : SaiStatus}
    {w : World σ} (hst : st ≠ saiStatusSuccess) (hw : At view a (S.addVlan v o ho) w) :
    Attains view a ((abstraction a.vlanList S).step accepts a.swInfo.switchOid
      (.vlanPortSet v b mode false)) st w := by
  obtain ⟨hcached, hmembers⟩ := slotOf_of_uncached (S := S) hlook
  have hslot : (abstraction a.vlanList S).slots v = ⟨none, none⟩ :=
    VlanSlot.ext (hmembers.2 hnone) hcached
  rw [VlanModel.step_of_queries h₁ h₂, hslot, hcreate, VlanSlot.put_orphaned]
  refine ⟨iff_of_false hst Bool.false_ne_true, a.vlanList, hw.1, ?_⟩
  rw [hw.2]
  exact VlanModel.ext (slotOf_addVlan ho hlook) rfl rfl rfl

/-- The VLAN, cached or not. -/
theorem returns_useOrCreateVlan (hE : ExactSai E view accepts)
    (hk : ∀ e ∈ a.vlanList, S.vidOf e.oid = some e.id) (hb : b ≠ saiNullObjectId)
    (h₁ : accepts (.saiApiQuery .vlan) = true) (h₂ : accepts (.saiApiQuery .bridge) = true) :
    Returns (At view a S) (useOrCreateVlan E rt v (addToVlan E rt b tag)) (Attains view a
      ((abstraction a.vlanList S).step accepts a.swInfo.switchOid
        (.vlanPortSet v b (modeOf tag) rt.vlanInfoCalloc))) := by
  rintro w ⟨hstate, rfl⟩
  rw [useOrCreateVlan, run_getState_bind, hstate]
  rcases hlook : saiagentVlanGet a.vlanList v with _ | e
  · dsimp only
    rw [run_getState_bind, hstate, EStateM.run_bind, run_ask]
    dsimp only
    obtain ⟨hcached, hmembers⟩ := slotOf_of_uncached (S := view w.env) hlook
    have hok := hE.createVlan_ok_iff a.swInfo.switchOid 1 [⟨.vlanVlanId, .u16 v⟩] w.env
    rcases hc : (E (.createVlan a.swInfo.switchOid 1 [⟨.vlanVlanId, .u16 v⟩]) w.env).1.ok with _ | _
    · have hrefused := SaiResp.ok_eq_false_iff.1 hc
      rw [step_of_not_created h₁ h₂ (x := abstraction a.vlanList (view w.env)) hcached fun h ↦ by
        rw [hok.2 ⟨h.1, hmembers.1 h.2⟩] at hc
        cases hc]
      rw [if_pos hrefused]
      exact ⟨_, _, rfl, attains_of_refused hrefused ⟨hstate, hE.refused _ _ hc⟩⟩
    · obtain ⟨hcreate, hnone⟩ := hok.1 hc
      obtain ⟨-, ho, hview⟩ := hE.createVlan _ _ _ _ hc
      have hout : SaiResp.outOid _ = some _ := if_pos hc
      rw [if_neg (not_ne_iff.2 (SaiResp.ok_iff.1 hc)), hout, Option.getD_some, saiagentVlanAddNew]
      -- the cache entry is allocated after the VLAN is created
      rcases hmem : rt.vlanInfoCalloc with _ | _
      · exact ⟨_, _, rfl, attains_orphaned hlook hnone ho h₁ h₂ hcreate (by decide)
          ⟨hstate, hview⟩⟩
      · exact returns_created hE hb hlook hnone ho h₁ h₂ hcreate
          ((w.asked E (.createVlan a.swInfo.switchOid 1 [⟨.vlanVlanId, .u16 v⟩])).mapState fun a ↦
            a.pushVlan ⟨v, _⟩) ⟨congrArg (Agent.pushVlan · _) hstate, hview⟩
  · obtain ⟨hmem, -⟩ := mem_of_saiagentVlanGet hlook
    exact returns_cached hE hb hlook (hk e hmem) h₁ h₂ w ⟨hstate, rfl⟩

/-- **`sai_vlan_add_port_member` carries out the step.** -/
theorem returns_saiVlanAddPortMember (hE : ExactSai E view accepts)
    (hk : ∀ e ∈ a.vlanList, S.vidOf e.oid = some e.id) {port : UInt32}
    (hget : a.swInfo.brPortList.get port.toNat = .ok b) (hb : b ≠ saiNullObjectId) :
    Returns (At view a S) (saiVlanAddPortMember E rt v port tag) (Attains view a
      ((abstraction a.vlanList S).step accepts a.swInfo.switchOid
        (.vlanPortSet v b (modeOf tag) rt.vlanInfoCalloc))) := by
  have hrefused : (accepts (.saiApiQuery .vlan) && accepts (.saiApiQuery .bridge)) = false →
      ∀ st (w : World σ), st ≠ saiStatusSuccess ∧ At view a S w → Attains view a
        ((abstraction a.vlanList S).step accepts a.swInfo.switchOid
          (.vlanPortSet v b (modeOf tag) rt.vlanInfoCalloc)) st w := by
    rintro hq st w ⟨hst, hw⟩
    rw [VlanModel.step, hq]
    exact attains_of_refused hst hw
  refine returns_query hE (fun h₁ ↦ returns_query hE (fun h₂ ↦ ?_) fun h₂ ↦ hrefused
    (by rw [h₁, h₂]; rfl)) fun h₁ ↦ hrefused (by rw [h₁]; rfl)
  refine Returns.bind (R := fun b' w ↦ b' = b ∧ At view a S w) (Returns.bind
    (R := fun l w ↦ l = a.swInfo.brPortList ∧ At view a S w) (Returns.getState fun w hw ↦
      ⟨by rw [hw.1], hw⟩) fun l w hw ↦ Returns.lift (P := At view a S) (hw.1 ▸ hget)
        (fun _ h ↦ ⟨rfl, h⟩) w hw.2) ?_
  rintro b' w ⟨rfl, hw⟩
  rw [if_neg hb]
  exact returns_useOrCreateVlan hE hk hb h₁ h₂ w hw

/-! ### The port settings -/

/-- The port the number names. -/
theorem returns_portFind {port : UInt32} {p q : Oid} {rest : Oid → AgentM σ SaiStatus}
    {Q : SaiStatus → World σ → Prop} (hget : a.swInfo.portList.get port.toNat = .ok p)
    (h : Returns (At view a S) (rest p) Q) :
    Returns (At view a S) (saiRetErr (saiSwitchPortFind port) q rest) Q := by
  rintro w ⟨rfl, henv⟩
  have hfind : EStateM.run (saiSwitchPortFind port q : AgentM σ _) w = .ok
      (saiStatusSuccess, p) w := by
    rw [saiSwitchPortFind, run_getState_bind, hget]
    rfl
  rw [saiRetErr, EStateM.run_bind, hfind]
  exact h w ⟨rfl, henv⟩

/-- A setting of a port, the last call of a function. -/
theorem returns_setPort (hE : ExactSai E view accepts) (p : Oid) (attr : SaiAttribute) :
    Returns (At view a S) (saiRetErr (plainCall E (.setPortAttribute p attr)) () fun _ ↦
      pure saiStatusSuccess) fun st w ↦ (st = saiStatusSuccess ↔
        accepts (.setPortAttribute p attr) = true) ∧
          At view a (if accepts (.setPortAttribute p attr) then S.setPort p attr else S) w :=
  returns_set hE.toStoreSai (fun s ↦ hE.setPortAttribute_ok p attr s) fun s hs hok ↦
    hs ▸ hE.setPortAttribute p attr s hok

/-- A step whose query is refused. -/
theorem VlanModel.step_of_refused {x : VlanModel} {switchOid : Oid}
    (h : accepts (.saiApiQuery .port) = false) (p : Oid) :
      x.step accepts switchOid (.vlanPvidSet p v) = (false, x) ∧ ∀ up, x.step accepts switchOid
          (.phyModeSet p up) = (false, x) := by
  constructor
  · rw [VlanModel.step, h]
    rfl
  · intro up
    rw [VlanModel.step, h]
    rfl

theorem returns_saiPortPvidSet (hE : ExactSai E view accepts) {port : UInt32} {p : Oid}
    (hget : a.swInfo.portList.get port.toNat = .ok p) :
    Returns (At view a S) (saiPortPvidSet E port v) (Attains view a
      ((abstraction a.vlanList S).step accepts a.swInfo.switchOid (.vlanPvidSet p v))) := by
  refine returns_portFind hget (returns_query hE (fun hq ↦ ?_) fun hq st w hw ↦ ?_)
  · refine (returns_setPort hE p _).mono (fun _ hw ↦ hw) ?_
    rintro st w ⟨hst, hstate, henv⟩
    rw [VlanModel.step, hq]
    exact ⟨hst, a.vlanList, hstate, by rw [henv, abstraction_pvid]; rfl⟩
  · rw [(VlanModel.step_of_refused hq p).1]
    exact attains_of_refused hw.1 hw.2

theorem returns_saiPortAdminStateSet (hE : ExactSai E view accepts) {port : UInt32} {p : Oid}
    (admin : UInt8) (hget : a.swInfo.portList.get port.toNat = .ok p) :
    Returns (At view a S) (saiPortAdminStateSet E port admin) (Attains view a
      ((abstraction a.vlanList S).step accepts a.swInfo.switchOid
          (.phyModeSet p (admin ≠ 0)))) := by
  refine returns_query hE (fun hq ↦ returns_portFind hget ?_) fun hq st w hw ↦ ?_
  · refine (returns_setPort hE p _).mono (fun _ hw ↦ hw) ?_
    rintro st w ⟨hst, hstate, henv⟩
    rw [VlanModel.step, hq]
    exact ⟨hst, a.vlanList, hstate, by rw [henv, abstraction_admin]; rfl⟩
  · rw [(VlanModel.step_of_refused (v := 0) hq p).2]
    exact attains_of_refused hw.1 hw.2

/-! ### Handlers -/

/-- What a request asks for. -/
inductive Asks (rt : Runtime) (a : Agent) (buf : List UInt8) : Handler → PortSetting → Prop where
  | vlanPortSet {b : Oid} (hb : b ≠ saiNullObjectId)
    (hget : a.swInfo.brPortList.get (PresteraMsgVlanReq.ofBuff buf).port.toNat = .ok b) :
    Asks rt a buf .vlanPortSet (.vlanPortSet (PresteraMsgVlanReq.ofBuff buf).vid b
      (modeOf ((PresteraMsgVlanReq.ofBuff buf).isTagged ≠ 0)) rt.vlanInfoCalloc)
  | vlanPvidSet {p : Oid} (hget : a.swInfo.portList.get (PresteraMsgVlanReq.ofBuff buf).port.toNat =
    .ok p) : Asks rt a buf .vlanPvidSet (.vlanPvidSet p (PresteraMsgVlanReq.ofBuff buf).vid)
  | phyModeSet {p : Oid} (hattr : (PresteraMsgPortAttrReq.ofBuff buf).attr =
    PresteraCmdPortAttr.phyMode) (hget : a.swInfo.portList.get
      (PresteraMsgPortAttrReq.ofBuff buf).port.toNat = .ok p) :
    Asks rt a buf .portAttrSet (.phyModeSet p ((PresteraMsgPortAttrReq.ofBuff buf).phyAdmin ≠ 0))

/-- The acknowledgement of a request. -/
def ackOf (reply : SaiagentMsg) (ok : Bool) : Except Fault SaiagentMsg :=
  saiagentIpcPutReplyAck reply (if ok then rcStatusOk else rcStatusErr)

/-- The handler replies what the step answers, and leaves what the step leaves. -/
def Carried (view : σ → SaiStore) (a : Agent) (reply : SaiagentMsg) (y : Bool × VlanModel)
    (r : SaiagentMsg) (w : World σ) : Prop :=
  ackOf reply y.1 = .ok r ∧ ∃ list, w.state = { a with vlanList := list } ∧
    abstraction list (view w.env) = y.2

/-- A function and the acknowledgement of its status. -/
theorem carried_of_attains {reply : SaiagentMsg} (hr : IsReply reply) {y : Bool × VlanModel}
    {p : AgentM σ SaiStatus} (h : Returns (At view a S) p (Attains view a y)) :
    Returns (At view a S) (p >>= fun st ↦ if st ≠ saiStatusSuccess then
        lift (saiagentIpcPutReplyAck reply rcStatusErr)
      else lift (saiagentIpcPutReplyAck reply rcStatusOk)) (Carried view a reply y) := by
  obtain ⟨good, hgood, -⟩ := saiagentIpcPutReplyAck_eq hr rcStatusOk
  obtain ⟨bad, hbad, -⟩ := saiagentIpcPutReplyAck_eq hr rcStatusErr
  refine Returns.bind h fun st ↦ Returns.ite (fun hst ↦ Returns.lift hbad ?_) fun hst ↦
    Returns.lift hgood ?_
  · rintro w ⟨hok, hw⟩
    rw [Carried, Bool.eq_false_iff.2 fun hy ↦ hst (hok.2 hy)]
    exact ⟨hbad, hw⟩
  · rintro w ⟨hok, hw⟩
    rw [Carried, hok.1 (not_not.1 hst)]
    exact ⟨hgood, hw⟩

/-- **The handlers carry out the steps of the model.** -/
theorem refines_setting (hE : ExactSai E view accepts)
    (hk : ∀ e ∈ a.vlanList, S.vidOf e.oid = some e.id) {request reply : SaiagentMsg}
    (hr : IsReply reply) {handler : Handler} {setting : PortSetting}
    (h : Asks rt a (request.buff.getD []) handler setting) :
    Returns (At view a S) (handler.run E rt request reply)
      (Carried view a reply ((abstraction a.vlanList S).step accepts
          a.swInfo.switchOid setting)) := by
  rcases h with ⟨hb, hget⟩ | hget | ⟨hattr, hget⟩
  · exact carried_of_attains hr (returns_saiVlanAddPortMember hE hk hget hb)
  · have hbind : Handler.vlanPvidSet.run E rt request reply = saiPortPvidSet E (vlanPortOf request)
        (vlanIdOf request) >>= fun st ↦
        if st ≠ saiStatusSuccess then lift (saiagentIpcPutReplyAck reply rcStatusErr)
        else lift (saiagentIpcPutReplyAck reply rcStatusOk) := by
      rw [Handler.run, saiagentIpcProcessVlanPvidSet, saiagentPortPvidSet, bind_assoc]
      refine bind_congr fun st ↦ ?_
      split <;> rfl
    rw [hbind]
    exact carried_of_attains hr (returns_saiPortPvidSet hE hget)
  · have hbind : Handler.portAttrSet.run E rt request reply = saiPortAdminStateSet E
        _ _ >>= fun st ↦
        if st ≠ saiStatusSuccess then lift (saiagentIpcPutReplyAck reply rcStatusErr)
        else lift (saiagentIpcPutReplyAck reply rcStatusOk) := if_pos hattr
    rw [hbind]
    exact carried_of_attains hr (returns_saiPortAdminStateSet hE _ hget)

end SaiAgent
