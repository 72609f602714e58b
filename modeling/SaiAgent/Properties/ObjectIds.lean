import SaiAgent.Library.Discipline
import SaiAgent.Properties.ArrayBounds
import SaiAgent.Properties.VlanCache

/-!
# Where the object ids come from

An object id means something to SAI only. The agent keeps ids in six places — `sw_info.switch_oid`,
the two lists, the two defaults, the cached VLANs — and in the locals of its functions, and hands
them back in later calls. Whatever SAI answers, an id the agent passes is null or one it was told,
and told *of that kind*: what goes out as a port came in as a port (`licensed_step`). The method
table a call goes through was obtained successfully before it, while the same request was handled.

One array escapes: `vlan_member_list` is on the stack, and the scan reads as many entries of it as
the count says. So SAI must have stored that many (`FillsMemberLists`). And what lies behind the
lists is no id: SAI must keep to the room it is given, and the requests to port numbers below 64.
-/

namespace SaiAgent

open Effects Effects.Proc Effects.Run Effects.Discipline

variable {σ A : Type} {E : SaiBackend σ} {rt : Runtime}

/-! ### What a call uses and what an answer tells -/

/-- `sai_object_type_t`, the types the agent meets. -/
inductive SaiObjectType where
  | switch
  | port
  | bridge
  | bridgePort
  | vlan
  | vlanMember
  deriving DecidableEq, Repr

/-- The objects an attribute of `create_vlan_member` refers to. -/
def SaiAttribute.refers (a : SaiAttribute) : List (SaiObjectType × Oid) :=
  match a.id with
  | .vlanMemberVlanId => [(.vlan, a.value.getOid)]
  | .vlanMemberBridgePortId => [(.bridgePort, a.value.getOid)]
  | _ => []

/-- The objects a call refers to, each as what. -/
def SaiCall.uses : SaiCall → List (SaiObjectType × Oid)
  | .saiApiQuery _ => []
  | .saiLogSet _ _ => []
  | .createSwitch _ _ => []
  | .removeSwitch o => [(.switch, o)]
  | .getSwitchAttribute o _ _ => [(.switch, o)]
  | .setSwitchAttribute o _ => [(.switch, o)]
  | .getBridgeAttribute o _ _ => [(.bridge, o)]
  | .setBridgePortAttribute o _ => [(.bridgePort, o)]
  | .createVlan o _ _ => [(.switch, o)]
  | .getVlanAttribute o _ _ => [(.vlan, o)]
  | .createVlanMember o _ attr => (.switch, o) :: attr.flatMap SaiAttribute.refers
  | .getVlanMemberAttribute o _ _ => [(.vlanMember, o)]
  | .setPortAttribute o _ => [(.port, o)]

/-- The method table a call goes through. -/
def SaiCall.methodTable : SaiCall → Option SaiApi
  | .saiApiQuery _ => none
  | .saiLogSet _ _ => none
  | .createSwitch _ _ => some .switch
  | .removeSwitch _ => some .switch
  | .getSwitchAttribute _ _ _ => some .switch
  | .setSwitchAttribute _ _ => some .switch
  | .getBridgeAttribute _ _ _ => some .bridge
  | .setBridgePortAttribute _ _ => some .bridge
  | .createVlan _ _ _ => some .vlan
  | .getVlanAttribute _ _ _ => some .vlan
  | .createVlanMember _ _ _ => some .vlan
  | .getVlanMemberAttribute _ _ _ => some .vlan
  | .setPortAttribute _ _ => some .port

/-- What an answer tells of an object. A list query asks for its list first, and the switch query
for the bridge and the VLAN behind it. -/
def Tells : SaiCall → SaiResp → SaiObjectType → Oid → Prop
  | .createSwitch _ _, r, .switch, o => r.outOid = some o
  | .createVlan _ _ _, r, .vlan, o => r.outOid = some o
  | .getSwitchAttribute _ _ _, r, .port, o => o ∈ r.list
  | .getSwitchAttribute _ _ _, r, .bridge, o => o = (attrValue r.attr 1).getOid
  | .getSwitchAttribute _ _ _, r, .vlan, o => o = (attrValue r.attr 2).getOid
  | .getBridgeAttribute _ _ _, r, .bridgePort, o => o ∈ r.list
  | .getVlanAttribute _ _ _, r, .vlanMember, o => o ∈ r.list
  | _, _, _, _ => False

/-- The calls and answers of a run. -/
abbrev SaiTrace := List (SaiCall × SaiResp)

/-- The id is null, or an answer told it as an object of this type. -/
def Told (t : SaiTrace) (type : SaiObjectType) (o : Oid) : Prop :=
  o = saiNullObjectId ∨ ∃ e ∈ t, Tells e.1 e.2 type o

/-- The method table was obtained. -/
def Obtained (t : SaiTrace) (api : SaiApi) : Prop :=
  ∃ r, (SaiCall.saiApiQuery api, r) ∈ t ∧ r.ok = true

/-- A call is licensed by what was answered before: its objects were told, and its method table was
obtained after the first `n` calls. -/
structure Licensed (n : ℕ) (t : SaiTrace) (c : SaiCall) : Prop where
  told : ∀ u ∈ c.uses, Told t u.1 u.2
  obtained : ∀ api, c.methodTable = some api → Obtained (t.drop n) api

/-- What the agent holds was told. -/
structure Backed (t : SaiTrace) (a : Agent) : Prop where
  switchOid : Told t .switch a.swInfo.switchOid
  portList : ∀ o ∈ a.swInfo.portList.entries, Told t .port o
  brPortList : ∀ o ∈ a.swInfo.brPortList.entries, Told t .bridgePort o
  defaultDot1qBridgeOid : Told t .bridge a.swInfo.defaultDot1qBridgeOid
  defaultVlanOid : Told t .vlan a.swInfo.defaultVlanOid
  vlanList : ∀ e ∈ a.vlanList, Told t .vlan e.oid

variable {t t' : SaiTrace} {n : ℕ} {type : SaiObjectType} {o : Oid} {api : SaiApi} {c : SaiCall}
  {r : SaiResp} {a : Agent}

theorem told_null : Told t type saiNullObjectId := Or.inl rfl

theorem told_of_mem (h : (c, r) ∈ t) (ht : Tells c r type o) : Told t type o :=
  Or.inr ⟨_, h, ht⟩

theorem Told.mono (ht : t <+: t') : Told t type o → Told t' type o
  | Or.inl h => Or.inl h
  | Or.inr ⟨e, he, h⟩ => Or.inr ⟨e, ht.subset he, h⟩

/-- What stands behind the first calls stays there. -/
theorem mem_drop_of_prefix {e : SaiCall × SaiResp} (ht : t <+: t') (h : e ∈ t.drop n) :
    e ∈ t'.drop n := by
  obtain ⟨u, rfl⟩ := ht
  rw [List.drop_append]
  exact List.mem_append_left _ h

/-- What stands behind many calls stands behind fewer. -/
theorem mem_drop_of_le {m : ℕ} {e : SaiCall × SaiResp} (hm : n ≤ m) (h : e ∈ t.drop m) :
    e ∈ t.drop n :=
  (List.drop_subset_drop_left t hm) h

theorem Obtained.mono (ht : t <+: t') : Obtained (t.drop n) api → Obtained (t'.drop n) api :=
  fun ⟨r, hr, hok⟩ ↦ ⟨r, mem_drop_of_prefix ht hr, hok⟩

theorem Licensed.mono (ht : t <+: t') (h : Licensed n t c) : Licensed n t' c :=
  ⟨fun u hu ↦ (h.told u hu).mono ht, fun api hc ↦ (h.obtained api hc).mono ht⟩

theorem Backed.mono (ht : t <+: t') (h : Backed t a) : Backed t' a where
  switchOid := h.switchOid.mono ht
  portList := fun o ho ↦ (h.portList o ho).mono ht
  brPortList := fun o ho ↦ (h.brPortList o ho).mono ht
  defaultDot1qBridgeOid := h.defaultDot1qBridgeOid.mono ht
  defaultVlanOid := h.defaultVlanOid.mono ht
  vlanList := fun e he ↦ (h.vlanList e he).mono ht

/-- The agent's discipline while it handles the request that came after `n` calls. -/
def saiDiscipline (n : ℕ) : Discipline Agent SaiCall SaiResp where
  since := n
  licensed := Licensed n
  backed := Backed
  licensed_mono := Licensed.mono
  backed_mono := Backed.mono

/-- The procedure respects the discipline. -/
abbrev Obeys {α : Type} (n : ℕ) (t : SaiTrace) (p : AgentM σ α)
    (Q : α → SaiTrace → Prop := fun _ _ ↦ True) : Prop :=
  (saiDiscipline n).Obeys t p Q

/-- A call that refers to one object. -/
theorem licensed_of_told (huses : c.uses = [(type, o)]) (ho : Told t type o)
    (htable : c.methodTable = some api) (hapi : Obtained (t.drop n) api) : Licensed n t c := by
  constructor
  · intro u hu
    rw [huses, List.mem_singleton] at hu
    subst hu
    exact ho
  · intro api' hc
    cases htable.symm.trans hc
    exact hapi

/-- A query for a method table is always licensed. -/
theorem licensed_saiApiQuery : Licensed n t (.saiApiQuery api) := by
  constructor
  · intro u hu
    simp [SaiCall.uses] at hu
  · intro api' hc
    cases hc

/-! ### Calls -/

/-- A call and what it stores; the call is on record behind `t`. -/
theorem obeys_saiCall {mk : A → SaiCall} {store : A → SaiResp → AgentM σ A} {a : A}
    {M : A → SaiTrace → Prop} (hc : Licensed n t (mk a))
    (hstore : ∀ t' s, t <+: t' → (mk a, (E (mk a) s).1) ∈ t'.drop t.length →
      Obeys n t' (store a (E (mk a) s).1) fun a' t'' ↦ (E (mk a) s).1.ok = true → M a' t'') :
    Obeys n t (saiCall E mk store a) fun p t' ↦ p.1 = saiStatusSuccess → M p.2 t' := by
  refine Obeys.bind
    (M := fun r t' ↦ ∃ s, r = (E (mk a) s).1 ∧ (mk a, r) ∈ t'.drop t.length)
    (Obeys.ask hc fun t' s ht ↦ ⟨s, rfl, ?_⟩) ?_
  · rw [List.drop_append_of_le_length ht.length_le]
    exact List.mem_append_right _ List.mem_cons_self
  · rintro r t₁ ht ⟨s, rfl, hr⟩
    exact (hstore t₁ s ht hr).bind_pure fun a' t₂ _ hM hok ↦ hM (SaiResp.ok_iff.2 hok)

/-- `SAI_RET_ERR`: the rest of the function runs on what the first evaluation left. -/
theorem obeys_saiRetErr {stmt : A → AgentM σ (SaiStatus × A)} {a : A}
    {rest : A → AgentM σ SaiStatus} {M : A → SaiTrace → Prop}
    (hfirst : Obeys n t (stmt a) fun p t' ↦ p.1 = saiStatusSuccess → M p.2 t')
    (hsecond : ∀ a t', t <+: t' → Obeys n t' (stmt a))
    (hrest : ∀ a t', t <+: t' → M a t' → Obeys n t' (rest a)) :
    Obeys n t (saiRetErr stmt a rest) := by
  refine Obeys.bind hfirst fun p t' ht hM ↦ Obeys.ite (fun _ ↦ ?_) fun hp ↦
    hrest p.2 t' ht (hM (not_not.1 hp))
  exact Obeys.bind (hsecond p.2 t' ht) fun _ _ _ _ ↦ Obeys.pure
    fun _ _ ↦ trivial

/-- A wrapped call that stores nothing. -/
theorem obeys_plainCall {rest : Unit → AgentM σ SaiStatus} (hc : Licensed n t c)
    (hrest : ∀ t', t <+: t' → (∃ r, (c, r) ∈ t'.drop t.length ∧ r.ok = true) →
      Obeys n t' (rest ())) :
    Obeys n t (saiRetErr (plainCall E c) () rest) := by
  have hcall : ∀ t', t <+: t' → Obeys n t' (plainCall E c ()) fun p t'' ↦
      p.1 = saiStatusSuccess → ∃ r, (c, r) ∈ t''.drop t.length ∧ r.ok = true := fun t' ht ↦
    obeys_saiCall (M := fun _ t'' ↦ ∃ r, (c, r) ∈ t''.drop t.length ∧ r.ok = true) (hc.mono ht)
      fun _ _ _ hr ↦ Obeys.pure fun _ ht' hok ↦
        ⟨_, mem_drop_of_prefix ht' (mem_drop_of_le ht.length_le hr), hok⟩
  exact obeys_saiRetErr (hcall t List.prefix_rfl)
    (fun _ t' ht ↦ (hcall t' ht).mono fun _ _ _ _ ↦ trivial) fun _ ↦ hrest

/-- A method table is obtained. -/
theorem obeys_query (hn : n ≤ t.length) {rest : Unit → AgentM σ SaiStatus}
    (hrest : ∀ t', t <+: t' → Obtained (t'.drop n) api → Obeys n t' (rest ())) :
    Obeys n t (saiRetErr (plainCall E (.saiApiQuery api)) () rest) :=
  obeys_plainCall licensed_saiApiQuery fun t' ht ⟨r, hr, hok⟩ ↦
    hrest t' ht ⟨r, mem_drop_of_le hn hr, hok⟩

/-- The last call of a function. -/
theorem obeys_lastCall (hc : Licensed n t c) :
    Obeys n t (saiRetErr (plainCall E c) () fun _ ↦ (pure saiStatusSuccess : AgentM σ _)) :=
  obeys_plainCall hc fun _ _ _ ↦ Obeys.pure fun _ _ ↦ trivial

/-! ### Ports -/

/-- An entry of a list whose entries were told. -/
theorem mem_of_get {l : OidArray} {i : ℕ} (h : l.get i = .ok o) : o ∈ l.entries := by
  rw [OidArray.get] at h
  split at h
  · cases h
    exact List.mem_of_getElem? ‹_›
  · cases h

theorem obeys_saiSwitchPortFind (portId : UInt32) (v : Oid) :
    Obeys n t (saiSwitchPortFind portId v : AgentM σ _) fun p t' ↦ Told t' .port p.2 := by
  refine Obeys.bind (M := fun l t' ↦ ∀ o ∈ l.entries, Told t' .port o)
    (Obeys.getState fun _ _ _ hb ↦ hb.portList) fun l t' _ hl ↦ ?_
  exact Obeys.bind_pure (M := fun o t'' ↦ Told t'' .port o) (Obeys.lift
    fun o ho t'' ht ↦ (hl o (mem_of_get ho)).mono ht) fun _ _ _ h ↦ h

theorem obeys_portFind {portId : UInt32} {v : Oid} {rest : Oid → AgentM σ SaiStatus}
    (hrest : ∀ o t', t <+: t' → Told t' .port o → Obeys n t' (rest o)) :
    Obeys n t (saiRetErr (saiSwitchPortFind portId) v rest) :=
  obeys_saiRetErr ((obeys_saiSwitchPortFind portId v).mono fun _ _ _ h _ ↦ h)
    (fun _ _ _ ↦ (obeys_saiSwitchPortFind portId _).mono fun _ _ _ _ ↦ trivial) hrest

theorem obeys_saiPortAdminStateSet (hn : n ≤ t.length) (portId : UInt32) (admin : UInt8) :
    Obeys n t (saiPortAdminStateSet E portId admin) :=
  obeys_query hn fun _ _ hapi ↦ obeys_portFind fun _ _ ht ho ↦
    obeys_lastCall (licensed_of_told rfl ho rfl (hapi.mono ht))

theorem obeys_saiPortPvidSet (hn : n ≤ t.length) (portId : UInt32) (vid : UInt16) :
    Obeys n t (saiPortPvidSet E portId vid) :=
  obeys_portFind fun _ _ ht ho ↦ obeys_query (Nat.le_trans hn ht.length_le) fun _ ht' hapi ↦
    obeys_lastCall (licensed_of_told rfl (ho.mono ht') rfl hapi)

/-! ### VLANs -/

/-- A successful query for a VLAN's members stores as many as it counts. -/
def FillsMemberLists (E : SaiBackend σ) : Prop :=
  ∀ o s, (E (.getVlanAttribute o 1 memberListQuery) s).1.ok = true →
    (attrValue (E (.getVlanAttribute o 1 memberListQuery) s).1.attr 0).getCount.toNat ≤
      (E (.getVlanAttribute o 1 memberListQuery) s).1.list.length

theorem Backed.pushVlan (h : Backed t a) {id : UInt16} (ho : Told t .vlan o) :
    Backed t (a.pushVlan ⟨id, o⟩) where
  switchOid := h.switchOid
  portList := h.portList
  brPortList := h.brPortList
  defaultDot1qBridgeOid := h.defaultDot1qBridgeOid
  defaultVlanOid := h.defaultVlanOid
  vlanList := List.forall_mem_cons.2 ⟨ho, h.vlanList⟩

theorem obeys_saiagentVlanAddNew (id : UInt16) (ho : Told t .vlan o) :
    Obeys n t (saiagentVlanAddNew rt id o : AgentM σ _) :=
  Obeys.ite (fun _ ↦ Obeys.bind (M := fun _ _ ↦ True)
    (Obeys.modState fun _ _ ht hb ↦ ⟨hb.pushVlan (ho.mono ht), trivial⟩)
      fun _ _ _ _ ↦ Obeys.pure fun _ _ ↦ trivial)
    fun _ ↦ Obeys.pure fun _ _ ↦ trivial

theorem obeys_saiVlanDefaultInit (hn : n ≤ t.length) : Obeys n t (saiVlanDefaultInit E rt) := by
  refine obeys_query hn fun t₁ _ hapi ↦ Obeys.bind
    (M := fun o t' ↦ Told t' .vlan o) (Obeys.getState fun _ _ _ hb ↦ hb.defaultVlanOid)
      fun o t₂ ht₂ ho ↦ Obeys.ite (fun _ ↦ Obeys.pure fun _ _ ↦ trivial)
        fun _ ↦ ?_
  have hcall : ∀ attr t', t₂ <+: t' →
      Obeys n t' (attrCall E (.getVlanAttribute o 1) attr) fun _ _ ↦ True := fun attr t' ht' ↦
    (obeys_saiCall (M := fun _ _ ↦ True) (licensed_of_told rfl (ho.mono ht') rfl
      (hapi.mono (ht₂.trans ht'))) fun _ _ _ _ ↦ Obeys.pure fun _ _ _ ↦ trivial).mono
        fun _ _ _ _ ↦ trivial
  refine obeys_saiRetErr (M := fun _ _ ↦ True) ((hcall _ _ List.prefix_rfl).mono
    fun _ _ _ _ _ ↦ trivial) hcall fun attr t₃ ht₃ _ ↦ ?_
  refine Obeys.bind (obeys_saiagentVlanAddNew _ (ho.mono ht₃)) fun info _ _ _ ↦ ?_
  cases info with
  | none => exact Obeys.pure fun _ _ ↦ trivial
  | some _ => exact Obeys.pure fun _ _ ↦ trivial

/-- The VLAN the function goes on with was told. -/
theorem obeys_useOrCreateVlan {vlanId : UInt16} {rest : Oid → AgentM σ SaiStatus}
    (hapi : Obtained (t.drop n) .vlan)
    (hrest : ∀ o t', t <+: t' → Told t' .vlan o → Obeys n t' (rest o)) :
    Obeys n t (useOrCreateVlan E rt vlanId rest) := by
  refine Obeys.bind (M := fun l t' ↦ ∀ e ∈ l, Told t' .vlan e.oid)
    (Obeys.getState fun _ _ _ hb ↦ hb.vlanList) fun l t₁ ht₁ hl ↦ ?_
  rcases hget : saiagentVlanGet l vlanId with _ | info
  · refine Obeys.bind (M := fun o t' ↦ Told t' .switch o)
      (Obeys.getState fun _ _ _ hb ↦ hb.switchOid) fun sw t₂ ht₂ hsw ↦ ?_
    refine Obeys.bind
      (M := fun r t' ↦ (SaiCall.createVlan sw 1 [⟨.vlanVlanId, .u16 vlanId⟩], r) ∈ t')
      (Obeys.ask (licensed_of_told rfl hsw rfl (hapi.mono (ht₁.trans ht₂)))
        fun _ _ _ ↦ List.mem_append_right _ List.mem_cons_self) fun r t₃ ht₃ hr ↦ ?_
    refine Obeys.ite (fun _ ↦ Obeys.pure fun _ _ ↦ trivial) fun hok ↦ ?_
    -- A successful create stores an id.
    have hout : r.outOid = some (r.outOid.getD saiNullObjectId) := by
      rw [SaiResp.outOid, if_pos (SaiResp.ok_iff.2 (not_not.1 hok)), Option.getD_some]
    have ho : Told t₃ .vlan (r.outOid.getD saiNullObjectId) := told_of_mem hr hout
    refine Obeys.bind (obeys_saiagentVlanAddNew _ ho) fun info t₄ ht₄ _ ↦ ?_
    cases info with
    | none => exact Obeys.pure fun _ _ ↦ trivial
    | some _ => exact hrest _ t₄ (((ht₁.trans ht₂).trans ht₃).trans ht₄) (ho.mono ht₄)
  · exact hrest _ t₁ ht₁ (hl info (List.mem_of_find?_eq_some hget))

/-- The entries of an array after a callee stored into it. -/
theorem mem_of_store {l l' : OidArray} {room : UInt32} {vs : List Oid}
    (h : l.store room vs = .ok l') {o : Oid} (ho : o ∈ l'.entries) : o ∈ vs ∨ o ∈ l.entries := by
  rw [OidArray.store] at h
  split at h
  · cases h
    rcases List.mem_append.1 ho with ho | ho
    · exact Or.inl (List.mem_of_mem_take ho)
    · exact Or.inr (List.mem_of_mem_drop ho)
  · cases h

/-- The stored entries come first. -/
theorem mem_of_get_store {l l' : OidArray} {vs : List Oid}
    (h : l.store OidArray.arrayLen vs = .ok l') {i : ℕ} (hi : i < vs.length)
    (hget : l'.get i = .ok o) : o ∈ vs := by
  obtain ⟨l₁, hl₁, hentries⟩ := l.store_arrayLen vs
  obtain rfl : l₁ = l' := Except.ok.inj (hl₁.symm.trans h)
  have hi64 : i < 64 := by
    by_contra hge
    rw [l₁.get_of_le (Nat.not_lt.1 hge)] at hget
    cases hget
  have hlt : i < (vs.take 64).length := by
    rw [List.length_take]
    exact Nat.lt_min.2 ⟨hi64, hi⟩
  rw [OidArray.get, hentries, List.getElem?_append_left hlt, List.getElem?_eq_getElem hlt] at hget
  cases hget
  exact List.mem_of_mem_take (List.getElem_mem hlt)

/-- The entries the scan reads were told. -/
def MembersTold (members : OidArray) (count : ℕ) (t : SaiTrace) : Prop :=
  ∀ i o, i < count → members.get i = .ok o → Told t .vlanMember o

theorem obeys_memberListCall (hE : FillsMemberLists E) {list : OidArray} (ho : Told t .vlan o)
    (hapi : Obtained (t.drop n) .vlan) :
    Obeys n t (memberListCall E o (memberListQuery, list)) fun p t' ↦ p.1 = saiStatusSuccess →
      MembersTold p.2.2 (attrValue p.2.1 0).getCount.toNat t' := by
  have hc : Licensed n t (.getVlanAttribute o 1 memberListQuery) :=
    licensed_of_told rfl ho rfl hapi
  refine obeys_saiCall (M := fun (l : List SaiAttribute × OidArray) t' ↦
    MembersTold l.2 (attrValue l.1 0).getCount.toNat t') hc fun t₁ s _ hr ↦ ?_
  refine Obeys.bind_pure (M := fun l t' ↦ ∃ ht : t₁ <+: t', list.store OidArray.arrayLen
    (E (.getVlanAttribute o 1 memberListQuery) s).1.list = .ok l)
    (Obeys.lift fun _ hl _ ht' ↦ ⟨ht', hl⟩) ?_
  rintro l t' - ⟨ht', hl⟩ hok i o' hi hget
  exact told_of_mem (ht'.subset (List.mem_of_mem_drop hr))
    (mem_of_get_store hl (Nat.lt_of_lt_of_le hi (hE o s hok)) hget)

theorem obeys_scanMembers {vlanOid brPortOid : Oid} {members : OidArray}
    {rest : Oid → AgentM σ SaiStatus} {count : ℕ} (hapi : Obtained (t.drop n) .vlan)
    (hm : MembersTold members count t) (hrest : ∀ o t', t <+: t' → Obeys n t' (rest o)) :
    ∀ (m i : ℕ), i + m ≤ count → ∀ t', t <+: t' →
      Obeys n t' (scanMembers E vlanOid brPortOid members rest m i)
  | 0, _, _, t', ht => hrest _ t' ht
  | m + 1, i, hi, t', ht => by
    refine Obeys.bind (M := fun o t'' ↦ members.get i = .ok o)
      (Obeys.lift fun _ ho _ _ ↦ ho) fun o t₁ ht₁ ho ↦ ?_
    have htold : Told t₁ .vlanMember o := (hm i o (by omega) ho).mono (ht.trans ht₁)
    refine Obeys.bind (M := fun _ _ ↦ True) (Obeys.ask
      (licensed_of_told rfl htold rfl (hapi.mono (ht.trans ht₁))) fun _ _ _ ↦ trivial)
        fun r t₂ ht₂ _ ↦ ?_
    refine Obeys.ite (fun _ ↦ Obeys.pure fun _ _ ↦ trivial) fun _ ↦
      Obeys.ite (fun _ ↦ hrest _ t₂ ((ht.trans ht₁).trans ht₂)) fun _ ↦
        obeys_scanMembers hapi hm hrest m (i + 1) (by omega) t₂ ((ht.trans ht₁).trans ht₂)

theorem obeys_enableBridgePort (ho : Told t .bridgePort o) (hapi : Obtained (t.drop n) .bridge) :
    Obeys n t (enableBridgePort E o) :=
  obeys_lastCall (licensed_of_told rfl ho rfl hapi)

theorem obeys_ensureMember {vlanOid brPortOid portVlanOid : Oid} {tag : Bool}
    (hv : Told t .vlan vlanOid) (hb : Told t .bridgePort brPortOid)
    (hvlan : Obtained (t.drop n) .vlan) (hbridge : Obtained (t.drop n) .bridge) :
    Obeys n t (ensureMember E vlanOid brPortOid tag portVlanOid) := by
  refine Obeys.ite (fun _ ↦ obeys_enableBridgePort hb hbridge) fun _ ↦ ?_
  refine Obeys.bind (M := fun o t' ↦ Told t' .switch o)
    (Obeys.getState fun _ _ _ h ↦ h.switchOid) fun sw t₁ ht₁ hsw ↦ ?_
  have hc : Licensed n t₁ (createMember sw vlanOid brPortOid tag) := by
    constructor
    · intro u hu
      simp only [createMember, SaiCall.uses, SaiAttribute.refers, List.flatMap_cons,
        List.flatMap_nil, SaiAttrValue.getOid, List.cons_append, List.nil_append, List.append_nil,
        List.mem_cons, List.not_mem_nil, or_false] at hu
      rcases hu with rfl | rfl | rfl
      · exact hsw
      · exact hv.mono ht₁
      · exact hb.mono ht₁
    · rintro api ⟨⟩
      exact hvlan.mono ht₁
  refine Obeys.bind (M := fun _ _ ↦ True) (Obeys.ask hc fun _ _ _ ↦ trivial)
    fun r t₂ ht₂ _ ↦ Obeys.ite (fun _ ↦ Obeys.pure fun _ _ ↦ trivial)
      fun _ ↦ obeys_enableBridgePort (hb.mono (ht₁.trans ht₂)) (hbridge.mono (ht₁.trans ht₂))

theorem obeys_saiVlanAddPortMember (hE : FillsMemberLists E) (hn : n ≤ t.length) (vlanId : UInt16)
    (portId : UInt32) (tag : Bool) : Obeys n t (saiVlanAddPortMember E rt vlanId portId tag) := by
  refine obeys_query hn fun t₁ ht₁ hvlan ↦ obeys_query (Nat.le_trans hn ht₁.length_le)
    fun t₂ ht₂ hbridge ↦ ?_
  refine Obeys.bind (M := fun o t' ↦ Told t' .bridgePort o) ?_ fun b t₃ ht₃ hb ↦
    Obeys.ite (fun _ ↦ Obeys.pure fun _ _ ↦ trivial) fun _ ↦ ?_
  · refine Obeys.bind (M := fun l t' ↦ ∀ o ∈ l.entries, Told t' .bridgePort o)
      (Obeys.getState fun _ _ _ h ↦ h.brPortList) fun l t' _ hl ↦ ?_
    exact Obeys.lift fun o ho t'' ht ↦ (hl o (mem_of_get ho)).mono ht
  have hvlan' := hvlan.mono (ht₂.trans ht₃)
  have hbridge' := hbridge.mono ht₃
  refine obeys_useOrCreateVlan hvlan' fun v t₄ ht₄ hv ↦ obeys_saiRetErr
    (M := fun l t' ↦ MembersTold l.2 (attrValue l.1 0).getCount.toNat t')
    (obeys_memberListCall hE hv (hvlan'.mono ht₄)) (fun l t₅ ht₅ ↦ ?_) fun l t₅ ht₅ hl ↦ ?_
  · -- The repetition asks for the same VLAN, and nothing comes after it.
    have hc : Licensed n t₅ (.getVlanAttribute v 1 l.1) :=
      licensed_of_told rfl (hv.mono ht₅) rfl (hvlan'.mono (ht₄.trans ht₅))
    refine (obeys_saiCall (M := fun (_ : List SaiAttribute × OidArray) _ ↦ True) hc
      fun _ _ _ _ ↦ ?_).mono fun _ _ _ _ ↦ trivial
    exact Obeys.bind_pure (M := fun _ _ ↦ True)
      (Obeys.lift fun _ _ _ _ ↦ trivial) fun _ _ _ _ _ ↦ trivial
  · have ht := ht₄.trans ht₅
    exact obeys_scanMembers (hvlan'.mono ht) hl (fun o t₆ ht₆ ↦ obeys_ensureMember
      (hv.mono (ht₅.trans ht₆)) (hb.mono (ht.trans ht₆)) (hvlan'.mono (ht.trans ht₆))
        (hbridge'.mono (ht.trans ht₆))) _ 0 (by omega) t₅ List.prefix_rfl

/-! ### The switch -/

/-- What a list query stores, it stores into an array whose entries were told. -/
theorem obeys_storeOids {get : Agent → OidArray} {set : Agent → OidArray → Agent}
    {attr : List SaiAttribute} (hr : ∀ o ∈ r.list, Told t type o)
    (hget : ∀ t' a, Backed t' a → ∀ o ∈ (get a).entries, Told t' type o)
    (hset : ∀ t' a l, Backed t' a → (∀ o ∈ l.entries, Told t' type o) → Backed t' (set a l)) :
    Obeys n t (storeOids get set attr r : AgentM σ _) fun attr' _ ↦ attr' = r.attr := by
  refine Obeys.bind (M := fun l t' ↦ ∀ o ∈ l.entries, Told t' type o)
    (Obeys.getState fun t' a _ hb ↦ hget t' a hb) fun l t₁ ht₁ hl ↦ ?_
  refine Obeys.bind (M := fun l' t' ↦ ∀ o ∈ l'.entries, Told t' type o)
    (Obeys.lift fun l' hl' t' ht' o ho ↦ ?_) fun l' t₂ _ hl' ↦ ?_
  · rcases mem_of_store hl' ho with ho | ho
    · exact (hr o ho).mono (ht₁.trans ht')
    · exact (hl o ho).mono ht'
  · exact Obeys.bind (M := fun _ _ ↦ True) (Obeys.modState fun t' a ht hb ↦
      ⟨hset t' a l' hb fun o ho ↦ (hl' o ho).mono ht, trivial⟩) fun _ _ _ _ ↦
        Obeys.pure fun _ _ ↦ rfl

theorem Backed.setPortList (h : Backed t a) {l : OidArray} (hl : ∀ o ∈ l.entries, Told t .port o) :
    Backed t (a.setPortList l) where
  switchOid := h.switchOid
  portList := hl
  brPortList := h.brPortList
  defaultDot1qBridgeOid := h.defaultDot1qBridgeOid
  defaultVlanOid := h.defaultVlanOid
  vlanList := h.vlanList

theorem Backed.setBrPortList (h : Backed t a) {l : OidArray}
    (hl : ∀ o ∈ l.entries, Told t .bridgePort o) : Backed t (a.setBrPortList l) where
  switchOid := h.switchOid
  portList := h.portList
  brPortList := hl
  defaultDot1qBridgeOid := h.defaultDot1qBridgeOid
  defaultVlanOid := h.defaultVlanOid
  vlanList := h.vlanList

/-- The bridge and the VLAN the switch query asks for were told. -/
def DefaultsTold (attr : List SaiAttribute) (t : SaiTrace) : Prop :=
  Told t .bridge (attrValue attr 1).getOid ∧ Told t .vlan (attrValue attr 2).getOid

theorem obeys_switchAttrCall {attr : List SaiAttribute} (ho : Told t .switch o)
    (hapi : Obtained (t.drop n) .switch) :
    Obeys n t (switchAttrCall E o attr) fun p t' ↦ p.1 = saiStatusSuccess →
      DefaultsTold p.2 t' := by
  have hc : Licensed n t (.getSwitchAttribute o 3 attr) := licensed_of_told rfl ho rfl hapi
  refine obeys_saiCall (M := DefaultsTold) hc fun t₁ s _ hr ↦ ?_
  have hmem := List.mem_of_mem_drop hr
  have hports : ∀ o' ∈ (E (.getSwitchAttribute o 3 attr) s).1.list, Told t₁ .port o' :=
    fun o' ho' ↦ told_of_mem hmem ho'
  refine (obeys_storeOids hports (fun _ _ hb ↦ hb.portList)
    fun _ _ _ hb hl ↦ hb.setPortList hl).mono ?_
  rintro attr' t₂ ht rfl -
  exact ⟨told_of_mem (ht.subset hmem) rfl, told_of_mem (ht.subset hmem) rfl⟩

theorem obeys_bridgeAttrCall {attr : List SaiAttribute} (ho : Told t .bridge o)
    (hapi : Obtained (t.drop n) .bridge) : Obeys n t (bridgeAttrCall E o attr) := by
  have hc : Licensed n t (.getBridgeAttribute o 1 attr) := licensed_of_told rfl ho rfl hapi
  refine (obeys_saiCall (M := fun _ _ ↦ True) hc fun t₁ s _ hr ↦ ?_).mono fun _ _ _ _ ↦ trivial
  have hbrPorts : ∀ o' ∈ (E (.getBridgeAttribute o 1 attr) s).1.list, Told t₁ .bridgePort o' :=
    fun o' ho' ↦ told_of_mem (List.mem_of_mem_drop hr) ho'
  refine (obeys_storeOids hbrPorts (fun _ _ hb ↦ hb.brPortList)
    fun _ _ _ hb hl ↦ hb.setBrPortList hl).mono ?_
  exact fun _ _ _ _ _ ↦ trivial

theorem obeys_saiBridgeQuery {attr : List SaiAttribute} (ho : Told t .switch o)
    (hattr : DefaultsTold attr t) (hswitch : Obtained (t.drop n) .switch)
    (hbridge : Obtained (t.drop n) .bridge) : Obeys n t (saiBridgeQuery E o attr) := by
  refine Obeys.ite (fun _ ↦ Obeys.pure fun _ _ ↦ trivial) fun _ ↦
    Obeys.ite (fun _ ↦ Obeys.pure fun _ _ ↦ trivial) fun _ ↦ ?_
  refine Obeys.bind (M := fun _ _ ↦ True) (Obeys.modState fun t' a ht hb ↦
    ⟨⟨hb.switchOid, hb.portList, hb.brPortList, hattr.1.mono ht, hattr.2.mono ht, hb.vlanList⟩,
      trivial⟩) fun _ t₁ ht₁ _ ↦ ?_
  refine obeys_saiRetErr (M := fun _ _ ↦ True) ((obeys_bridgeAttrCall (hattr.1.mono ht₁)
    (hbridge.mono ht₁)).mono fun _ _ _ _ _ ↦ trivial) (fun _ t₂ ht₂ ↦ obeys_bridgeAttrCall
      (hattr.1.mono (ht₁.trans ht₂)) (hbridge.mono (ht₁.trans ht₂))) fun _ t₂ ht₂ _ ↦ ?_
  exact obeys_lastCall (licensed_of_told rfl (ho.mono (ht₁.trans ht₂)) rfl
    (hswitch.mono (ht₁.trans ht₂)))

theorem obeys_saiSwitchQuery (hswitch : Obtained (t.drop n) .switch)
    (hbridge : Obtained (t.drop n) .bridge) : Obeys n t (saiSwitchQuery E) := by
  refine Obeys.bind (M := fun o t' ↦ Told t' .switch o)
    (Obeys.getState fun _ _ _ hb ↦ hb.switchOid) fun o t₁ ht₁ ho ↦ ?_
  refine obeys_saiRetErr (M := DefaultsTold) (obeys_switchAttrCall ho (hswitch.mono ht₁))
    (fun _ t₂ ht₂ ↦ (obeys_switchAttrCall (ho.mono ht₂) (hswitch.mono (ht₁.trans ht₂))).mono
      fun _ _ _ _ ↦ trivial) fun attr t₂ ht₂ hattr ↦ ?_
  exact obeys_saiBridgeQuery (ho.mono ht₂) hattr (hswitch.mono (ht₁.trans ht₂))
    (hbridge.mono (ht₁.trans ht₂))

theorem obeys_createSwitch (hswitch : Obtained (t.drop n) .switch)
    (hbridge : Obtained (t.drop n) .bridge) : Obeys n t (createSwitch E rt) := by
  refine Obeys.ite (fun _ ↦ ?_) fun _ ↦ Obeys.fault _
  have hc : Licensed n t (.createSwitch 3 createSwitchAttr) := by
    constructor
    · intro u hu
      simp [SaiCall.uses] at hu
    · rintro api ⟨⟩
      exact hswitch
  refine Obeys.bind
    (M := fun r t' ↦ (SaiCall.createSwitch 3 createSwitchAttr, r) ∈ t') (Obeys.ask hc
      fun _ _ _ ↦ List.mem_append_right _ List.mem_cons_self) fun r t₁ ht₁ hr ↦ ?_
  refine Obeys.bind (M := fun _ _ ↦ True) (Obeys.modState fun t' a ht hb ↦
    ⟨⟨?_, hb.portList, hb.brPortList, hb.defaultDot1qBridgeOid, hb.defaultVlanOid, hb.vlanList⟩,
      trivial⟩) fun _ t₂ ht₂ _ ↦ ?_
  · -- The id is the one the call stored, or what was there before.
    show Told t' .switch (r.outOid.getD a.swInfo.switchOid)
    rcases hout : r.outOid with _ | o
    · exact hb.switchOid
    · exact told_of_mem (ht.subset hr) hout
  · exact Obeys.ite (fun _ ↦ Obeys.pure fun _ _ ↦ trivial) fun _ ↦
      obeys_saiSwitchQuery (hswitch.mono (ht₁.trans ht₂)) (hbridge.mono (ht₁.trans ht₂))

theorem obeys_saiSwitchInit (hn : n ≤ t.length) : Obeys n t (saiSwitchInit E rt) :=
  obeys_query hn fun _ ht₁ hswitch ↦ obeys_query (Nat.le_trans hn ht₁.length_le)
    fun _ ht₂ hbridge ↦ obeys_createSwitch (hswitch.mono ht₂) hbridge

/-! ### Requests -/

/-- What the backing of a state depends on. -/
def heldOids (a : Agent) : SaiagentSwitchInfo × List VlanInfo :=
  ({ a.swInfo with keepaliveCtx := none }, a.vlanList)

theorem backed_of_heldOids_eq {a' : Agent} (h : heldOids a = heldOids a') (hb : Backed t a) :
    Backed t a' := by
  have hinfo := congrArg Prod.fst h
  have hports := congrArg SaiagentSwitchInfo.portList hinfo
  have hbrPorts := congrArg SaiagentSwitchInfo.brPortList hinfo
  have hvlans : a.vlanList = a'.vlanList := congrArg Prod.snd h
  constructor
  · exact congrArg SaiagentSwitchInfo.switchOid hinfo ▸ hb.switchOid
  · exact hports ▸ hb.portList
  · exact hbrPorts ▸ hb.brPortList
  · exact congrArg SaiagentSwitchInfo.defaultDot1qBridgeOid hinfo ▸ hb.defaultDot1qBridgeOid
  · exact congrArg SaiagentSwitchInfo.defaultVlanOid hinfo ▸ hb.defaultVlanOid
  · exact hvlans ▸ hb.vlanList

/-- What asks nothing and touches none of the ids. -/
theorem obeys_of_keeps {α : Type} {p : AgentM σ α}
    (h : Keeps (fun w : World σ ↦ (w.trace, heldOids w.state)) p) : Obeys n t p :=
  Obeys.of_keeps (fun _ _ _ ↦ backed_of_heldOids_eq) h fun _ _ _ ↦ trivial

theorem obeys_lift (x : Except Fault SaiagentMsg) :
    Obeys n t (lift x : AgentM σ SaiagentMsg) :=
  obeys_of_keeps (Keeps.lift x)

/-- One registration after the other. -/
theorem obeys_cbSet_bind {α : Type} {type' : ℕ} {cb : Handler} {rest : Rc → AgentM σ α}
    (hrest : ∀ s t', t <+: t' → Obeys n t' (rest s)) :
    Obeys n t (saiagentIpcCbSet type' cb >>= rest) :=
  Obeys.bind (M := fun _ _ ↦ True) (obeys_of_keeps (keeps_saiagentIpcCbSet fun _ ↦ rfl))
    fun s t' ht _ ↦ hrest s t' ht

theorem obeys_saiagentSwitchInit (hn : n ≤ t.length) : Obeys n t (saiagentSwitchInit E rt) :=
  Obeys.bind (obeys_saiSwitchInit hn) fun _ _ _ _ ↦
    Obeys.ite (fun _ ↦ Obeys.pure fun _ _ ↦ trivial) fun _ ↦
      obeys_cbSet_bind fun _ _ _ ↦ obeys_cbSet_bind fun _ _ _ ↦ obeys_cbSet_bind fun _ _ _ ↦
        Obeys.pure fun _ _ ↦ trivial

theorem obeys_saiagentPortInit : Obeys n t (saiagentPortInit rt : AgentM σ Rc) :=
  obeys_cbSet_bind fun _ _ _ ↦ obeys_cbSet_bind fun _ _ _ ↦ obeys_cbSet_bind fun _ _ _ ↦
    Obeys.pure fun _ _ ↦ trivial

theorem obeys_saiagentFdbInit : Obeys n t (saiagentFdbInit rt : AgentM σ Rc) :=
  obeys_cbSet_bind fun _ _ _ ↦ Obeys.pure fun _ _ ↦ trivial

theorem obeys_saiagentRouterInit : Obeys n t (saiagentRouterInit rt : AgentM σ Rc) :=
  obeys_cbSet_bind fun _ _ _ ↦ obeys_cbSet_bind fun _ _ _ ↦ obeys_cbSet_bind fun _ _ _ ↦
    obeys_cbSet_bind fun _ _ _ ↦ obeys_cbSet_bind fun _ _ _ ↦
      Obeys.pure fun _ _ ↦ trivial

theorem obeys_saiagentVlanInit (hn : n ≤ t.length) : Obeys n t (saiagentVlanInit E rt) := by
  have hlog : Licensed n t (.saiLogSet .vlan .debug) := by
    constructor
    · intro u hu
      simp [SaiCall.uses] at hu
    · rintro api ⟨⟩
  refine Obeys.bind (M := fun _ _ ↦ True) (Obeys.ask hlog
    fun _ _ _ ↦ trivial) fun _ t₁ ht₁ _ ↦ Obeys.ite
      (fun _ ↦ Obeys.pure fun _ _ ↦ trivial) fun _ ↦ Obeys.bind
        (obeys_saiVlanDefaultInit (Nat.le_trans hn ht₁.length_le)) fun _ _ _ _ ↦
          Obeys.ite (fun _ ↦ Obeys.pure fun _ _ ↦ trivial) fun _ ↦ ?_
  exact obeys_cbSet_bind fun _ _ _ ↦ obeys_cbSet_bind fun _ _ _ ↦ obeys_cbSet_bind fun _ _ _ ↦
    obeys_cbSet_bind fun _ _ _ ↦ obeys_cbSet_bind fun _ _ _ ↦
      Obeys.pure fun _ _ ↦ trivial

theorem obeys_switchInit (hn : n ≤ t.length) (request reply : SaiagentMsg) :
    Obeys n t (saiagentIpcProcessSwitchInit E rt request reply) := by
  refine Obeys.bind (obeys_saiagentSwitchInit hn) fun _ t₁ ht₁ _ ↦
    Obeys.ite (fun _ ↦ obeys_lift _) fun _ ↦ ?_
  refine Obeys.bind (M := fun _ _ ↦ True) (Obeys.getState fun _ _ _ _ ↦
    trivial) fun numPorts t₂ ht₂ _ ↦ Obeys.bind obeys_saiagentPortInit
      fun _ t₃ ht₃ _ ↦ Obeys.bind obeys_saiagentFdbInit fun _ t₄ ht₄ _ ↦ ?_
  have ht := ((ht₁.trans ht₂).trans ht₃).trans ht₄
  exact Obeys.bind (obeys_saiagentVlanInit (Nat.le_trans hn ht.length_le))
    fun _ _ _ _ ↦ Obeys.bind obeys_saiagentRouterInit fun _ _ _ _ ↦
      Obeys.ite (fun _ ↦ obeys_lift _) fun _ ↦ obeys_lift _

/-- The switch is removed under the id it was created with, through a table that was obtained. -/
theorem obeys_switchReset (hn : n ≤ t.length) (request reply : SaiagentMsg) :
    Obeys n t (saiagentIpcProcessSwitchReset E rt request reply) := by
  refine Obeys.bind (M := fun i t' ↦ Told t' .switch i.switchOid)
    (Obeys.getState fun _ _ _ hb ↦ hb.switchOid) fun info t₁ ht₁ hsw ↦
      Obeys.ite (fun _ ↦ ?_) fun _ ↦ obeys_lift _
  refine Obeys.bind (M := fun _ _ ↦ True) (obeys_of_keeps
    (keeps_saiagentThreadStop (fun _ _ ↦ rfl) _)) fun _ t₂ ht₂ _ ↦ ?_
  refine Obeys.bind
    (M := fun r t' ↦ (SaiCall.saiApiQuery .switch, r) ∈ t'.drop t₂.length)
    (Obeys.ask licensed_saiApiQuery fun _ _ ht ↦ ?_) fun r t₃ ht₃ hr ↦
      Obeys.ite (fun _ ↦ Obeys.fault _) fun hok ↦ ?_
  · rw [List.drop_append_of_le_length ht.length_le]
    exact List.mem_append_right _ List.mem_cons_self
  have hle := Nat.le_trans hn (ht₁.trans ht₂).length_le
  have hapi : Obtained (t₃.drop n) .switch :=
    ⟨r, mem_drop_of_le hle hr, SaiResp.ok_iff.2 (not_not.1 hok)⟩
  refine Obeys.bind (M := fun _ _ ↦ True) (Obeys.ask (licensed_of_told rfl
    (hsw.mono (ht₂.trans ht₃)) rfl hapi) fun _ _ _ ↦ trivial) fun _ _ _ _ ↦
      Obeys.bind (M := fun _ _ ↦ True) (obeys_of_keeps
        (keeps_saiagentThreadDestroy (fun _ _ ↦ rfl) _)) fun _ _ _ _ ↦ ?_
  exact Obeys.bind (M := fun _ _ ↦ True) (obeys_of_keeps (Keeps.bind
    (Keeps.modState fun _ ↦ rfl) fun _ ↦ Keeps.pure _)) fun _ _ _ _ ↦ obeys_lift _

/-- **Every handler respects the discipline.** -/
theorem obeys_handler (hE : FillsMemberLists E) (hn : n ≤ t.length) (handler : Handler)
    (request reply : SaiagentMsg) : Obeys n t (handler.run E rt request reply) := by
  cases handler with
  | switchInit => exact obeys_switchInit hn request reply
  | switchReset => exact obeys_switchReset hn request reply
  | keepaliveInit =>
    refine Obeys.bind (M := fun _ _ ↦ True) (obeys_of_keeps
      (keeps_saiagentThreadCreate (fun _ _ ↦ rfl) _ _ _)) fun ctx _ _ _ ↦ ?_
    cases ctx with
    | none => exact obeys_lift _
    | some i =>
      exact Obeys.bind (M := fun _ _ ↦ True) (obeys_of_keeps
        (Keeps.modState fun _ ↦ rfl)) fun _ _ _ _ ↦ obeys_lift _
  | portAttrSet =>
    exact Obeys.ite (fun _ ↦ Obeys.bind (obeys_saiPortAdminStateSet hn _ _)
      fun _ _ _ _ ↦ Obeys.ite (fun _ ↦ obeys_lift _) fun _ ↦ obeys_lift _)
        fun _ ↦ obeys_lift _
  | vlanPortSet =>
    exact Obeys.bind (obeys_saiVlanAddPortMember hE hn _ _ _) fun _ _ _ _ ↦
      Obeys.ite (fun _ ↦ obeys_lift _) fun _ ↦ obeys_lift _
  | vlanPvidSet =>
    exact Obeys.bind (M := fun _ _ ↦ True) (Obeys.bind
      (obeys_saiPortPvidSet hn _ _) fun _ _ _ _ ↦ Obeys.ite
        (fun _ ↦ Obeys.pure fun _ _ ↦ trivial)
          fun _ ↦ Obeys.pure fun _ _ ↦ trivial) fun _ _ _ _ ↦ obeys_lift _
  | switchAttrSet | portInfoGet | portAttrGet | vlanCreate | vlanDelete | stpPortSet
  | fdbFlushPort | routerMpHashSet | routerVrCreate | routerVrDel | routerLpmAdd
  | routerLpmDel => exact obeys_lift _

/-! ### Runs -/

/-- A request: what the agent holds stays backed, and its calls are licensed. -/
theorem respected_step (hE : FillsMemberLists E) (s : Session σ) (i : SessionInput)
    (h : Backed s.world.trace s.world.state) :
    (saiDiscipline s.world.trace.length).Respected (s.step E i).world ∧
      s.world.trace <+: (s.step E i).world.trace := by
  have hs : (saiDiscipline s.world.trace.length).Respected s.world := ⟨lawful_length, h⟩
  rw [Session.step_world]
  rcases hsel : selected s.world.state.ipcCbList i.buf.bytes i.size with _ | handler
  · obtain ⟨reply, hrun⟩ := Session.handle_of_not_selected (E := E) hsel
    rw [hrun]
    exact ⟨hs, List.prefix_rfl⟩
  · rw [Session.handle_of_selected hsel]
    obtain ⟨hw, ht, -⟩ := obeys_handler hE (Nat.le_refl _) handler
      (handedRequest i.buf.bytes i.size) (freshReply i.out.bytes) s.world List.prefix_rfl hs
    exact ⟨hw, ht⟩

/-- Before the first request the agent holds null ids only. -/
theorem backed_start (env : σ) :
    Backed (Session.start env).world.trace (Session.start env).world.state where
  switchOid := told_null
  portList := fun _ ho ↦ Or.inl (List.eq_of_mem_replicate ho)
  brPortList := fun _ ho ↦ Or.inl (List.eq_of_mem_replicate ho)
  defaultDot1qBridgeOid := told_null
  defaultVlanOid := told_null
  vlanList := fun _ he ↦ absurd he List.not_mem_nil

/-- In every state of a run the agent holds ids it was told. -/
theorem backed_exec (hE : FillsMemberLists E) (env : σ) (is : List SessionInput) :
    Backed (Session.exec E (Session.start env) is).world.trace
      (Session.exec E (Session.start env) is).world.state :=
  Run.exec_invariant_of_all (J := fun s : Session σ ↦ Backed s.world.trace s.world.state)
    (fun s i _ hs ↦ (respected_step hE s i hs).1.backed) is _ (backed_start env)

/-- **No forged object ids.** In a run of requests whose port numbers are inside the arrays, nothing
goes past an array, and the calls the last request leads to are made with null ids or with ids an
earlier answer told as objects of the type they are used as, and go through method tables obtained
while the same request was handled. -/
theorem licensed_step (hE : FillsMemberLists E) (hroom : KeepsRoom E) (env : σ)
    (is : List SessionInput) (i : SessionInput) (hports : Along Session.Live (Session.step E)
      Session.LooksInside (Session.start env) (is ++ [i])) :
    Along Session.Live (Session.step E) (Session.StaysInside E) (Session.start env) (is ++ [i]) ∧
    ∃ u, ((Session.exec E (Session.start env) is).step E i).world.trace =
        (Session.exec E (Session.start env) is).world.trace ++ u ∧
      ∀ u₁ c r u₂, u = u₁ ++ (c, r) :: u₂ →
        (∀ x ∈ c.uses, Told ((Session.exec E (Session.start env) is).world.trace ++ u₁) x.1 x.2) ∧
          ∀ api, c.methodTable = some api → Obtained u₁ api := by
  refine ⟨along_staysInside hroom hports, ?_⟩
  obtain ⟨hres, u, hu⟩ := respected_step hE _ i (backed_exec hE env is)
  refine ⟨u, hu.symm, ?_⟩
  rintro u₁ c r u₂ rfl
  have hl := hres.lawful _ c r u₂ (by rw [← hu, List.append_assoc]) (by
    rw [List.length_append]
    exact Nat.le_add_right _ _)
  refine ⟨hl.told, fun api hc ↦ ?_⟩
  have hapi := hl.obtained api hc
  rwa [List.drop_left] at hapi

theorem fillsMemberLists_listSai : FillsMemberLists listSai := fun o s h ↦
  Nat.le_of_eq (memberList_listSai o s h).1.symm

/-- On the switch of `listSai`, the second port joins the VLAN the first one is in. -/
theorem licensed_step_listSai :
    Along Session.Live (Session.step listSai) (Session.StaysInside listSai)
      (Session.start ListStore.empty) (initAndAdd (Runtime.calm 0) ++
        [vlanPortInput 1 10 1 1 (Runtime.calm 0)]) ∧
    ∃ u, ((Session.exec listSai (Session.start ListStore.empty)
        (initAndAdd (Runtime.calm 0))).step listSai
          (vlanPortInput 1 10 1 1 (Runtime.calm 0))).world.trace =
        (Session.exec listSai (Session.start ListStore.empty)
          (initAndAdd (Runtime.calm 0))).world.trace ++ u ∧
      ∀ u₁ c r u₂, u = u₁ ++ (c, r) :: u₂ →
        (∀ x ∈ c.uses, Told ((Session.exec listSai (Session.start ListStore.empty)
          (initAndAdd (Runtime.calm 0))).world.trace ++ u₁) x.1 x.2) ∧
          ∀ api, c.methodTable = some api → Obtained u₁ api :=
  licensed_step fillsMemberLists_listSai exactSai_listSai.toKeepsRoom _ _ _ fun _ ↦
    ⟨by decide +kernel, fun _ ↦ ⟨by decide +kernel, fun _ ↦ ⟨by decide +kernel, trivial⟩⟩⟩

end SaiAgent
