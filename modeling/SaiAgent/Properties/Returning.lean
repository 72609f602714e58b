import SaiAgent.Properties.Threads

/-!
# Which functions return

While SAI hands back no more than 64 objects (`KeepsRoom`), a function of the agent runs into
undefined behaviour only through an argument or a library call of its own. `total_handler` collects
this for the request handlers: all but those of SWITCH_INIT and SWITCH_RESET return as soon as the
port number of the request is below 64.
-/

namespace SaiAgent

open Effects Effects.Proc

variable {σ A α β : Type} {E : SaiBackend σ} {rt : Runtime}

/-- A SAI that keeps to the room of the agent's arrays. -/
structure KeepsRoom (E : SaiBackend σ) : Prop where
  count_le : ∀ c s, (attrValue (E c s).1.attr 0).getCount ≤ OidArray.arrayLen

/-- A SAI that has its method tables, too. -/
structure SaneSai (E : SaiBackend σ) : Prop extends KeepsRoom E where
  query_ok : ∀ api s, (E (.saiApiQuery api) s).1.ok = true

/-- A SAI that succeeds at everything, creates objects with the identifier 1 and lists none. -/
def calmSai : SaiBackend Unit := fun _ s ↦ (⟨saiStatusSuccess, some 1, [], []⟩, s)

theorem saneSai_calmSai : SaneSai calmSai where
  count_le _ _ := UInt32.le_iff_toNat_le.2 (Nat.zero_le _)
  query_ok _ _ := rfl

/-- The function returns, from whatever world. -/
abbrev Total (p : AgentM σ α) : Prop := Returns (fun _ ↦ True) p fun _ _ ↦ True

theorem total_pure (a : α) : Total (pure a : AgentM σ α) := Returns.pure fun _ _ ↦ trivial

theorem total_ask (c : SaiCall) : Total (ask E c : AgentM σ SaiResp) :=
  Returns.ask fun _ _ ↦ trivial

theorem total_getState (f : Agent → α) : Total (getState f : AgentM σ α) :=
  Returns.getState fun _ _ ↦ trivial

theorem total_modState (f : Agent → Agent) : Total (modState f : AgentM σ Unit) :=
  Returns.modState fun _ _ ↦ trivial

theorem total_lift {x : Except Fault α} {a : α} (h : x = .ok a) : Total (lift x : AgentM σ α) :=
  Returns.lift h fun _ _ ↦ trivial

theorem Total.bind {p : AgentM σ α} {f : α → AgentM σ β} (hp : Total p) (hf : ∀ a, Total (f a)) :
    Total (p >>= f) :=
  Returns.bind hp hf

theorem Total.ite {c : Prop} [Decidable c] {p q : AgentM σ α} (hp : Total p) (hq : Total q) :
    Total (if c then p else q) :=
  Returns.ite (fun _ ↦ hp) fun _ ↦ hq

/-! ### The macro and the calls -/

/-- `SAI_RET_ERR`, when what its argument stores keeps an invariant the argument returns under. -/
theorem total_saiRetErr {I : A → Prop} {stmt : A → AgentM σ (SaiStatus × A)} {a : A}
    {rest : A → AgentM σ SaiStatus} (ha : I a)
    (hs : ∀ a, I a → Returns (fun _ ↦ True) (stmt a) fun r _ ↦ I r.2)
    (hr : ∀ a, I a → Total (rest a)) : Total (saiRetErr stmt a rest) := by
  refine Returns.bind (hs a ha) fun r w hI ↦ ?_
  exact Total.ite (Returns.bind ((hs r.2 hI).mono (fun _ _ ↦ trivial) fun _ _ _ ↦ trivial)
    fun _ ↦ total_pure _) (hr r.2 hI) w trivial

/-- A wrapped call that stores nothing. -/
theorem total_plainCall {c : SaiCall} {rest : Unit → AgentM σ SaiStatus} (hr : Total (rest ())) :
    Total (saiRetErr (plainCall E c) () rest) :=
  total_saiRetErr (I := fun _ ↦ True) trivial
    (fun _ _ ↦ (total_ask c).bind fun _ ↦ total_pure _) fun _ _ ↦ hr

/-- Storing no more entries than an array has. -/
theorem OidArray.store_of_le (a : OidArray) {room : UInt32} (h : room ≤ OidArray.arrayLen)
    (vs : List Oid) : ∃ a', a.store room vs = .ok a' := by
  have hroom : room.toNat ≤ 64 := UInt32.le_iff_toNat_le.1 h
  refine ⟨_, dif_pos ?_⟩
  rw [List.length_take]
  omega

/-- The array entries of a list query never exceed the room. -/
def FitsArray (attr : List SaiAttribute) : Prop := (attrValue attr 0).getCount ≤ OidArray.arrayLen

theorem returns_storeOids (hroom : KeepsRoom E) (get : Agent → OidArray) (set : Agent → OidArray →
    Agent) (mk : List SaiAttribute → SaiCall) {attr : List SaiAttribute} (h : FitsArray attr) :
    Returns (fun _ ↦ True) (saiCall E mk (storeOids get set) attr : AgentM σ _)
      fun r _ ↦ FitsArray r.2 := by
  refine Returns.bind (R := fun (r : SaiResp) _ ↦ FitsArray r.attr)
    (Returns.ask fun w _ ↦ hroom.count_le _ _) fun r ↦
      Returns.bind (R := fun (l : List SaiAttribute) _ ↦ FitsArray l) ?_ fun l ↦
        Returns.pure fun _ hl ↦ hl
  refine Returns.bind (R := fun _ _ ↦ FitsArray r.attr) (Returns.getState fun _ hr ↦ hr) fun list ↦
    ?_
  obtain ⟨list', hlist⟩ := list.store_of_le h r.list
  exact Returns.bind (R := fun _ _ ↦ FitsArray r.attr) (Returns.lift hlist fun _ hr ↦ hr) fun _ ↦
    Returns.bind (R := fun _ _ ↦ FitsArray r.attr) (Returns.modState fun _ hr ↦ hr) fun _ ↦
      Returns.pure fun _ hr ↦ hr

theorem returns_memberListCall (hroom : KeepsRoom E) (vlanOid : Oid)
    {l : List SaiAttribute × OidArray} (h : FitsArray l.1) :
    Returns (fun _ ↦ True) (memberListCall E vlanOid l) fun r _ ↦ FitsArray r.2.1 := by
  refine Returns.bind (R := fun (r : SaiResp) _ ↦ FitsArray r.attr)
    (Returns.ask fun w _ ↦ hroom.count_le _ _) fun r ↦
      Returns.bind (R := fun (l : List SaiAttribute × OidArray) _ ↦ FitsArray l.1) ?_ fun l ↦
        Returns.pure fun _ hl ↦ hl
  obtain ⟨list', hlist⟩ := l.2.store_of_le h r.list
  exact Returns.bind (R := fun _ _ ↦ FitsArray r.attr) (Returns.lift hlist fun _ hr ↦ hr) fun _ ↦
    Returns.pure fun _ hr ↦ hr

theorem total_saiagentIpcCbSet (type : ℕ) (cb : Handler) :
    Total (saiagentIpcCbSet type cb : AgentM σ Rc) :=
  Total.ite (total_pure _) ((total_modState _).bind fun _ ↦ total_pure _)

/-! ### Ports -/

theorem returns_saiSwitchPortFind {portId : UInt32} (h : portId < 64) (v : Oid) :
    Returns (fun _ ↦ True) (saiSwitchPortFind portId v : AgentM σ _) fun _ _ ↦ True :=
  (total_getState _).bind fun portList ↦
    (total_lift (portList.get_of_lt (UInt32.lt_iff_toNat_lt.1 h))).bind fun _ ↦ total_pure _

theorem total_saiPortAdminStateSet {portId : UInt32} (h : portId < 64) (admin : UInt8) :
    Total (saiPortAdminStateSet E portId admin) :=
  total_plainCall (total_saiRetErr (I := fun _ ↦ True) trivial
    (fun v _ ↦ returns_saiSwitchPortFind h v) fun _ _ ↦ total_plainCall (total_pure _))

theorem total_saiPortPvidSet {portId : UInt32} (h : portId < 64) (vid : UInt16) :
    Total (saiPortPvidSet E portId vid) :=
  total_saiRetErr (I := fun _ ↦ True) trivial (fun v _ ↦ returns_saiSwitchPortFind h v) fun _ _ ↦
    total_plainCall (total_plainCall (total_pure _))

/-! ### VLANs -/

theorem total_saiagentVlanAddNew (id : UInt16) (oid : Oid) :
    Total (saiagentVlanAddNew rt id oid : AgentM σ (Option VlanInfo)) :=
  Total.ite ((total_modState _).bind fun _ ↦ total_pure _) (total_pure _)

theorem total_saiVlanDefaultInit : Total (saiVlanDefaultInit E rt) := by
  refine total_plainCall ((total_getState _).bind fun vlanOid ↦ Total.ite (total_pure _)
    (total_saiRetErr (I := fun _ ↦ True) trivial
      (fun _ _ ↦ (total_ask _).bind fun _ ↦ (total_pure _).bind fun _ ↦ total_pure _) fun _ _ ↦
        (total_saiagentVlanAddNew _ _).bind fun info ↦ ?_))
  rcases info with _ | _
  · exact total_pure _
  · exact total_pure _

theorem total_saiagentVlanInit : Total (saiagentVlanInit E rt) :=
  (total_ask _).bind fun _ ↦ Total.ite (total_pure _) (total_saiVlanDefaultInit.bind fun _ ↦
    Total.ite (total_pure _) ((total_saiagentIpcCbSet _ _).bind fun _ ↦
      (total_saiagentIpcCbSet _ _).bind fun _ ↦ (total_saiagentIpcCbSet _ _).bind fun _ ↦
        (total_saiagentIpcCbSet _ _).bind fun _ ↦ (total_saiagentIpcCbSet _ _).bind fun _ ↦
          total_pure _))

theorem total_useOrCreateVlan (vlanId : UInt16) {rest : Oid → AgentM σ SaiStatus}
    (hr : ∀ o, Total (rest o)) : Total (useOrCreateVlan E rt vlanId rest) := by
  refine (total_getState _).bind fun list ↦ ?_
  rcases saiagentVlanGet list vlanId with _ | info
  · refine (total_getState _).bind fun _ ↦ (total_ask _).bind fun r ↦ Total.ite (total_pure _)
      ((total_saiagentVlanAddNew _ _).bind fun info ↦ ?_)
    rcases info with _ | _
    · exact total_pure _
    · exact hr _
  · exact hr info.oid

/-- The scan returns while it stays in the array; the induction is over the entries left. -/
theorem total_scanMembers (vlanOid brPortOid : Oid) (members : OidArray)
    {rest : Oid → AgentM σ SaiStatus} (hr : ∀ o, Total (rest o)) :
    ∀ n i, n + i ≤ 64 → Total (scanMembers E vlanOid brPortOid members rest n i)
  | 0, _, _ => hr _
  | n + 1, i, h =>
    (total_lift (members.get_of_lt (show i < 64 by omega))).bind fun member ↦
      (total_ask _).bind fun _ ↦ Total.ite (total_pure _) (Total.ite (hr member)
        (total_scanMembers vlanOid brPortOid members hr n (i + 1) (by omega)))

theorem total_enableBridgePort (brPortOid : Oid) : Total (enableBridgePort E brPortOid) :=
  total_plainCall (total_pure _)

theorem total_ensureMember (vlanOid brPortOid : Oid) (tag : Bool) (portVlanOid : Oid) :
    Total (ensureMember E vlanOid brPortOid tag portVlanOid) :=
  Total.ite (total_enableBridgePort _) ((total_getState _).bind fun _ ↦ (total_ask _).bind fun _ ↦
    Total.ite (total_pure _) (total_enableBridgePort _))

theorem total_saiVlanAddPortMember (hroom : KeepsRoom E) (vlanId : UInt16) {portId : UInt32}
    (h : portId < 64) (tag : Bool) : Total (saiVlanAddPortMember E rt vlanId portId tag) := by
  refine total_plainCall (total_plainCall (((total_getState _).bind fun brPortList ↦
    total_lift (brPortList.get_of_lt (UInt32.lt_iff_toNat_lt.1 h))).bind fun brPortOid ↦
      Total.ite (total_pure _) (total_useOrCreateVlan vlanId fun vlanOid ↦ ?_)))
  refine total_saiRetErr (I := fun l ↦ FitsArray l.1) (UInt32.le_refl _)
    (fun _ hl ↦ returns_memberListCall hroom vlanOid hl) fun l hl ↦ ?_
  exact total_scanMembers _ _ _ (total_ensureMember _ _ _) _ _ (UInt32.le_iff_toNat_le.1 hl)

/-! ### The switch -/

theorem total_saiBridgeQuery (hroom : KeepsRoom E) (switchOid : Oid) (attr : List SaiAttribute) :
    Total (saiBridgeQuery E switchOid attr) :=
  Total.ite (total_pure _) (Total.ite (total_pure _) ((total_modState _).bind fun _ ↦
    total_saiRetErr (I := FitsArray) (UInt32.le_refl _) (fun _ h ↦ returns_storeOids hroom _ _ _ h)
        fun _ _ ↦
      total_plainCall (total_pure _)))

theorem total_saiSwitchQuery (hroom : KeepsRoom E) : Total (saiSwitchQuery E) :=
  (total_getState _).bind fun switchOid ↦ total_saiRetErr (I := FitsArray) (UInt32.le_refl _)
    (fun _ h ↦ returns_storeOids hroom _ _ _ h) fun attr _ ↦
      total_saiBridgeQuery hroom switchOid attr

theorem total_saiSwitchInit (hroom : KeepsRoom E) (h : rt.hwInfoMalloc = true) :
    Total (saiSwitchInit E rt) := by
  refine total_plainCall (total_plainCall ?_)
  rw [createSwitch, if_pos h]
  exact (total_ask _).bind fun _ ↦ (total_modState _).bind fun _ ↦
    Total.ite (total_pure _) (total_saiSwitchQuery hroom)

theorem total_saiagentSwitchInit (hroom : KeepsRoom E) (h : rt.hwInfoMalloc = true) :
    Total (saiagentSwitchInit E rt) :=
  (total_saiSwitchInit hroom h).bind fun _ ↦ Total.ite (total_pure _)
    ((total_saiagentIpcCbSet _ _).bind fun _ ↦ (total_saiagentIpcCbSet _ _).bind fun _ ↦
      (total_saiagentIpcCbSet _ _).bind fun _ ↦ total_pure _)

/-! ### Handlers -/

variable {request reply : SaiagentMsg}

theorem total_putReplyAck (hr : IsReply reply) (status : Rc) :
    Total (lift (saiagentIpcPutReplyAck reply status) : AgentM σ SaiagentMsg) := by
  obtain ⟨reply', h, -⟩ := saiagentIpcPutReplyAck_eq hr status
  exact total_lift h

theorem total_replaceWith (hr : IsReply reply) {bytes : List UInt8} {n : ℕ}
    (hn : bytes.length = 4 * n) (hle : 4 * n ≤ saiagentMsgMaxSize) :
    Total (lift (replaceWith reply bytes) : AgentM σ SaiagentMsg) := by
  obtain ⟨reply', h, -⟩ := replaceWith_eq hr hn hle
  exact total_lift h

theorem total_saiagentIpcProcessSwitchInit (hroom : KeepsRoom E) (h : rt.hwInfoMalloc = true)
    (hr : IsReply reply) : Total (saiagentIpcProcessSwitchInit E rt request reply) := by
  refine (total_saiagentSwitchInit hroom h).bind fun _ ↦ Total.ite (total_putReplyAck hr _)
    ((total_getState _).bind fun numPorts ↦ ?_)
  refine Total.bind ?_ fun _ ↦ Total.bind ?_ fun _ ↦ total_saiagentVlanInit.bind fun _ ↦
    Total.bind ?_ fun _ ↦ Total.ite (total_putReplyAck hr _)
      (total_replaceWith hr (n := 6) (PresteraMsgSwitchInitResp.length_bytes _) (by decide))
  · exact (total_saiagentIpcCbSet _ _).bind fun _ ↦ (total_saiagentIpcCbSet _ _).bind fun _ ↦
      (total_saiagentIpcCbSet _ _).bind fun _ ↦ total_pure _
  · exact (total_saiagentIpcCbSet _ _).bind fun _ ↦ total_pure _
  · exact (total_saiagentIpcCbSet _ _).bind fun _ ↦ (total_saiagentIpcCbSet _ _).bind fun _ ↦
      (total_saiagentIpcCbSet _ _).bind fun _ ↦ (total_saiagentIpcCbSet _ _).bind fun _ ↦
        (total_saiagentIpcCbSet _ _).bind fun _ ↦ total_pure _

/-- The port number a handler reads from a request, if it reads one. -/
def portOf : Handler → List UInt8 → Option UInt32
  | .portInfoGet, buf => some (PresteraMsgPortInfoReq.ofBuff buf).port
  | .portAttrSet, buf => some (PresteraMsgPortAttrReq.ofBuff buf).port
  | .vlanPortSet, buf => some (PresteraMsgVlanReq.ofBuff buf).port
  | .vlanPvidSet, buf => some (PresteraMsgVlanReq.ofBuff buf).port
  | _, _ => none

/-- **The handlers that return** whenever the port number of the request is below 64. -/
theorem total_handler (hroom : KeepsRoom E) (hr : IsReply reply) {handler : Handler}
    (hport : ∀ p ∈ portOf handler (request.buff.getD []), p < 64) (hinit : handler ≠ .switchInit)
    (hreset : handler ≠ .switchReset) : Total (handler.run E rt request reply) := by
  cases handler with
  | switchInit => exact absurd rfl hinit
  | switchReset => exact absurd rfl hreset
  | keepaliveInit =>
    have hcreate : ∀ routine type timeout,
        Total (saiagentThreadCreate rt routine type timeout : AgentM σ (Option ℕ)) := fun _ _ _ ↦
      Total.ite ((total_getState _).bind fun _ ↦ (total_modState _).bind fun _ ↦ total_pure _)
        (total_pure _)
    refine (hcreate _ _ _).bind fun ctx ↦ ?_
    rcases ctx with _ | i
    · exact total_putReplyAck hr _
    · exact (total_modState _).bind fun _ ↦ total_putReplyAck hr _
  | portInfoGet =>
    exact total_replaceWith hr (n := 5) (PresteraMsgPortInfoResp.length_bytes _) (by decide)
  | portAttrGet =>
    exact total_replaceWith hr (n := 34) (PresteraMsgPortAttrResp.length_bytes _) (by decide)
  | portAttrSet =>
    exact Total.ite ((total_saiPortAdminStateSet (hport _ rfl) _).bind fun _ ↦
      Total.ite (total_putReplyAck hr _) (total_putReplyAck hr _)) (total_putReplyAck hr _)
  | vlanPortSet =>
    exact (total_saiVlanAddPortMember hroom _ (hport _ rfl) _).bind fun _ ↦
      Total.ite (total_putReplyAck hr _) (total_putReplyAck hr _)
  | vlanPvidSet =>
    exact ((total_saiPortPvidSet (hport _ rfl) _).bind fun _ ↦
      Total.ite (total_pure _) (total_pure _)).bind fun _ ↦ total_putReplyAck hr _
  | routerVrCreate =>
    obtain ⟨reply', h₁, h₂, -, -⟩ := replaceWith_eq hr (n := 3)
      (PresteraMsgVrResp.length_bytes ⟨PresteraMsgRet.ackOk, 1, 0⟩) (by decide)
    obtain ⟨reply'', h₃, -, -⟩ := saiagentIpcPutReplyAck_eq h₂ rcStatusOk
    refine total_lift (a := reply'') ?_
    rw [saiagentIpcProcessRouterVrCreate, h₁]
    exact h₃
  | switchAttrSet | vlanCreate | vlanDelete | stpPortSet | fdbFlushPort | routerMpHashSet
  | routerVrDel | routerLpmAdd | routerLpmDel => exact total_putReplyAck hr _

end SaiAgent
