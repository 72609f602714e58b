import SaiAgent.Library.Refinement
import SaiAgent.Properties.ObjectIds

/-!
# Who asked for a change

The calls that change something in SAI create an object, remove one, or set an attribute. Whatever
SAI answers, the agent makes such a call only while it handles a request that asks for it
(`Handler.AskedFor`): on the object behind the port number the request names, or on the one switch
there is, with the values the request carries. Over a run, every change in SAI is traced back to a
request of the run (`changes_asked`).
-/

namespace SaiAgent

open Effects Effects.Proc Effects.Run Effects.Discipline

variable {σ A α β : Type} {E : SaiBackend σ} {rt : Runtime}

/-! ### What a request asks for -/

/-- The call creates, removes or sets. -/
def SaiCall.changes : SaiCall → Bool
  | .saiApiQuery _ => false
  | .saiLogSet _ _ => false
  | .createSwitch _ _ => true
  | .removeSwitch _ => true
  | .getSwitchAttribute _ _ _ => false
  | .setSwitchAttribute _ _ => true
  | .getBridgeAttribute _ _ _ => false
  | .setBridgePortAttribute _ _ => true
  | .createVlan _ _ _ => true
  | .getVlanAttribute _ _ _ => false
  | .createVlanMember _ _ _ => true
  | .getVlanMemberAttribute _ _ _ => false
  | .setPortAttribute _ _ => true

/-- The port object a request's number stands for. -/
def PortAt (a : Agent) (port : UInt32) (o : Oid) : Prop := a.swInfo.portList.get port.toNat = .ok o

/-- The bridge port a request's number stands for. -/
def BridgePortAt (a : Agent) (port : UInt32) (o : Oid) : Prop :=
  a.swInfo.brPortList.get port.toNat = .ok o ∧ o ≠ saiNullObjectId

/-- The changes a VLAN_PORT_SET asks for: a VLAN under its id where none is cached, its bridge port
in the VLAN with its tagging, and the bridge port enabled. -/
inductive VlanPortSetAsks (a : Agent) (req : PresteraMsgVlanReq) : SaiCall → Prop where
  | createVlan (h : saiagentVlanGet a.vlanList req.vid = none) :
    VlanPortSetAsks a req (.createVlan a.swInfo.switchOid 1 [⟨.vlanVlanId, .u16 req.vid⟩])
  | createMember {o v : Oid} (ho : BridgePortAt a req.port o)
    (hv : ∀ e, saiagentVlanGet a.vlanList req.vid = some e → v = e.oid) :
    VlanPortSetAsks a req (createMember a.swInfo.switchOid v o (req.isTagged ≠ 0))
  | enable {o : Oid} (ho : BridgePortAt a req.port o) :
    VlanPortSetAsks a req (.setBridgePortAttribute o ⟨.bridgePortAdminState, .booldata true⟩)

/-- The changes a request asks for, in the state it finds. -/
def Handler.AskedFor (a : Agent) (buf : List UInt8) (c : SaiCall) : Handler → Prop
  | .switchInit => c = .createSwitch 3 createSwitchAttr ∨
      ∃ o, c = .setSwitchAttribute o
        ⟨.switchPortStateChangeNotify, .ptr .saiOnPortStateChangeNotify⟩
  | .switchReset => c = .removeSwitch a.swInfo.switchOid ∧ a.swInfo.switchOid ≠ saiNullObjectId
  | .portAttrSet => (PresteraMsgPortAttrReq.ofBuff buf).attr = PresteraCmdPortAttr.phyMode ∧
      ∃ o, PortAt a (PresteraMsgPortAttrReq.ofBuff buf).port o ∧
        c = .setPortAttribute o
          ⟨.portAdminState, .booldata ((PresteraMsgPortAttrReq.ofBuff buf).phyAdmin ≠ 0)⟩
  | .vlanPvidSet => ∃ o, PortAt a (PresteraMsgVlanReq.ofBuff buf).port o ∧
      c = .setPortAttribute o ⟨.portPortVlanId, .u16 (PresteraMsgVlanReq.ofBuff buf).vid⟩
  | .vlanPortSet => VlanPortSetAsks a (PresteraMsgVlanReq.ofBuff buf) c
  | _ => False

/-- The request reaches a handler and asks for the change. -/
def AskedBy (a : Agent) (i : SessionInput) (c : SaiCall) : Prop :=
  ∃ handler, selected a.ipcCbList i.buf.bytes i.size = some handler ∧
    handler.AskedFor a i.buf.bytes c

/-! ### Procedures that change only what is asked for -/

/-- Changes behind the first `n` calls are asked for, while the agent's state is as it is known. -/
def changing (n : ℕ) (asked : SaiCall → Prop) (known : Agent → Prop) :
    Discipline Agent SaiCall SaiResp where
  since := n
  licensed _ c := c.changes = true → asked c
  backed _ a := known a
  licensed_mono _ h := h
  backed_mono _ h := h

variable {n : ℕ} {asked : SaiCall → Prop} {known : Agent → Prop} {c : SaiCall}

/-- The procedure changes only what is asked for, and returns what satisfies `Q`. -/
def Confined (n : ℕ) (asked : SaiCall → Prop) (known : Agent → Prop) (p : AgentM σ α)
    (Q : α → Prop := fun _ ↦ True) : Prop :=
  ∀ t, (changing n asked known).Obeys t p fun a _ ↦ Q a

theorem Confined.pure {Q : α → Prop} {a : α} (h : Q a) :
    Confined n asked known (pure a : AgentM σ α) Q :=
  fun _ ↦ Obeys.pure fun _ _ ↦ h

theorem Confined.done (a : α) : Confined n asked known (Pure.pure a : AgentM σ α) :=
  Confined.pure trivial

theorem Confined.bind {p : AgentM σ α} {f : α → AgentM σ β} {M : α → Prop} {Q : β → Prop}
    (hp : Confined n asked known p M) (hf : ∀ a, M a → Confined n asked known (f a) Q) :
    Confined n asked known (p >>= f) Q :=
  fun t ↦ Obeys.bind (hp t) fun a t' _ ha ↦ hf a ha t'

/-- What comes next does not depend on what came back. -/
theorem Confined.andThen {p : AgentM σ α} {f : α → AgentM σ β} {Q : β → Prop}
    (hp : Confined n asked known p) (hf : ∀ a, Confined n asked known (f a) Q) :
    Confined n asked known (p >>= f) Q :=
  hp.bind fun a _ ↦ hf a

theorem Confined.ite {b : Prop} [Decidable b] {p q : AgentM σ α} {Q : α → Prop}
    (hp : b → Confined n asked known p Q) (hq : ¬b → Confined n asked known q Q) :
    Confined n asked known (if b then p else q) Q :=
  fun t ↦ Obeys.ite (fun hb ↦ hp hb t) fun hb ↦ hq hb t

theorem confined_ask (hc : c.changes = true → asked c) :
    Confined n asked known (ask E c : AgentM σ SaiResp) :=
  fun _ ↦ Obeys.ask hc fun _ _ _ ↦ trivial

theorem confined_getState {g : Agent → α} {Q : α → Prop} (h : ∀ a, known a → Q (g a)) :
    Confined n asked known (getState g : AgentM σ α) Q :=
  fun _ ↦ Obeys.getState fun _ a _ ha ↦ h a ha

theorem confined_modState {g : Agent → Agent} (h : ∀ a, known a → known (g a)) :
    Confined n asked known (modState g : AgentM σ Unit) :=
  fun _ ↦ Obeys.modState fun _ a _ ha ↦ ⟨h a ha, trivial⟩

theorem confined_lift {x : Except Fault α} {Q : α → Prop} (h : ∀ a, x = .ok a → Q a) :
    Confined n asked known (lift x : AgentM σ α) Q :=
  fun _ ↦ Obeys.lift fun a ha _ _ ↦ h a ha

theorem confined_reply (x : Except Fault α) : Confined n asked known (lift x : AgentM σ α) :=
  confined_lift fun _ _ ↦ trivial

/-- What makes no call, and of the state changes nothing that is known. -/
theorem confined_of_keeps {γ : Type} {f : Agent → γ} {p : AgentM σ α}
    (hf : ∀ a a', f a = f a' → known a → known a')
    (h : Keeps (fun w : World σ ↦ (w.trace, f w.state)) p) : Confined n asked known p :=
  fun _ ↦ Obeys.of_keeps (fun _ _ _ ↦ hf _ _) h fun _ _ _ ↦ trivial

theorem confined_saiCall {mk : A → SaiCall} {store : A → SaiResp → AgentM σ A} {a : A}
    (hc : (mk a).changes = true → asked (mk a))
    (hstore : ∀ r, Confined n asked known (store a r)) :
    Confined n asked known (saiCall E mk store a) :=
  (confined_ask hc).andThen fun r ↦ (hstore r).andThen fun _ ↦ Confined.done _

/-- `SAI_RET_ERR` asks for what its argument asks for, however often it is evaluated. -/
theorem confined_saiRetErr {stmt : A → AgentM σ (SaiStatus × A)} {a : A}
    {rest : A → AgentM σ SaiStatus} {M : A → Prop}
    (hs : ∀ a, Confined n asked known (stmt a) fun p ↦ M p.2)
    (hr : ∀ a, M a → Confined n asked known (rest a)) :
    Confined n asked known (saiRetErr stmt a rest) :=
  (hs a).bind fun p hp ↦ Confined.ite
    (fun _ ↦ (hs p.2).bind fun _ _ ↦ Confined.done _) fun _ ↦ hr p.2 hp

theorem confined_plainCall {rest : Unit → AgentM σ SaiStatus} (hc : c.changes = true → asked c)
    (hr : Confined n asked known (rest ())) :
    Confined n asked known (saiRetErr (plainCall E c) () rest) :=
  confined_saiRetErr (M := fun _ ↦ True)
    (fun _ ↦ confined_saiCall hc fun _ ↦ Confined.done _) fun _ _ ↦ hr

/-- A query changes nothing. -/
theorem confined_query {api : SaiApi} {rest : Unit → AgentM σ SaiStatus}
    (hr : Confined n asked known (rest ())) :
    Confined n asked known (saiRetErr (plainCall E (.saiApiQuery api)) () rest) :=
  confined_plainCall (fun hc ↦ by cases hc) hr

theorem confined_lastCall (hc : c.changes = true → asked c) :
    Confined n asked known
      (saiRetErr (plainCall E c) () fun _ ↦ (pure saiStatusSuccess : AgentM σ SaiStatus)) :=
  confined_plainCall hc (Confined.done _)

/-! ### Ports -/

section Ports

variable {a : Agent} {port : UInt32}

/-- The switch is known. -/
def SwitchKnown (a a' : Agent) : Prop := a'.swInfo = a.swInfo

theorem confined_portFind (hknown : ∀ a', known a' → SwitchKnown a a') {v : Oid}
    {rest : Oid → AgentM σ SaiStatus}
    (hrest : ∀ o, PortAt a port o → Confined n asked known (rest o)) :
    Confined n asked known (saiRetErr (saiSwitchPortFind port) v rest) := by
  refine confined_saiRetErr (M := PortAt a port) (fun _ ↦ ?_) hrest
  refine (confined_getState (Q := fun l ↦ l = a.swInfo.portList) fun a' ha ↦
    congrArg SaiagentSwitchInfo.portList (hknown a' ha)).bind fun l hl ↦ ?_
  subst hl
  exact (confined_lift (Q := PortAt a port) fun _ ho ↦ ho).bind fun o ho ↦ Confined.pure ho

theorem confined_saiPortAdminStateSet (hknown : ∀ a', known a' → SwitchKnown a a')
    {admin : UInt8} (hasked : ∀ o, PortAt a port o →
      asked (.setPortAttribute o ⟨.portAdminState, .booldata (admin ≠ 0)⟩)) :
    Confined n asked known (saiPortAdminStateSet E port admin) :=
  confined_query (confined_portFind hknown fun o ho ↦ confined_lastCall fun _ ↦ hasked o ho)

theorem confined_saiPortPvidSet (hknown : ∀ a', known a' → SwitchKnown a a') {vid : UInt16}
    (hasked : ∀ o, PortAt a port o → asked (.setPortAttribute o ⟨.portPortVlanId, .u16 vid⟩)) :
    Confined n asked known (saiPortPvidSet E port vid) :=
  confined_portFind hknown fun o ho ↦ confined_query (confined_lastCall fun _ ↦ hasked o ho)

end Ports

/-! ### VLANs -/

section Vlans

variable {a : Agent} {req : PresteraMsgVlanReq}

/-- The switch is known, and the VLAN where one was cached. -/
structure VlanKnown (a : Agent) (vid : UInt16) (a' : Agent) : Prop where
  switch : SwitchKnown a a'
  vlan : ∀ e, saiagentVlanGet a.vlanList vid = some e → saiagentVlanGet a'.vlanList vid = some e

/-- VLAN_PORT_SET. -/
abbrev Sets (a : Agent) (req : PresteraMsgVlanReq) (n : ℕ) (p : AgentM σ α)
    (Q : α → Prop := fun _ ↦ True) : Prop :=
  Confined n (VlanPortSetAsks a req) (VlanKnown a req.vid) p Q

theorem sets_switchOid : Sets a req n (getState (fun a ↦ a.swInfo.switchOid) : AgentM σ Oid)
    fun o ↦ o = a.swInfo.switchOid :=
  confined_getState fun _ ha ↦ congrArg SaiagentSwitchInfo.switchOid ha.switch

theorem sets_saiagentVlanAddNew (hnone : saiagentVlanGet a.vlanList req.vid = none) (o : Oid) :
    Sets a req n (saiagentVlanAddNew rt req.vid o : AgentM σ (Option VlanInfo)) := by
  refine Confined.ite (fun _ ↦ (confined_modState fun a' ha ↦ ⟨ha.switch, ?_⟩).andThen
    fun _ ↦ Confined.done _) fun _ ↦ Confined.done _
  intro e he
  rw [hnone] at he
  cases he

/-- The VLAN the function goes on with is the cached one, where one is cached. -/
theorem sets_useOrCreateVlan {rest : Oid → AgentM σ SaiStatus}
    (hrest : ∀ v, (∀ e, saiagentVlanGet a.vlanList req.vid = some e → v = e.oid) →
      Sets a req n (rest v)) : Sets a req n (useOrCreateVlan E rt req.vid rest) := by
  refine (confined_getState (Q := fun l ↦ ∀ e, saiagentVlanGet a.vlanList req.vid = some e →
    saiagentVlanGet l req.vid = some e) fun _ ha ↦ ha.vlan).bind fun l hl ↦ ?_
  rcases hget : saiagentVlanGet l req.vid with _ | info
  · have hnone : saiagentVlanGet a.vlanList req.vid = none :=
      Option.eq_none_iff_forall_ne_some.2 fun e he ↦ by
        rw [hl e he] at hget
        cases hget
    refine sets_switchOid.bind fun o ho ↦ ?_
    subst ho
    refine (confined_ask fun _ ↦ .createVlan hnone).andThen fun r ↦
      Confined.ite (fun _ ↦ Confined.done _) fun _ ↦ ?_
    refine (sets_saiagentVlanAddNew hnone _).andThen fun info ↦ ?_
    cases info with
    | none => exact Confined.done _
    | some _ =>
      refine hrest _ fun e he ↦ ?_
      rw [hnone] at he
      cases he
  · refine hrest info.oid fun e he ↦ ?_
    rw [hl e he] at hget
    exact congrArg VlanInfo.oid (Option.some.inj hget).symm

theorem sets_memberListCall (v : Oid) (l : List SaiAttribute × OidArray) :
    Sets a req n (memberListCall E v l) :=
  confined_saiCall (fun hc ↦ by cases hc) fun _ ↦
    (confined_reply _).andThen fun _ ↦ Confined.done _

theorem sets_scanMembers {v o : Oid} {members : OidArray} {rest : Oid → AgentM σ SaiStatus}
    (hrest : ∀ m, Sets a req n (rest m)) :
    ∀ m i, Sets a req n (scanMembers E v o members rest m i)
  | 0, _ => hrest _
  | m + 1, i => (confined_reply _).andThen fun member ↦
    (confined_ask fun hc ↦ by cases hc).andThen fun _ ↦ Confined.ite (fun _ ↦ Confined.done _)
      fun _ ↦ Confined.ite (fun _ ↦ hrest member) fun _ ↦ sets_scanMembers hrest m (i + 1)

theorem sets_enableBridgePort {o : Oid} (ho : BridgePortAt a req.port o) :
    Sets a req n (enableBridgePort E o) :=
  confined_lastCall fun _ ↦ .enable ho

theorem sets_ensureMember {o v : Oid} (ho : BridgePortAt a req.port o)
    (hv : ∀ e, saiagentVlanGet a.vlanList req.vid = some e → v = e.oid) (m : Oid) :
    Sets a req n (ensureMember E v o (req.isTagged ≠ 0) m) := by
  refine Confined.ite (fun _ ↦ sets_enableBridgePort ho) fun _ ↦ sets_switchOid.bind fun sw hsw ↦ ?_
  subst hsw
  exact (confined_ask fun _ ↦ .createMember ho hv).andThen fun _ ↦
    Confined.ite (fun _ ↦ Confined.done _) fun _ ↦ sets_enableBridgePort ho

theorem sets_saiVlanAddPortMember :
    Sets a req n (saiVlanAddPortMember E rt req.vid req.port (req.isTagged ≠ 0)) := by
  refine confined_query (confined_query (Confined.bind
    (M := fun o ↦ a.swInfo.brPortList.get req.port.toNat = .ok o) ?_ ?_))
  · refine (confined_getState (Q := fun l ↦ l = a.swInfo.brPortList) fun _ ha ↦
      congrArg SaiagentSwitchInfo.brPortList ha.switch).bind fun l hl ↦ ?_
    subst hl
    exact confined_lift fun _ ho ↦ ho
  · refine fun o ho ↦ Confined.ite (fun _ ↦ Confined.done _) fun hne ↦
      sets_useOrCreateVlan fun v hv ↦ ?_
    exact confined_saiRetErr (M := fun _ ↦ True) (fun l ↦ sets_memberListCall v l) fun _ _ ↦
      sets_scanMembers (fun m ↦ sets_ensureMember ⟨ho, hne⟩ hv m) _ _

end Vlans

/-! ### The switch -/

section Switches

variable {a : Agent}

theorem confined_cbSet {type : ℕ} {cb : Handler} :
    Confined n asked (fun _ ↦ True) (saiagentIpcCbSet type cb : AgentM σ Rc) :=
  Confined.ite (fun _ ↦ Confined.done _) fun _ ↦
    (confined_modState fun _ _ ↦ trivial).andThen fun _ ↦ Confined.done _

theorem confined_storeOids {get : Agent → OidArray} {set : Agent → OidArray → Agent}
    (attr : List SaiAttribute) (r : SaiResp) :
    Confined n asked (fun _ ↦ True) (storeOids get set attr r : AgentM σ _) :=
  (confined_getState fun _ _ ↦ trivial).andThen fun _ ↦ (confined_reply _).andThen fun _ ↦
    (confined_modState fun _ _ ↦ trivial).andThen fun _ ↦ Confined.done _

/-- A registration of every handler of a file. -/
theorem confined_cbSet_bind {type : ℕ} {cb : Handler} {rest : Rc → AgentM σ α}
    (hrest : ∀ s, Confined n asked (fun _ ↦ True) (rest s)) :
    Confined n asked (fun _ ↦ True) (saiagentIpcCbSet type cb >>= rest) :=
  confined_cbSet.andThen hrest

/-- The changes SWITCH_INIT asks for are those of `sai_switch_init`. -/
theorem confined_saiSwitchInit
    (hcreate : asked (.createSwitch 3 createSwitchAttr))
    (hnotify : ∀ o, asked (.setSwitchAttribute o
      ⟨.switchPortStateChangeNotify, .ptr .saiOnPortStateChangeNotify⟩)) :
    Confined n asked (fun _ ↦ True) (saiSwitchInit E rt) := by
  refine confined_query (confined_query (Confined.ite (fun _ ↦ ?_) fun _ ↦ fun _ ↦ Obeys.fault _))
  refine (confined_ask fun _ ↦ hcreate).andThen fun _ ↦
    (confined_modState fun _ _ ↦ trivial).andThen fun _ ↦ Confined.ite (fun _ ↦ Confined.done _)
      fun _ ↦ (confined_getState (Q := fun _ ↦ True) fun _ _ ↦ trivial).andThen fun o ↦ ?_
  refine confined_saiRetErr (M := fun _ ↦ True)
    (fun _ ↦ confined_saiCall (fun hc ↦ by cases hc) fun _ ↦ confined_storeOids _ _) fun attr _ ↦ ?_
  refine Confined.ite (fun _ ↦ Confined.done _) fun _ ↦ Confined.ite (fun _ ↦ Confined.done _)
    fun _ ↦ (confined_modState fun _ _ ↦ trivial).andThen fun _ ↦ ?_
  exact confined_saiRetErr (M := fun _ ↦ True)
    (fun _ ↦ confined_saiCall (fun hc ↦ by cases hc) fun _ ↦ confined_storeOids _ _) fun _ _ ↦
      confined_lastCall fun _ ↦ hnotify o

theorem confined_saiVlanDefaultInit :
    Confined n asked (fun _ ↦ True) (saiVlanDefaultInit E rt) := by
  refine confined_query ((confined_getState (Q := fun _ ↦ True) fun _ _ ↦ trivial).andThen fun o ↦
    Confined.ite (fun _ ↦ Confined.done _) fun _ ↦ confined_saiRetErr (M := fun _ ↦ True)
      (fun _ ↦ confined_saiCall (fun hc ↦ by cases hc) fun _ ↦ Confined.done _) fun attr _ ↦ ?_)
  refine Confined.andThen (Confined.ite (fun _ ↦ (confined_modState fun _ _ ↦ trivial).andThen
    fun _ ↦ Confined.done _) fun _ ↦ Confined.done _) fun info ↦ ?_
  cases info with
  | none => exact Confined.done _
  | some _ => exact Confined.done _

theorem confined_switchInit (request reply : SaiagentMsg)
    (hcreate : asked (.createSwitch 3 createSwitchAttr))
    (hnotify : ∀ o, asked (.setSwitchAttribute o
      ⟨.switchPortStateChangeNotify, .ptr .saiOnPortStateChangeNotify⟩)) :
    Confined n asked (fun _ ↦ True) (saiagentIpcProcessSwitchInit E rt request reply) := by
  have hswitch : Confined n asked (fun _ ↦ True) (saiagentSwitchInit E rt) :=
    (confined_saiSwitchInit hcreate hnotify).andThen fun _ ↦ Confined.ite
      (fun _ ↦ Confined.done _) fun _ ↦ confined_cbSet_bind fun _ ↦ confined_cbSet_bind fun _ ↦
        confined_cbSet_bind fun _ ↦ Confined.done _
  have hport : Confined n asked (fun _ ↦ True) (saiagentPortInit rt : AgentM σ Rc) :=
    confined_cbSet_bind fun _ ↦ confined_cbSet_bind fun _ ↦ confined_cbSet_bind fun _ ↦
      Confined.done _
  have hfdb : Confined n asked (fun _ ↦ True) (saiagentFdbInit rt : AgentM σ Rc) :=
    confined_cbSet_bind fun _ ↦ Confined.done _
  have hvlan : Confined n asked (fun _ ↦ True) (saiagentVlanInit E rt) :=
    (confined_ask fun hc ↦ by cases hc).andThen fun _ ↦ Confined.ite (fun _ ↦ Confined.done _)
      fun _ ↦ confined_saiVlanDefaultInit.andThen fun _ ↦ Confined.ite (fun _ ↦ Confined.done _)
        fun _ ↦ confined_cbSet_bind fun _ ↦ confined_cbSet_bind fun _ ↦
          confined_cbSet_bind fun _ ↦ confined_cbSet_bind fun _ ↦ confined_cbSet_bind fun _ ↦
            Confined.done _
  have hrouter : Confined n asked (fun _ ↦ True) (saiagentRouterInit rt : AgentM σ Rc) :=
    confined_cbSet_bind fun _ ↦ confined_cbSet_bind fun _ ↦ confined_cbSet_bind fun _ ↦
      confined_cbSet_bind fun _ ↦ confined_cbSet_bind fun _ ↦ Confined.done _
  refine hswitch.andThen fun _ ↦ Confined.ite (fun _ ↦ confined_reply _) fun _ ↦ ?_
  refine (confined_getState (Q := fun _ ↦ True) fun _ _ ↦ trivial).andThen fun _ ↦
    hport.andThen fun _ ↦ hfdb.andThen fun _ ↦ hvlan.andThen fun _ ↦ hrouter.andThen fun _ ↦ ?_
  exact Confined.ite (fun _ ↦ confined_reply _) fun _ ↦ confined_reply _

/-- Threads are none of SAI's business. -/
theorem confined_thread {p : AgentM σ α}
    (h : Keeps (fun w : World σ ↦ (w.trace, w.state.swInfo)) p) :
    Confined n asked (SwitchKnown a) p :=
  confined_of_keeps (fun _ _ heq hknown ↦ heq.symm.trans hknown) h

theorem confined_switchReset (request reply : SaiagentMsg)
    (hremove : a.swInfo.switchOid ≠ saiNullObjectId → asked (.removeSwitch a.swInfo.switchOid)) :
    Confined n asked (SwitchKnown a) (saiagentIpcProcessSwitchReset E rt request reply) := by
  refine (confined_getState (Q := fun info ↦ info = a.swInfo) fun _ ha ↦ ha).bind
    fun info hinfo ↦ ?_
  subst hinfo
  refine Confined.ite (fun hoid ↦ ?_) fun _ ↦ confined_reply _
  refine (confined_thread (keeps_saiagentThreadStop (fun _ _ ↦ rfl) _)).andThen fun _ ↦
    (confined_ask fun hc ↦ by cases hc).andThen fun _ ↦
      Confined.ite (fun _ _ ↦ Obeys.fault _) fun _ ↦ ?_
  refine (confined_ask fun _ ↦ hremove hoid).andThen fun _ ↦
    (confined_thread (keeps_saiagentThreadDestroy (fun _ _ ↦ rfl) _)).andThen fun _ ↦ ?_
  exact (confined_thread (Keeps.bind (Keeps.modState fun _ ↦ rfl) fun _ ↦ Keeps.pure _)).andThen
    fun _ ↦ confined_reply _

end Switches

/-! ### Requests -/

/-- **A handler changes what its request asks for.** -/
theorem confined_handler (a : Agent) (n : ℕ) (handler : Handler) (request reply : SaiagentMsg) :
    ∃ known : Agent → Prop, known a ∧
      Confined n (fun c ↦ handler.AskedFor a (request.buff.getD []) c) known
        (handler.run E rt request reply) := by
  cases handler with
  | switchInit =>
    exact ⟨_, trivial, confined_switchInit request reply (Or.inl rfl) fun o ↦ Or.inr ⟨o, rfl⟩⟩
  | switchReset => exact ⟨SwitchKnown a, rfl,
      confined_switchReset request reply fun hoid ↦ ⟨rfl, hoid⟩⟩
  | keepaliveInit =>
    refine ⟨fun _ ↦ True, trivial, Confined.andThen (confined_of_keeps (f := fun _ ↦ ())
      (fun _ _ _ h ↦ h) (keeps_saiagentThreadCreate (fun _ _ ↦ rfl) _ _ _)) fun ctx ↦ ?_⟩
    cases ctx with
    | none => exact confined_reply _
    | some i => exact (confined_modState fun _ _ ↦ trivial).andThen fun _ ↦ confined_reply _
  | portAttrSet =>
    refine ⟨SwitchKnown a, rfl, Confined.ite (fun hphy ↦ ?_) fun _ ↦ confined_reply _⟩
    exact (confined_saiPortAdminStateSet (fun _ h ↦ h) fun o ho ↦ ⟨hphy, o, ho, rfl⟩).andThen
      fun _ ↦ Confined.ite (fun _ ↦ confined_reply _) fun _ ↦ confined_reply _
  | vlanPortSet =>
    exact ⟨VlanKnown a _, ⟨rfl, fun _ h ↦ h⟩, sets_saiVlanAddPortMember.andThen fun _ ↦
      Confined.ite (fun _ ↦ confined_reply _) fun _ ↦ confined_reply _⟩
  | vlanPvidSet =>
    refine ⟨SwitchKnown a, rfl, Confined.andThen ?_ fun _ ↦ confined_reply _⟩
    exact (confined_saiPortPvidSet (fun _ h ↦ h) fun o ho ↦ ⟨o, ho, rfl⟩).andThen fun _ ↦
      Confined.ite (fun _ ↦ Confined.done _) fun _ ↦ Confined.done _
  | switchAttrSet | portInfoGet | portAttrGet | vlanCreate | vlanDelete | stpPortSet
  | fdbFlushPort | routerMpHashSet | routerVrCreate | routerVrDel | routerLpmAdd
  | routerLpmDel => exact ⟨fun _ ↦ True, trivial, confined_reply _⟩

/-- The changes made while a request is handled are those it asks for. -/
theorem asked_step (s : Session σ) (i : SessionInput) :
    ∃ u, (s.step E i).world.trace = s.world.trace ++ u ∧
      ∀ e ∈ u, e.1.changes = true → AskedBy s.world.state i e.1 := by
  rw [Session.step_world]
  rcases hsel : selected s.world.state.ipcCbList i.buf.bytes i.size with _ | handler
  · obtain ⟨reply, hrun⟩ := Session.handle_of_not_selected (E := E) hsel
    rw [hrun]
    exact ⟨[], (List.append_nil _).symm, fun e he ↦ absurd he List.not_mem_nil⟩
  rw [Session.handle_of_selected hsel]
  obtain ⟨known, hknown, hconf⟩ := @confined_handler σ E i.rt s.world.state s.world.trace.length
    handler (handedRequest i.buf.bytes i.size) (freshReply i.out.bytes)
  obtain ⟨hres, ⟨u, hu⟩, -⟩ := hconf s.world.trace s.world List.prefix_rfl ⟨lawful_length, hknown⟩
  refine ⟨u, hu.symm, fun e he hc ↦ ⟨handler, hsel, ?_⟩⟩
  obtain ⟨u₁, u₂, rfl⟩ := List.append_of_mem he
  refine hres.lawful (s.world.trace ++ u₁) e.1 e.2 u₂ (by rw [← hu, List.append_assoc]) ?_ hc
  rw [List.length_append]
  exact Nat.le_add_right _ _

end SaiAgent
