import SaiAgent.Model.Ipc

/-!
# What each function leaves alone

One frame lemma per function of the agent. An observation `f` of the world is kept by a function as
soon as it is blind to the *primitive* steps that function takes — the kinds of SAI calls it
makes and the assignments to static variables it performs — so one lemma gives every frame fact
about the function. `Blind` collects blindness to the calls a running switch is used through;
creating and removing switches stay apart. `Quiet` leaves the creation of VLANs apart, too: all but
the functions that create one make do with it.
-/

namespace SaiAgent

open Effects Effects.Proc

variable {σ β A : Type} {E : SaiBackend σ} {rt : Runtime} {f : World σ → β}

/-- The calls that bring a switch into being or end it. -/
def SaiCall.isSwitchLife : SaiCall → Bool
  | .createSwitch _ _ => true
  | .removeSwitch _ => true
  | _ => false

/-- The observation does not see calls that leave the set of switches alone. -/
def Blind (E : SaiBackend σ) (f : World σ → β) : Prop :=
  ∀ (w : World σ) (c : SaiCall), c.isSwitchLife = false → f (w.asked E c) = f w

/-- The observation does not see the assignment `g`. -/
def BlindTo (g : Agent → Agent) (f : World σ → β) : Prop := ∀ w : World σ, f (w.mapState g) = f w

theorem Blind.ask (h : Blind E f) {c : SaiCall} (hc : c.isSwitchLife = false) :
    Keeps f (ask E c : AgentM σ SaiResp) :=
  Keeps.ask fun w ↦ h w c hc

/-- The calls that bring a VLAN into being, or end one: a switch comes and goes with its VLANs. -/
def SaiCall.isVlanLife : SaiCall → Bool
  | .createVlan _ _ _ => true
  | c => c.isSwitchLife

/-- The observation does not see calls that leave the VLANs alone. -/
def Quiet (E : SaiBackend σ) (f : World σ → β) : Prop :=
  ∀ (w : World σ) (c : SaiCall), c.isVlanLife = false → f (w.asked E c) = f w

theorem Blind.quiet (h : Blind E f) : Quiet E f := by
  intro w c hc
  refine h w c ?_
  cases c with
  | createVlan _ _ _ => cases hc
  | _ => exact hc

theorem Quiet.ask (h : Quiet E f) {c : SaiCall} (hc : c.isVlanLife = false) :
    Keeps f (ask E c : AgentM σ SaiResp) :=
  Keeps.ask fun w ↦ h w c hc

/-! ### The macro and the calls -/

theorem keeps_saiCall {mk : A → SaiCall} {store : A → SaiResp → AgentM σ A} {a : A}
    (hc : Keeps f (ask E (mk a) : AgentM σ SaiResp)) (hs : ∀ r, Keeps f (store a r)) :
    Keeps f (saiCall E mk store a) :=
  Keeps.bind hc fun r ↦ Keeps.bind (hs r) fun _ ↦ Keeps.pure _

theorem keeps_plainCall {c : SaiCall} (hc : Keeps f (ask E c : AgentM σ SaiResp)) (u : Unit) :
    Keeps f (plainCall E c u) :=
  keeps_saiCall hc fun _ ↦ Keeps.pure _

/-- `SAI_RET_ERR` keeps what its argument and the rest of the function keep, however often the
argument is evaluated. -/
theorem keeps_saiRetErr {stmt : A → AgentM σ (SaiStatus × A)} {a : A}
    {rest : A → AgentM σ SaiStatus} (hs : ∀ a, Keeps f (stmt a)) (hr : ∀ a, Keeps f (rest a)) :
    Keeps f (saiRetErr stmt a rest) :=
  Keeps.bind (hs a) fun _ ↦ Keeps.ite (Keeps.bind (hs _) fun _ ↦ Keeps.pure _) (hr _)

/-- `SAI_RET_ERR` leaves the invariants its argument and the rest of the function leave. -/
theorem preserves_saiRetErr {I : World σ → Prop} {stmt : A → AgentM σ (SaiStatus × A)} {a : A}
    {rest : A → AgentM σ SaiStatus} (hs : ∀ a, Preserves I (stmt a))
    (hr : ∀ a, Preserves I (rest a)) : Preserves I (saiRetErr stmt a rest) :=
  Preserves.bind (hs a) fun _ ↦
    Preserves.ite (Preserves.bind (hs _) fun _ ↦ Preserves.pure _) (hr _)

/-- Where the wrapped call is refused, the rest of the function is not run, and what both
evaluations keep is kept. -/
theorem worldOf_saiRetErr_of_refused {mk : A → SaiCall} {store : A → SaiResp → AgentM σ A} {a : A}
    {rest : A → AgentM σ SaiStatus} {w : World σ} (hs : ∀ a, Keeps f (saiCall E mk store a))
    (h : (E (mk a) w.env).1.ok = false) :
    f (worldOf (EStateM.run (saiRetErr (saiCall E mk store) a rest) w)) = f w := by
  have hsecond : ∀ a', Keeps f (saiCall E mk store a' >>= fun p ↦ pure p.1) := fun a' ↦
    (hs a').bind fun _ ↦ Keeps.pure _
  have hfirst := hs a w
  rw [saiCall, EStateM.run_bind, run_ask] at hfirst
  simp only [saiRetErr, saiCall, EStateM.run_bind, run_ask] at hfirst ⊢
  rcases hrun : EStateM.run (store a (E (mk a) w.env).1) (w.asked E (mk a)) with ⟨a', w'⟩ | ⟨e, w'⟩
  · rw [hrun] at hfirst
    simp only [EStateM.run_pure, if_pos (SaiResp.ok_eq_false_iff.1 h)]
    exact (hsecond a' w').trans hfirst
  · rw [hrun] at hfirst
    exact hfirst

theorem keeps_saiagentIpcCbSet {type : ℕ} {cb : Handler}
    (h : BlindTo (fun a ↦ a.register type cb) f) :
    Keeps f (saiagentIpcCbSet type cb : AgentM σ Rc) :=
  Keeps.ite (Keeps.pure _) (Keeps.bind (Keeps.modState h) fun _ ↦ Keeps.pure _)

/-! ### Ports -/

theorem keeps_saiSwitchPortFind (portId : UInt32) (v : Oid) :
    Keeps f (saiSwitchPortFind portId v : AgentM σ (SaiStatus × Oid)) :=
  Keeps.bind (Keeps.getState _) fun _ ↦ Keeps.bind (Keeps.lift _) fun _ ↦ Keeps.pure _

theorem keeps_saiPortAdminStateSet (h : Quiet E f) (portId : UInt32) (admin : UInt8) :
    Keeps f (saiPortAdminStateSet E portId admin) :=
  keeps_saiRetErr (keeps_plainCall (h.ask rfl)) fun _ ↦
    keeps_saiRetErr (keeps_saiSwitchPortFind portId) fun _ ↦
      keeps_saiRetErr (keeps_plainCall (h.ask rfl)) fun _ ↦ Keeps.pure _

theorem keeps_saiPortPvidSet (h : Quiet E f) (portId : UInt32) (vid : UInt16) :
    Keeps f (saiPortPvidSet E portId vid) :=
  keeps_saiRetErr (keeps_saiSwitchPortFind portId) fun _ ↦
    keeps_saiRetErr (keeps_plainCall (h.ask rfl)) fun _ ↦
      keeps_saiRetErr (keeps_plainCall (h.ask rfl)) fun _ ↦ Keeps.pure _

/-! ### VLANs -/

theorem keeps_saiagentVlanAddNew (hv : ∀ v, BlindTo (fun a ↦ a.pushVlan v) f) (id : UInt16)
    (oid : Oid) : Keeps f (saiagentVlanAddNew rt id oid : AgentM σ (Option VlanInfo)) :=
  Keeps.ite (Keeps.bind (Keeps.modState (hv _)) fun _ ↦ Keeps.pure _) (Keeps.pure _)

theorem keeps_saiVlanDefaultInit (h : Quiet E f) (hv : ∀ v, BlindTo (fun a ↦ a.pushVlan v) f) :
    Keeps f (saiVlanDefaultInit E rt) := by
  refine keeps_saiRetErr (keeps_plainCall (h.ask rfl)) fun _ ↦
    Keeps.bind (Keeps.getState _) fun vlanOid ↦ Keeps.ite (Keeps.pure _) ?_
  refine keeps_saiRetErr (fun _ ↦ keeps_saiCall (h.ask rfl) fun _ ↦ Keeps.pure _) fun attr ↦
    Keeps.bind (keeps_saiagentVlanAddNew hv _ _) fun info ↦ ?_
  cases info with
  | none => exact Keeps.pure _
  | some _ => exact Keeps.pure _

theorem keeps_saiagentVlanInit (h : Quiet E f) (hv : ∀ v, BlindTo (fun a ↦ a.pushVlan v) f)
    (hr : ∀ type cb, BlindTo (fun a ↦ a.register type cb) f) : Keeps f (saiagentVlanInit E rt) :=
  Keeps.bind (h.ask rfl) fun _ ↦ Keeps.ite (Keeps.pure _)
    (Keeps.bind (keeps_saiVlanDefaultInit h hv) fun _ ↦ Keeps.ite (Keeps.pure _)
      (Keeps.bind (keeps_saiagentIpcCbSet (hr _ _)) fun _ ↦
        Keeps.bind (keeps_saiagentIpcCbSet (hr _ _)) fun _ ↦
          Keeps.bind (keeps_saiagentIpcCbSet (hr _ _)) fun _ ↦
            Keeps.bind (keeps_saiagentIpcCbSet (hr _ _)) fun _ ↦
              Keeps.bind (keeps_saiagentIpcCbSet (hr _ _)) fun _ ↦ Keeps.pure _))

theorem keeps_useOrCreateVlan (h : Blind E f) (hv : ∀ v, BlindTo (fun a ↦ a.pushVlan v) f)
    (vlanId : UInt16) {rest : Oid → AgentM σ SaiStatus} (hr : ∀ o, Keeps f (rest o)) :
    Keeps f (useOrCreateVlan E rt vlanId rest) := by
  refine Keeps.bind (Keeps.getState _) fun list ↦ ?_
  cases saiagentVlanGet list vlanId with
  | some info => exact hr info.oid
  | none =>
    refine Keeps.bind (Keeps.getState _) fun _ ↦ Keeps.bind (h.ask rfl) fun r ↦
      Keeps.ite (Keeps.pure _) (Keeps.bind (keeps_saiagentVlanAddNew hv _ _) fun info ↦ ?_)
    cases info with
    | none => exact Keeps.pure _
    | some _ => exact hr _

theorem keeps_scanMembers (h : Quiet E f) (vlanOid brPortOid : Oid) (members : OidArray)
    {rest : Oid → AgentM σ SaiStatus} (hr : ∀ o, Keeps f (rest o)) :
    ∀ n i, Keeps f (scanMembers E vlanOid brPortOid members rest n i)
  | 0, _ => hr _
  | n + 1, i =>
    Keeps.bind (Keeps.lift _) fun member ↦ Keeps.bind (h.ask rfl) fun _ ↦ Keeps.ite (Keeps.pure _)
      (Keeps.ite (hr member)
        (keeps_scanMembers h vlanOid brPortOid members hr n (i + 1)))

theorem keeps_enableBridgePort (h : Quiet E f) (brPortOid : Oid) :
    Keeps f (enableBridgePort E brPortOid) :=
  keeps_saiRetErr (keeps_plainCall (h.ask rfl)) fun _ ↦ Keeps.pure _

theorem keeps_ensureMember (h : Quiet E f) (vlanOid brPortOid : Oid) (tag : Bool)
    (portVlanOid : Oid) : Keeps f (ensureMember E vlanOid brPortOid tag portVlanOid) :=
  Keeps.ite (keeps_enableBridgePort h _) (Keeps.bind (Keeps.getState _) fun _ ↦
    Keeps.bind (h.ask rfl) fun _ ↦ Keeps.ite (Keeps.pure _) (keeps_enableBridgePort h _))

theorem keeps_saiVlanAddPortMember (h : Blind E f) (hv : ∀ v, BlindTo (fun a ↦ a.pushVlan v) f)
    (vlanId : UInt16) (portId : UInt32) (tag : Bool) :
    Keeps f (saiVlanAddPortMember E rt vlanId portId tag) :=
  keeps_saiRetErr (keeps_plainCall (h.ask rfl)) fun _ ↦
    keeps_saiRetErr (keeps_plainCall (h.ask rfl)) fun _ ↦
    Keeps.bind (Keeps.bind (Keeps.getState _) fun _ ↦ Keeps.lift _) fun _ ↦
      Keeps.ite (Keeps.pure _) (keeps_useOrCreateVlan h hv vlanId fun vlanOid ↦
        keeps_saiRetErr
          (fun _ ↦ keeps_saiCall (h.ask rfl) fun _ ↦ Keeps.bind (Keeps.lift _) fun _ ↦ Keeps.pure _)
          fun _ ↦ keeps_scanMembers h.quiet _ _ _ (keeps_ensureMember h.quiet vlanOid _ tag) _ _)

/-! ### The switch -/

/-- A list query, refused or not. -/
theorem keeps_listCall {mk : List SaiAttribute → SaiCall} {get : Agent → OidArray}
    {set : Agent → OidArray → Agent} (hc : ∀ attr, Keeps f (ask E (mk attr) : AgentM σ SaiResp))
    (hset : ∀ v, BlindTo (fun a ↦ set a v) f) (attr : List SaiAttribute) :
    Keeps f (saiCall E mk (storeOids get set) attr) :=
  keeps_saiCall (hc attr) fun _ ↦ Keeps.bind (Keeps.getState _) fun _ ↦
    Keeps.bind (Keeps.lift _) fun _ ↦ Keeps.bind (Keeps.modState (hset _)) fun _ ↦ Keeps.pure _

theorem keeps_saiSwitchQuery (h : Quiet E f) (hp : ∀ v, BlindTo (fun a ↦ a.setPortList v) f)
    (hb : ∀ v, BlindTo (fun a ↦ a.setBrPortList v) f)
    (hd : ∀ n b v, BlindTo (fun a ↦ a.setDefaults n b v) f) : Keeps f (saiSwitchQuery E) :=
  Keeps.bind (Keeps.getState _) fun _ ↦
    keeps_saiRetErr (keeps_listCall (fun _ ↦ h.ask rfl) hp)
    fun _ ↦ Keeps.ite (Keeps.pure _) (Keeps.ite (Keeps.pure _)
      (Keeps.bind (Keeps.modState (hd _ _ _)) fun _ ↦
        keeps_saiRetErr (keeps_listCall (fun _ ↦ h.ask rfl) hb)
        fun _ ↦ keeps_saiRetErr (keeps_plainCall (h.ask rfl)) fun _ ↦ Keeps.pure _))

/-- A refused query of the switch assigns the port list and nothing else. -/
theorem worldOf_saiSwitchQuery_of_refused {w : World σ} (h : Quiet E f)
    (hp : ∀ v, BlindTo (fun a ↦ a.setPortList v) f)
    (hbad : (E (.getSwitchAttribute w.state.swInfo.switchOid 3 switchQueryAttr) w.env).1.ok =
      false) :
    f (worldOf (EStateM.run (saiSwitchQuery E) w)) = f w :=
  @worldOf_saiRetErr_of_refused _ _ _ _ _ (.getSwitchAttribute w.state.swInfo.switchOid 3) _ _
    (saiBridgeQuery E w.state.swInfo.switchOid) w (keeps_listCall (fun _ ↦ h.ask rfl) hp) hbad

/-- What every step of `sai_switch_init` leaves alone, the creation of the switch included. -/
theorem keeps_saiSwitchInit (h : ∀ (w : World σ) c, f (w.asked E c) = f w)
    (ho : ∀ g : Agent → Oid, BlindTo (fun a ↦ a.setSwitchOid (g a)) f)
    (hp : ∀ v, BlindTo (fun a ↦ a.setPortList v) f)
    (hb : ∀ v, BlindTo (fun a ↦ a.setBrPortList v) f)
    (hd : ∀ n b v, BlindTo (fun a ↦ a.setDefaults n b v) f) : Keeps f (saiSwitchInit E rt) := by
  have hblind : Blind E f := fun w c _ ↦ h w c
  refine keeps_saiRetErr (keeps_plainCall (hblind.ask rfl)) fun _ ↦
    keeps_saiRetErr (keeps_plainCall (hblind.ask rfl)) fun _ ↦
      Keeps.ite (Keeps.bind (Keeps.ask fun w ↦ h w _) fun r ↦
        Keeps.bind (Keeps.modState (ho fun a ↦ r.outOid.getD a.swInfo.switchOid)) fun _ ↦
          Keeps.ite (Keeps.pure _) (keeps_saiSwitchQuery hblind.quiet hp hb hd)) (Keeps.fault _)

/-- After `sai_switch_init`, SWITCH_INIT makes no assignment but registrations and a cache entry. -/
theorem worldOf_processSwitchInit (h : Quiet E f) (hv : ∀ v, BlindTo (fun a ↦ a.pushVlan v) f)
    (hr : ∀ type cb, BlindTo (fun a ↦ a.register type cb) f)
    (request reply : SaiagentMsg) (w : World σ) :
    f (worldOf (EStateM.run (saiagentIpcProcessSwitchInit E rt request reply) w)) =
      f (worldOf (EStateM.run (saiSwitchInit E rt) w)) := by
  have hset : ∀ type cb, Keeps f (saiagentIpcCbSet type cb : AgentM σ Rc) := fun _ _ ↦
    keeps_saiagentIpcCbSet (hr _ _)
  refine (worldOf_bind_of_keeps (fun status ↦ ?_) w).trans
    (worldOf_bind_of_keeps (fun status ↦ ?_) w)
  · exact Keeps.ite (Keeps.lift _) (Keeps.bind (Keeps.getState _) fun _ ↦
      Keeps.bind (Keeps.bind (hset _ _) fun _ ↦ Keeps.bind (hset _ _) fun _ ↦
        Keeps.bind (hset _ _) fun _ ↦ Keeps.pure _) fun _ ↦
      Keeps.bind (Keeps.bind (hset _ _) fun _ ↦ Keeps.pure _) fun _ ↦
      Keeps.bind (keeps_saiagentVlanInit h hv hr) fun _ ↦
      Keeps.bind (Keeps.bind (hset _ _) fun _ ↦ Keeps.bind (hset _ _) fun _ ↦
        Keeps.bind (hset _ _) fun _ ↦ Keeps.bind (hset _ _) fun _ ↦
          Keeps.bind (hset _ _) fun _ ↦ Keeps.pure _) fun _ ↦
      Keeps.ite (Keeps.lift _) (Keeps.lift _))
  · exact Keeps.ite (Keeps.pure _) (Keeps.bind (hset _ _) fun _ ↦ Keeps.bind (hset _ _) fun _ ↦
      Keeps.bind (hset _ _) fun _ ↦ Keeps.pure _)

/-! ### Threads -/

theorem keeps_clearRunning (ht : ∀ v : Agent → List ThreadSlot, BlindTo (fun a ↦ a.setThreads (v a))
    f) (ctx : Option ℕ) : Keeps f (clearRunning ctx : AgentM σ (ℕ × ThreadSlot)) :=
  Keeps.bind (Keeps.getState _) fun _ ↦ Keeps.bind (Keeps.lift _) fun _ ↦
    Keeps.bind (Keeps.modState (ht _)) fun _ ↦ Keeps.pure _

theorem keeps_saiagentThreadStop
    (ht : ∀ v : Agent → List ThreadSlot, BlindTo (fun a ↦ a.setThreads (v a)) f) (ctx : Option ℕ) :
    Keeps f (saiagentThreadStop ctx : AgentM σ Rc) :=
  Keeps.bind (keeps_clearRunning ht ctx) fun _ ↦ Keeps.pure _

theorem keeps_saiagentThreadDestroy
    (ht : ∀ v : Agent → List ThreadSlot, BlindTo (fun a ↦ a.setThreads (v a)) f) (ctx : Option ℕ) :
    Keeps f (saiagentThreadDestroy rt ctx : AgentM σ Rc) :=
  Keeps.bind (keeps_clearRunning ht ctx) fun _ ↦ by
    rcases rt.pthreadJoin with _ | _ | _
    · exact Keeps.ite (Keeps.fault _) (Keeps.bind (Keeps.modState (ht _)) fun _ ↦ Keeps.pure _)
    · exact Keeps.pure _
    · exact Keeps.fault _

theorem keeps_saiagentThreadCreate
    (ht : ∀ v : Agent → List ThreadSlot, BlindTo (fun a ↦ a.setThreads (v a)) f) (routine : Routine)
    (type : ThreadType) (timeout : Int32) :
    Keeps f (saiagentThreadCreate rt routine type timeout : AgentM σ (Option ℕ)) :=
  Keeps.ite (Keeps.bind (Keeps.getState _) fun _ ↦ Keeps.bind (Keeps.modState (ht _)) fun _ ↦
    Keeps.pure _) (Keeps.pure _)

end SaiAgent
