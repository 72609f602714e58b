import SaiAgent.Library.Independence
import SaiAgent.Library.Refinement
import SaiAgent.Properties.PortCommute

/-!
# Runs of port requests

Once the switch is up, the agent is a machine over the settings of its ports: every run of requests
that neither bring the switch up nor take it down leads, over a SAI that refuses only what it cannot
do, to the settings `VlanModel` computes from the commands in the requests, and each request is
answered as the model answers it (`portRun_refines`). All else — the requests that configure
nothing, the object identifiers, the order of the cache — is invisible in the settings.

What follows for the runs themselves is in `PortOrder`.
-/

namespace SaiAgent

open Effects Effects.Proc Effects.Run Effects.Independence

variable {σ : Type} {E E₁ : SaiBackend σ} {view : σ → SaiStore} {accepts : SaiCall → Bool}
  {w w' : World σ} {a a' a₀ : Agent} {rt : Runtime} {buf : List UInt8} {handler : Handler}

/-! ### Commands -/

/-- A port's number and the setting asked for it. -/
abbrev PortCommand := UInt32 × PortSetting

/-- The command in a request for this handler, if it has one for a port that has objects. -/
def settingOf (rt : Runtime) (a : Agent) (buf : List UInt8) : Handler → Option PortCommand
  | .vlanPortSet =>
    let req := PresteraMsgVlanReq.ofBuff buf
    match a.swInfo.brPortList.get req.port.toNat with
    | .ok b =>
      if b = saiNullObjectId then
        none
      else
        some (req.port, .vlanPortSet req.vid b (modeOf (req.isTagged ≠ 0)) rt.vlanInfoCalloc)
    | .error _ => none
  | .vlanPvidSet =>
    let req := PresteraMsgVlanReq.ofBuff buf
    match a.swInfo.portList.get req.port.toNat with
    | .ok p => some (req.port, .vlanPvidSet p req.vid)
    | .error _ => none
  | .portAttrSet =>
    let req := PresteraMsgPortAttrReq.ofBuff buf
    if req.attr = PresteraCmdPortAttr.phyMode then
      match a.swInfo.portList.get req.port.toNat with
      | .ok p => some (req.port, .phyModeSet p (req.phyAdmin ≠ 0))
      | .error _ => none
    else
      none
  | _ => none

/-- The commands in a request: one or none. -/
def commandsOf (a : Agent) (i : SessionInput) : List PortCommand :=
  ((selected a.ipcCbList i.buf.bytes i.size).bind (settingOf i.rt a i.buf.bytes)).toList

theorem asks_of_settingOf {c : PortCommand} (h : settingOf rt a buf handler = some c) :
    Asks rt a buf handler c.2 := by
  cases handler with
  | vlanPortSet =>
    simp only [settingOf] at h
    split at h
    · split at h
      · cases h
      · next hget hb =>
        cases h
        exact .vlanPortSet hb hget
    · cases h
  | vlanPvidSet =>
    simp only [settingOf] at h
    split at h
    · next hget =>
      cases h
      exact .vlanPvidSet hget
    · cases h
  | portAttrSet =>
    simp only [settingOf] at h
    split at h
    · next hattr =>
      split at h
      · next hget =>
        cases h
        exact .phyModeSet hattr hget
      · cases h
    · cases h
  | _ => cases h

/-- What the meaning of a request depends on. -/
def portView (a : Agent) : (ℕ → Option Handler) × Oid × OidArray × OidArray :=
  (a.ipcCbList, a.swInfo.switchOid, a.swInfo.portList, a.swInfo.brPortList)

theorem commandsOf_congr (h : portView a = portView a') (i : SessionInput) :
    commandsOf a i = commandsOf a' i := by
  have htable : a.ipcCbList = a'.ipcCbList := congrArg Prod.fst h
  have hports : a.swInfo.portList = a'.swInfo.portList := congrArg (fun v ↦ v.2.2.1) h
  have hbrPorts : a.swInfo.brPortList = a'.swInfo.brPortList := congrArg (fun v ↦ v.2.2.2) h
  rw [commandsOf, commandsOf, htable]
  refine congrArg Option.toList (congrArg (Option.bind _) (funext fun handler ↦ ?_))
  cases handler <;> simp only [settingOf, hports, hbrPorts]

/-- A request that, if it holds a command at all, neither brings the switch up nor takes it down,
and names a port the agent's arrays have room for. -/
structure PortInput extends SessionInput where
  notInit : 4 ≤ size → cmdOf buf.bytes ≠ PresteraCmdType.switchInit
  notReset : 4 ≤ size → cmdOf buf.bytes ≠ PresteraCmdType.switchReset
  port_lt : 4 ≤ size → ∀ handler : Handler, handler.cmdType = cmdOf buf.bytes →
    ∀ p ∈ portOf handler buf.bytes, p < 64

/-! ### One request -/

/-- The request was answered with success. -/
def succeeded : EStateM.Result Fault (World σ) SaiagentMsg → Bool
  | .ok reply _ => replyStatus reply = presteraCmdAckOk
  | .error _ _ => false

theorem keeps_portView (hinit : handler ≠ .switchInit) (request reply : SaiagentMsg) :
    Keeps (fun w : World σ ↦ portView w.state) (handler.run E rt request reply) :=
  keeps_handler (fun _ _ _ ↦ rfl) (fun _ _ _ ↦ rfl) (fun _ ↦ ⟨fun _ _ _ ↦ rfl, fun _ _ ↦ rfl⟩)
    (fun _ _ _ ↦ rfl) (fun _ _ _ ↦ rfl) (fun _ _ ↦ rfl) hinit request reply

theorem keeps_running (hinit : handler ≠ .switchInit) (hreset : handler ≠ .switchReset)
    (request reply : SaiagentMsg) :
    Keeps (fun w : World σ ↦ w.state.running) (handler.run E rt request reply) :=
  keeps_handler (fun _ _ _ ↦ rfl) (fun _ _ _ ↦ rfl) (fun _ ↦ ⟨fun _ _ _ ↦ rfl, fun _ _ ↦ rfl⟩)
    (fun _ _ _ ↦ rfl) (fun _ _ _ ↦ rfl) (fun h ↦ absurd h hreset) hinit request reply

/-- A VLAN_PORT_SET for an entry that is no bridge port changes nothing. -/
theorem returns_saiVlanAddPortMember_of_null (hE : ExactSai E view accepts) {S : SaiStore}
    {port : UInt32} {vid : UInt16} {tag : Bool}
    (hget : a.swInfo.brPortList.get port.toNat = .ok saiNullObjectId) :
    Returns (At view a S) (saiVlanAddPortMember E rt vid port tag) fun _ w ↦ At view a S w := by
  refine returns_query hE (fun _ ↦ ?_) fun _ _ _ h ↦ h.2
  refine returns_query hE (fun _ ↦ ?_) fun _ _ _ h ↦ h.2
  refine Returns.bind (R := fun b w ↦ b = saiNullObjectId ∧ At view a S w) (Returns.bind
    (R := fun l w ↦ l = a.swInfo.brPortList ∧ At view a S w) (Returns.getState fun w hw ↦
      ⟨by rw [hw.1], hw⟩) fun l w hw ↦ Returns.lift (P := At view a S) (hw.1 ▸ hget)
        (fun _ h ↦ ⟨rfl, h⟩) w hw.2) ?_
  rintro b w ⟨rfl, hw⟩
  rw [if_pos rfl]
  exact ⟨_, w, rfl, hw⟩

/-- A request without a command leaves the settings. -/
theorem settingsOf_of_no_command (hE : ExactSai E view accepts) {request reply : SaiagentMsg}
    (hinit : handler ≠ .switchInit) (hreset : handler ≠ .switchReset)
    (hport : ∀ p ∈ portOf handler (request.buff.getD []), p < 64)
    (h : settingOf rt w.state (request.buff.getD []) handler = none) :
    settingsOf view (worldOf (EStateM.run (handler.run E rt request reply) w)) =
      settingsOf view w := by
  have hget : ∀ {l : OidArray} {p : UInt32}, p < 64 → ∃ o, l.get p.toNat = .ok o := fun hp ↦
    ⟨_, OidArray.get_of_lt _ (UInt32.lt_iff_toNat_lt.1 hp)⟩
  have hlift : ∀ x : Except Fault SaiagentMsg,
      Keeps (settingsOf view) (lift x : AgentM σ SaiagentMsg) := Keeps.lift
  cases handler with
  | switchInit => exact absurd rfl hinit
  | switchReset => exact absurd rfl hreset
  | keepaliveInit =>
    refine Keeps.bind (keeps_saiagentThreadCreate (fun _ _ ↦ rfl) _ _ _) (fun ctx ↦ ?_) w
    cases ctx with
    | none => exact hlift _
    | some i => exact Keeps.bind (Keeps.modState fun _ ↦ rfl) fun _ ↦ hlift _
  | portAttrSet =>
    by_cases hattr : (PresteraMsgPortAttrReq.ofBuff (request.buff.getD [])).attr =
        PresteraCmdPortAttr.phyMode
    · obtain ⟨o, ho⟩ := @hget w.state.swInfo.portList _ (hport _ rfl)
      simp only [settingOf, if_pos hattr, ho] at h
      cases h
    · show settingsOf view (worldOf (EStateM.run (saiagentIpcProcessPortAttrSet E request reply)
        w)) = _
      rw [saiagentIpcProcessPortAttrSet]
      simp only [if_neg hattr]
      exact hlift _ w
  | vlanPvidSet =>
    obtain ⟨o, ho⟩ := @hget w.state.swInfo.portList _ (hport _ rfl)
    simp only [settingOf, ho] at h
    cases h
  | vlanPortSet =>
    obtain ⟨o, ho⟩ := @hget w.state.swInfo.brPortList _ (hport _ rfl)
    simp only [settingOf, ho] at h
    have hnull : o = saiNullObjectId := by
      by_contra hne
      rw [if_neg hne] at h
      cases h
    obtain ⟨st, w', hrun, hstate, henv⟩ := @returns_saiVlanAddPortMember_of_null _ E view accepts
      _ rt hE (view w.env) _ (vlanIdOf request)
      ((PresteraMsgVlanReq.ofBuff (request.buff.getD [])).isTagged ≠ 0) (hnull ▸ ho) w ⟨rfl, rfl⟩
    rw [worldOf_vlanPortSet]
    show settingsOf view (worldOf (EStateM.run (saiVlanAddPortMember E rt _ _ _) w)) = _
    rw [hrun, worldOf_ok, settingsOf, hstate, henv]
    rfl
  | switchAttrSet | portInfoGet | portAttrGet | vlanCreate | vlanDelete | stpPortSet
  | fdbFlushPort | routerMpHashSet | routerVrCreate | routerVrDel | routerLpmAdd
  | routerLpmDel => exact hlift _ w

/-- **A request carries out its command**, if it has one, and nothing else the settings show. -/
theorem handle_portInput (hE : ExactSai E view accepts) (hk : Known view w)
    (htable : ReachableTable w.state.ipcCbList) (i : PortInput) :
    ∃ r w', Session.handle E w i.toSessionInput = .ok r w' ∧ Known view w' ∧
      portView w'.state = portView w.state ∧ w'.state.running = w.state.running ∧
      (commandsOf w.state i.toSessionInput = [] → settingsOf view w' = settingsOf view w) ∧
      ∀ c ∈ commandsOf w.state i.toSessionInput,
        (replyStatus r = presteraCmdAckOk ↔
          ((settingsOf view w).step accepts w.state.swInfo.switchOid c.2).1 = true) ∧
        settingsOf view w' =
          ((settingsOf view w).step accepts w.state.swInfo.switchOid c.2).2 := by
  have hreply := isReply_freshReply i.out.length_eq
  rcases hsel : selected w.state.ipcCbList i.buf.bytes i.size with _ | handler
  · obtain ⟨r, hrun⟩ := @Session.handle_of_not_selected σ E ⟨w, false⟩ i.toSessionInput hsel
    refine ⟨r, w, hrun, hk, rfl, rfl, fun _ ↦ rfl, ?_⟩
    rw [commandsOf, hsel]
    intro c hc
    cases hc
  have hcmd := htable.cmdType_eq_of_selected hsel
  have hsize := four_le_of_selected hsel
  have hinit : handler ≠ .switchInit := by
    rintro rfl
    exact i.notInit hsize hcmd.symm
  have hreset : handler ≠ .switchReset := by
    rintro rfl
    exact i.notReset hsize hcmd.symm
  have hhandle := @Session.handle_of_selected σ E ⟨w, false⟩ i.toSessionInput handler hsel
  obtain ⟨r, w', hrun, -⟩ := @total_handler _ E i.rt (handedRequest i.buf.bytes i.size) _
    hE.toKeepsRoom hreply handler (i.port_lt hsize handler hcmd) hinit hreset w trivial
  have hknown := @preserves_known σ E i.rt view (handedRequest i.buf.bytes i.size) _ hE.toStoreSai
    hreply handler w hk
  have hview := @keeps_portView σ E i.rt handler hinit (handedRequest i.buf.bytes i.size)
    (freshReply i.out.bytes) w
  have hrunning := @keeps_running σ E i.rt handler hinit hreset
    (handedRequest i.buf.bytes i.size) (freshReply i.out.bytes) w
  rw [hrun] at hknown hview hrunning
  refine ⟨r, w', hhandle.trans hrun, hknown, hview, hrunning, fun hc ↦ ?_, fun c hc ↦ ?_⟩
  · have hnone : settingOf i.rt w.state i.buf.bytes handler = none := by
      rw [commandsOf, hsel, Option.bind_some, Option.toList_eq_nil_iff] at hc
      exact hc
    have hsettings := @settingsOf_of_no_command σ E view accepts w i.rt handler hE
      (handedRequest i.buf.bytes i.size) (freshReply i.out.bytes) hinit hreset
      (i.port_lt hsize handler hcmd) hnone
    rw [hrun] at hsettings
    exact hsettings
  · rw [commandsOf, hsel, Option.bind_some, Option.mem_toList] at hc
    obtain ⟨r', w'', hrun', hack, hsettings, -⟩ :=
      handle_setting hE hk hsel (asks_of_settingOf hc)
    cases hrun'.symm.trans (hhandle.trans hrun)
    exact ⟨replyStatus_ackOf hreply hack, hsettings⟩

/-! ### Runs -/

/-- A session on port requests. -/
def portStep (E : SaiBackend σ) (s : Session σ) (i : PortInput) : Session σ :=
  s.step E i.toSessionInput

variable (accepts) in
/-- What a command does to the settings of a switch with this object. -/
def commandStep (switchOid : Oid) (x : VlanModel) (c : PortCommand) : Bool × VlanModel :=
  x.step accepts switchOid c.2

/-- The states the refinement is about: the agent is live, knows its VLANs, and has the table, the
switch and the ports it had. -/
structure PortsUp (view : σ → SaiStore) (a₀ : Agent) (s : Session σ) : Prop where
  live : s.Live
  known : Known view s.world
  view_eq : portView s.world.state = portView a₀

/-- The step lemma. -/
theorem PortsUp.step (hE : ExactSai E view accepts) (htable : ReachableTable a₀.ipcCbList)
    {s : Session σ} (h : PortsUp view a₀ s) (i : PortInput) : PortsUp view a₀ (portStep E s i) ∧
      (commandsOf a₀ i.toSessionInput = [] →
        settingsOf view (portStep E s i).world = settingsOf view s.world) ∧
      ∀ c ∈ commandsOf a₀ i.toSessionInput,
        succeeded (Session.handle E s.world i.toSessionInput) =
          (commandStep accepts a₀.swInfo.switchOid (settingsOf view s.world) c).1 ∧
        settingsOf view (portStep E s i).world =
          (commandStep accepts a₀.swInfo.switchOid (settingsOf view s.world) c).2 := by
  have heq : s.world.state.ipcCbList = a₀.ipcCbList := congrArg Prod.fst h.view_eq
  have hswitch : s.world.state.swInfo.switchOid = a₀.swInfo.switchOid :=
    congrArg (fun v ↦ v.2.1) h.view_eq
  obtain ⟨r, w', hrun, hknown, hview, hrunning, hnone, hsome⟩ :=
    handle_portInput hE h.known (heq ▸ htable) i
  rw [commandsOf_congr h.view_eq] at hnone hsome
  rw [hswitch] at hsome
  rw [portStep, Session.step_of_ok hrun, hrun]
  refine ⟨⟨⟨hrunning.trans h.live.1, rfl⟩, hknown, hview.trans h.view_eq⟩, hnone, fun c hc ↦ ?_⟩
  obtain ⟨hack, hsettings⟩ := hsome c hc
  exact ⟨Bool.eq_iff_iff.2 (by simpa [succeeded, commandStep] using hack), hsettings⟩

/-- **The session refines the settings.** -/
def portRefinement (hE : ExactSai E view accepts) (htable : ReachableTable a₀.ipcCbList) :
    Refinement Session.Live (portStep E) (fun _ : VlanModel ↦ True)
      fun x c ↦ (commandStep accepts a₀.swInfo.switchOid x c).2 where
  inv := PortsUp view a₀
  abs s := settingsOf view s.world
  pass _ i := commandsOf a₀ i.toSessionInput
  inv_step _ i _ h := (h.step hE htable i).1
  abs_step s i _ h := by
    obtain ⟨-, hnone, hsome⟩ := h.step hE htable i
    rcases hc : (selected a₀.ipcCbList i.buf.bytes i.size).bind (settingOf i.rt a₀ i.buf.bytes)
      with _ | c
    · rw [commandsOf, hc] at hnone ⊢
      exact hnone rfl
    · rw [commandsOf, hc] at hsome ⊢
      rw [Option.toList_some, exec_cons_of_live trivial, exec_nil]
      exact (hsome c List.mem_cons_self).2

/-- The commands of a request with its answer. -/
def portAnswers (E : SaiBackend σ) (a₀ : Agent) (s : Session σ) (i : PortInput) :
    List (PortCommand × Bool) :=
  (commandsOf a₀ i.toSessionInput).map fun c ↦
    (c, succeeded (Session.handle E s.world i.toSessionInput))

variable (E) in
/-- The commands of a run of port requests with the agent's answers. -/
def portDialogue (a₀ : Agent) (s : Session σ) (is : List PortInput) : List (PortCommand × Bool) :=
  outputs Session.Live (portStep E) (portAnswers E a₀) s is

variable (E) in
/-- The session after these port requests. -/
def portExec (s : Session σ) (is : List PortInput) : Session σ :=
  Session.exec E s (is.map PortInput.toSessionInput)

/-- The commands of a run. -/
def commandsIn (a₀ : Agent) (is : List PortInput) : List PortCommand :=
  is.flatMap fun i ↦ commandsOf a₀ i.toSessionInput

/-- The run lemma. -/
theorem PortsUp.exec (hE : ExactSai E view accepts) (htable : ReachableTable a₀.ipcCbList)
    {s : Session σ} (h : PortsUp view a₀ s) (is : List PortInput) :
    PortsUp view a₀ (portExec E s is) ∧
      settingsOf view (portExec E s is).world =
        final (commandStep accepts a₀.swInfo.switchOid) (settingsOf view s.world)
          (commandsIn a₀ is) ∧
      portDialogue E a₀ s is =
        dialogue (commandStep accepts a₀.swInfo.switchOid) (settingsOf view s.world)
          (commandsIn a₀ is) := by
  let R := portRefinement hE htable
  have hpassed : R.passed s is = commandsIn a₀ is :=
    outputs_eq_flatMap (J := PortsUp view a₀) (fun s i _ h ↦ (h.step hE htable i).1)
      (fun _ h ↦ h.live) h is
  have hexec : portExec E s is = Run.exec Session.Live (portStep E) s is :=
    (exec_map PortInput.toSessionInput s is).symm
  rw [hexec, ← hpassed]
  refine ⟨R.inv_exec h is, R.exec h is, R.outputs_eq h (fun s i _ h ↦ ?_) is⟩
  obtain ⟨-, -, hsome⟩ := h.step hE htable i
  show portAnswers E a₀ s i = outputs _ _ _ _ (commandsOf a₀ i.toSessionInput)
  rcases hc : (selected a₀.ipcCbList i.buf.bytes i.size).bind (settingOf i.rt a₀ i.buf.bytes)
    with _ | c
  · rw [portAnswers, commandsOf, hc]
    rfl
  · rw [commandsOf, hc] at hsome
    rw [portAnswers, commandsOf, hc, Option.toList_some, outputs_singleton trivial, List.map_cons,
      List.map_nil, (hsome c List.mem_cons_self).1]
    rfl

/-! ### Reachable states -/

/-- A live state some session over a store reaches, whatever that store refuses. -/
structure PortsReached (view : σ → SaiStore) (s : Session σ) : Prop where
  live : s.Live
  reached : ∃ (E₁ : SaiBackend σ) (env : σ) (is : List SessionInput), StoreSai E₁ view ∧
    s = Session.exec E₁ (Session.start env) is

theorem reachableTable_step {s : Session σ} (hs : HasReachableTable s.world) (i : SessionInput) :
    HasReachableTable (s.step E i).world := by
  rw [Session.step_world]
  rcases hsel : selected s.world.state.ipcCbList i.buf.bytes i.size with _ | handler
  · obtain ⟨reply, hrun⟩ := Session.handle_of_not_selected (E := E) hsel
    rw [hrun]
    exact hs
  · rw [Session.handle_of_selected hsel]
    exact preserves_reachableTable handler _ _ s.world hs

theorem reachableTable_start (env : σ) : HasReachableTable (Session.start env).world :=
  reachableTable_register_zero .switchInit

theorem reachableTable_exec (env : σ) (is : List SessionInput) :
    HasReachableTable (Session.exec E (Session.start env) is).world :=
  exec_invariant_of_all (J := fun s : Session σ ↦ HasReachableTable s.world)
    (fun _ i _ hs ↦ reachableTable_step hs i) is _ (reachableTable_start env)

theorem PortsReached.table {s : Session σ} (h : PortsReached view s) :
    ReachableTable s.world.state.ipcCbList := by
  obtain ⟨E₁, env, is, -, rfl⟩ := h.reached
  exact reachableTable_exec env is

theorem PortsReached.portsUp {s : Session σ} (h : PortsReached view s) :
    PortsUp view s.world.state s := by
  obtain ⟨E₁, env, is, hE₁, rfl⟩ := h.reached
  exact ⟨h.live, known_exec E₁ hE₁ env is, rfl⟩

/-- **Every run of port requests is one of the model.** From any live state a session over a store
reaches, the settings in the end are the model's after the commands of the requests, and every
command is answered as in the model. -/
theorem portRun_refines (hE : ExactSai E view accepts) {s : Session σ} (h : PortsReached view s)
    (is : List PortInput) :
    (portExec E s is).Live ∧
      settingsOf view (portExec E s is).world =
        final (commandStep accepts s.world.state.swInfo.switchOid) (settingsOf view s.world)
          (commandsIn s.world.state is) ∧
      portDialogue E s.world.state s is =
        dialogue (commandStep accepts s.world.state.swInfo.switchOid) (settingsOf view s.world)
          (commandsIn s.world.state is) := by
  obtain ⟨hup, hfinal, hdialogue⟩ := h.portsUp.exec hE h.table is
  exact ⟨hup.live, hfinal, hdialogue⟩

/-- The agent of `listSai` after SWITCH_INIT. -/
def listSession : Session ListStore :=
  Session.exec listSai (Session.start ListStore.empty) [bareInput .switchInit]

theorem portsReached_listSession : PortsReached ListStore.view listSession :=
  ⟨by decide +kernel, listSai, ListStore.empty, [bareInput .switchInit], storeSai_listSai, rfl⟩

/-- One of its ports is put into the VLAN 10. -/
def joinTen (second : Bool) : PortInput where
  toSessionInput := vlanPortInput (if second then 1 else 0) 10 1 1 (Runtime.calm 0)
  notInit _ := by cases second <;> decide +kernel
  notReset _ := by cases second <;> decide +kernel
  port_lt _ handler h p hp := by
    cases handler
    case vlanPortSet =>
      have hport : p = if second then 1 else 0 := by
        cases second <;> exact (Option.some.inj hp).symm.trans (by decide +kernel)
      rw [hport]
      cases second <;> decide
    all_goals cases second <;> exact absurd h (by decide +kernel)

/-- Both ports join, and the first one is asked to join again. -/
theorem portRun_refines_listSession :
    (portExec listSai listSession [joinTen false, joinTen true, joinTen false]).Live ∧
      settingsOf ListStore.view
          (portExec listSai listSession [joinTen false, joinTen true, joinTen false]).world =
        final (commandStep (fun _ ↦ true) listSession.world.state.swInfo.switchOid)
          (settingsOf ListStore.view listSession.world)
          (commandsIn listSession.world.state [joinTen false, joinTen true, joinTen false]) ∧
      portDialogue listSai listSession.world.state listSession
          [joinTen false, joinTen true, joinTen false] =
        dialogue (commandStep (fun _ ↦ true) listSession.world.state.swInfo.switchOid)
          (settingsOf ListStore.view listSession.world)
          (commandsIn listSession.world.state [joinTen false, joinTen true, joinTen false]) :=
  portRun_refines exactSai_listSai portsReached_listSession _

end SaiAgent
