import SaiAgent.Properties.Execution
import SaiAgent.Properties.Frames

/-!
# `sai_switch_init`

The plan of bringing the switch up, and what the function leaves behind for each way the plan can be
executed. `switchInitRun` splits a run by how far it came: one of the two API queries failed,
`create_switch` was refused, or a switch was created. Only the last enters the set of live switches
(`liveSwitches`), which is read off the calls made so far.
-/

namespace SaiAgent

open Effects Effects.Proc Effects.Plan

variable {σ A : Type} {E : SaiBackend σ} {rt : Runtime} {w : World σ}

/-! ### Live switches -/

/-- A successful creation adds its object, a successful removal takes it away. -/
def liveStep (live : List Oid) : SaiCall × SaiResp → List Oid
  | (.createSwitch _ _, r) => if r.ok then live ++ [r.outOid.getD saiNullObjectId] else live
  | (.removeSwitch o, r) => if r.ok then live.erase o else live
  | _ => live

/-- The switch objects created and not yet removed, oldest first. -/
def liveSwitches (trace : List (SaiCall × SaiResp)) : List Oid := trace.foldl liveStep []

@[simp] theorem liveSwitches_concat (t : List (SaiCall × SaiResp)) (e : SaiCall × SaiResp) :
    liveSwitches (t ++ [e]) = liveStep (liveSwitches t) e := by
  rw [liveSwitches, List.foldl_append]
  rfl

/-- Only creation and removal change the set. -/
theorem liveStep_of_not_life {c : SaiCall} (h : c.isSwitchLife = false) (live : List Oid)
    (r : SaiResp) : liveStep live (c, r) = live := by
  cases c <;> first | rfl | cases h

theorem blind_liveSwitches : Blind E fun w : World σ ↦ liveSwitches w.trace := by
  intro w c hc
  exact (liveSwitches_concat _ _).trans (liveStep_of_not_life hc _ _)

/-! ### The plan -/

/-- Read the switch's attributes and its bridge ports, and hand SAI the notification callback;
`next` is given the default VLAN. -/
def queryPlan (switchOid : Oid) (next : Oid → SaiPlan) : SaiPlan :=
  .call (.getSwitchAttribute switchOid 3 switchQueryAttr) fun r ↦
    if (attrValue r.attr 1).getOid = saiNullObjectId then
      .done .failed
    else if (attrValue r.attr 2).getOid = saiNullObjectId then
      .done .failed
    else
      .call (.getBridgeAttribute (attrValue r.attr 1).getOid 1
        [⟨.bridgePortList, .objlist OidArray.arrayLen⟩]) fun _ ↦
      .call (.setSwitchAttribute switchOid
        ⟨.switchPortStateChangeNotify, .ptr .saiOnPortStateChangeNotify⟩) fun _ ↦
      next (attrValue r.attr 2).getOid

/-- Create the switch, and read what it has. -/
def createPlan (rt : Runtime) (a : Agent) (next : Oid → SaiPlan) : SaiPlan :=
  if rt.hwInfoMalloc then
    .call (.createSwitch 3 createSwitchAttr) fun r ↦
      queryPlan (r.outOid.getD a.swInfo.switchOid) next
  else
    .done .stuck

/-- Query the two APIs first. -/
def switchPlan (rt : Runtime) (a : Agent) (next : Oid → SaiPlan) : SaiPlan :=
  .call (.saiApiQuery .switch) fun _ ↦ .call (.saiApiQuery .bridge) fun _ ↦ createPlan rt a next

/-- How the execution of the plan of `sai_switch_init` ends. -/
def switchOutcome (E : SaiBackend σ) (rt : Runtime) (w : World σ) :
    Outcome SaiCall SaiResp Verdict :=
  ((switchPlan rt w.state fun _ ↦ .done .complete).exec SaiResp.ok retried E w.env).outcome

/-- A list query faults where the answer overruns the array. -/
theorem stores_storeOids {mk : List SaiAttribute → SaiCall} {get : Agent → OidArray}
    {set : Agent → OidArray → Agent} (hover : ∀ attr r, Overlong attr r ↔ Overruns (mk attr) r) :
    Stores Overruns mk fun attr r ↦ (storeOids get set attr r : AgentM σ (List SaiAttribute)) := by
  refine ⟨fun attr r w ↦ ?_, fun attr r w ↦ ?_, fun attr r w ↦ ?_⟩
  · rw [storeOids, EStateM.run_bind, run_getState]
    dsimp only
    cases (get w.state).store (attrValue attr 0).getCount r.list <;> rfl
  · rw [storeOids, EStateM.run_bind, run_getState]
    dsimp only
    cases (get w.state).store (attrValue attr 0).getCount r.list <;> rfl
  · refine Iff.trans ?_ (((get w.state).store_eq_error_iff (attrValue attr 0).getCount r.list).trans
      (hover attr r))
    rw [storeOids, EStateM.run_bind, run_getState]
    dsimp only
    cases (get w.state).store (attrValue attr 0).getCount r.list with
    | ok list => exact iff_of_false (by rintro ⟨e, he⟩; cases he) (by rintro ⟨e, he⟩; cases he)
    | error e => exact iff_of_true ⟨e, rfl⟩ ⟨e, rfl⟩

/-- Its first evaluation announces the array's own length, and stores. -/
theorem run_storeOids (get : Agent → OidArray) (set : Agent → OidArray → Agent)
    (attr : List SaiAttribute) (hattr : (attrValue attr 0).getCount = OidArray.arrayLen)
    (r : SaiResp) (w : World σ) :
    ∃ list, EStateM.run (storeOids get set attr r) w =
        .ok r.attr (w.mapState fun a ↦ set a list) ∧
      list.entries = r.list.take 64 ++ (get w.state).entries.drop (r.list.take 64).length := by
  obtain ⟨list, hstore, hentries⟩ := (get w.state).store_arrayLen r.list
  refine ⟨list, ?_, hentries⟩
  simp only [storeOids, EStateM.run_bind, run_getState, hattr, hstore, run_lift_ok, run_modState]
  rfl

theorem faultsIn_saiRetErr {P : Fault → Prop} {stmt : A → AgentM σ (SaiStatus × A)} {a : A}
    {rest : A → AgentM σ SaiStatus} (hstmt : ∀ a, FaultsIn P (stmt a))
    (hrest : ∀ a, FaultsIn P (rest a)) : FaultsIn P (saiRetErr stmt a rest) :=
  (hstmt a).bind fun p ↦ FaultsIn.ite ((hstmt p.2).bind fun _ ↦ .pure _) (hrest p.2)

theorem faultsIn_plainCall {P : Fault → Prop} (c : SaiCall) (a : Unit) :
    FaultsIn P (plainCall E c a) :=
  (FaultsIn.ask E c).bind fun _ ↦ .pure _

/-- A list query faults by overrunning its array. -/
theorem faultsIn_listCall (mk : List SaiAttribute → SaiCall) (get : Agent → OidArray)
    (set : Agent → OidArray → Agent) (attr : List SaiAttribute) :
    FaultsIn (· = .outOfBounds) (saiCall E mk (storeOids get set) attr) := by
  refine (FaultsIn.ask E _).bind fun r ↦ ((FaultsIn.getState _).bind fun list ↦ ?_).bind fun _ ↦
    .pure _
  exact (FaultsIn.lift fun e he ↦ OidArray.eq_outOfBounds_of_store he).bind fun _ ↦
    (FaultsIn.modState _).bind fun _ ↦ .pure _

/-- **Once the switch exists**, only an array that is overrun stops `sai_switch_init`. -/
theorem faultsIn_saiSwitchQuery : FaultsIn (· = .outOfBounds) (saiSwitchQuery E) := by
  refine (FaultsIn.getState _).bind fun oid ↦
    faultsIn_saiRetErr (faultsIn_listCall _ _ _) fun attr ↦ ?_
  refine FaultsIn.ite (.pure _) (FaultsIn.ite (.pure _) ((FaultsIn.modState _).bind fun _ ↦ ?_))
  exact faultsIn_saiRetErr (faultsIn_listCall _ _ _) fun _ ↦
    faultsIn_saiRetErr (faultsIn_plainCall _) fun _ ↦ .pure _

theorem executes_saiSwitchQuery :
    ExecutesStatus Overruns E (saiSwitchQuery E) w
      (queryPlan w.state.swInfo.switchOid fun _ ↦ .done .complete) := by
  refine Follows.getState (executes_saiRetErr (stores_storeOids fun _ _ ↦ Iff.rfl) fun r ↦ ?_)
  obtain ⟨portList, hrun, -⟩ := run_storeOids (fun a ↦ a.swInfo.portList) Agent.setPortList
    switchQueryAttr rfl r (w.asked E _)
  refine ⟨r.attr, _, hrun, rfl, fun _ _ ↦ ?_⟩
  unfold saiBridgeQuery
  split
  · exact executes_failure
  · split
    · exact executes_failure
    · refine Follows.modState (executes_saiRetErr (stores_storeOids fun _ _ ↦ Iff.rfl)
        fun r' ↦ ?_)
      obtain ⟨brPortList, hrun', -⟩ := run_storeOids (fun a ↦ a.swInfo.brPortList)
        Agent.setBrPortList [⟨.bridgePortList, .objlist OidArray.arrayLen⟩] rfl r'
        (OracleWorld.asked _ E _)
      exact ⟨r'.attr, _, hrun', rfl, fun _ _ ↦
        executes_plainCall (fun _ ↦ rfl) (fun _ ↦ id) fun _ ↦ executes_success⟩

theorem executes_saiSwitchInit :
    ExecutesStatus Overruns E (saiSwitchInit E rt) w
      (switchPlan rt w.state fun _ ↦ .done .complete) := by
  refine executes_plainCall (fun _ ↦ rfl) (fun _ ↦ id) fun _ ↦
    executes_plainCall (fun _ ↦ rfl) (fun _ ↦ id) fun _ ↦ ?_
  unfold createSwitch createPlan
  cases rt.hwInfoMalloc with
  | false => exact executes_fault _
  | true => exact executes_ask_assign (fun _ ↦ rfl) (fun _ hr ↦ hr) fun _ ↦ executes_saiSwitchQuery

/-- The query's plan ends with its last call, or where a default object is missing, or with a
repeated call of its own. -/
theorem queryPlan_outcome (E : SaiBackend σ) (oid : Oid) (s : σ) :
    (∃ c r, ((queryPlan oid fun _ ↦ .done .complete).exec SaiResp.ok retried E s).outcome =
        .repeated c r ∧ ∀ api, c ≠ .saiApiQuery api) ∨
      ∃ v, ((queryPlan oid fun _ ↦ .done .complete).exec SaiResp.ok retried E s).outcome =
        .finished v ∧ v ≠ .stuck := by
  rcases h₁ : (E (.getSwitchAttribute oid 3 switchQueryAttr) s).1.ok with _ | _
  · rw [queryPlan, exec_call_repeated h₁ rfl]
    exact Or.inl ⟨_, _, rfl, nofun⟩
  rw [queryPlan, exec_call_ok h₁, Run.cons_outcome]
  split
  · exact Or.inr ⟨_, rfl, nofun⟩
  split
  · exact Or.inr ⟨_, rfl, nofun⟩
  rcases h₂ : (E (.getBridgeAttribute _ 1 [⟨.bridgePortList, .objlist OidArray.arrayLen⟩])
      (E (.getSwitchAttribute oid 3 switchQueryAttr) s).2).1.ok with _ | _
  · rw [exec_call_repeated h₂ rfl]
    exact Or.inl ⟨_, _, rfl, nofun⟩
  rw [exec_call_ok h₂, Run.cons_outcome]
  rcases h₃ : (E (.setSwitchAttribute oid
      ⟨.switchPortStateChangeNotify, .ptr .saiOnPortStateChangeNotify⟩) _).1.ok with _ | _
  · rw [exec_call_repeated h₃ rfl]
    exact Or.inl ⟨_, _, rfl, nofun⟩
  · rw [exec_call_ok h₃]
    exact Or.inr ⟨_, rfl, nofun⟩

/-! ### Where the plan finishes -/

/-- The first query succeeded. -/
theorem run_saiSwitchQuery_of_ok
    (h : (E (.getSwitchAttribute w.state.swInfo.switchOid 3 switchQueryAttr) w.env).1.ok = true) :
    ∃ portList, EStateM.run (saiSwitchQuery E) w =
      EStateM.run (saiBridgeQuery E w.state.swInfo.switchOid
          (E (.getSwitchAttribute w.state.swInfo.switchOid 3 switchQueryAttr) w.env).1.attr)
        ((w.asked E (.getSwitchAttribute w.state.swInfo.switchOid 3 switchQueryAttr)).mapState
          fun a ↦ a.setPortList portList) ∧
      portList.entries =
        (E (.getSwitchAttribute w.state.swInfo.switchOid 3 switchQueryAttr) w.env).1.list.take 64 ++
          w.state.swInfo.portList.entries.drop ((E (.getSwitchAttribute w.state.swInfo.switchOid 3
            switchQueryAttr) w.env).1.list.take 64).length := by
  obtain ⟨portList, hstore, hentries⟩ := run_storeOids (fun a ↦ a.swInfo.portList) Agent.setPortList
    switchQueryAttr rfl _ (w.asked E _)
  exact ⟨portList, run_saiRetErr_of_ok h hstore, hentries⟩

/-- The bridge port query succeeded, too. -/
theorem run_saiBridgeQuery_of_ok {switchOid : Oid} {attr : List SaiAttribute}
    (hbridge : (attrValue attr 1).getOid ≠ saiNullObjectId)
    (hvlan : (attrValue attr 2).getOid ≠ saiNullObjectId)
    (h : (E (.getBridgeAttribute (attrValue attr 1).getOid 1
      [⟨.bridgePortList, .objlist OidArray.arrayLen⟩]) w.env).1.ok = true) :
    ∃ brPortList, EStateM.run (saiBridgeQuery E switchOid attr) w =
      EStateM.run (saiRetErr (plainCall E (.setSwitchAttribute switchOid
          ⟨.switchPortStateChangeNotify, .ptr .saiOnPortStateChangeNotify⟩)) () fun _ ↦
          return saiStatusSuccess)
        (((w.mapState fun a ↦ a.setDefaults (attrValue attr 0).getCount.toUInt64
          (attrValue attr 1).getOid (attrValue attr 2).getOid).asked E
            (.getBridgeAttribute (attrValue attr 1).getOid 1
              [⟨.bridgePortList, .objlist OidArray.arrayLen⟩])).mapState
          fun a ↦ a.setBrPortList brPortList) ∧
      brPortList.entries =
        (E (.getBridgeAttribute (attrValue attr 1).getOid 1
            [⟨.bridgePortList, .objlist OidArray.arrayLen⟩]) w.env).1.list.take 64 ++
          w.state.swInfo.brPortList.entries.drop
            ((E (.getBridgeAttribute (attrValue attr 1).getOid 1
              [⟨.bridgePortList, .objlist OidArray.arrayLen⟩]) w.env).1.list.take 64).length := by
  obtain ⟨brPortList, hstore, hentries⟩ := run_storeOids (fun a ↦ a.swInfo.brPortList)
    Agent.setBrPortList [⟨.bridgePortList, .objlist OidArray.arrayLen⟩] rfl _
    ((w.mapState fun a ↦ a.setDefaults (attrValue attr 0).getCount.toUInt64
      (attrValue attr 1).getOid (attrValue attr 2).getOid).asked E _)
  refine ⟨brPortList, ?_, hentries⟩
  rw [saiBridgeQuery, if_neg hbridge, if_neg hvlan, run_modState_bind]
  exact run_saiRetErr_of_ok h hstore

/-- **A query that finished** leaves the world the rest of the plan starts from, with the
default VLAN the rest is given. -/
theorem exec_queryPlan_of_finished {again : SaiCall → SaiResp → Option SaiCall}
    {next : Oid → SaiPlan} (h : ((queryPlan w.state.swInfo.switchOid next).exec SaiResp.ok again E
      w.env).outcome = .finished .complete) :
    ∃ t w', EStateM.run (saiSwitchQuery E) w = .ok saiStatusSuccess w' ∧ w'.trace = w.trace ++ t ∧
      ∀ again' next', (queryPlan w.state.swInfo.switchOid next').exec SaiResp.ok again' E w.env =
        ((next' w'.state.swInfo.defaultVlanOid).exec SaiResp.ok again' E w'.env).prepend t := by
  obtain ⟨h₁, hrest⟩ := exec_call_eq_finished_iff.1 h
  obtain ⟨portList, hrun₁, -⟩ := run_saiSwitchQuery_of_ok h₁
  -- A null default bridge or VLAN ends the plan before its other calls are made.
  split at hrest
  · cases hrest
  rename_i hbridge
  split at hrest
  · cases hrest
  rename_i hvlan
  obtain ⟨h₂, hrest⟩ := exec_call_eq_finished_iff.1 hrest
  obtain ⟨h₃, -⟩ := exec_call_eq_finished_iff.1 hrest
  obtain ⟨brPortList, hrun₂, -⟩ := run_saiBridgeQuery_of_ok (E := E)
    (w := OracleWorld.mapState (w.asked E _) fun a ↦ a.setPortList portList) hbridge hvlan h₂
  refine ⟨_, _, (hrun₁.trans hrun₂).trans (run_saiRetErr_plainCall_of_ok h₃),
    (List.append_assoc _ _ _).trans (List.append_assoc _ _ _), fun again' next' ↦ ?_⟩
  rw [queryPlan, exec_call_ok h₁, if_neg hbridge, if_neg hvlan, exec_call_ok h₂, exec_call_ok h₃]
  rfl

/-! ### How far a run came -/

/-- A switch was created where the run reads the switch's attributes; the other ways to end come
before that. -/
inductive SwitchInitRun (E : SaiBackend σ) (rt : Runtime) (w : World σ) : Prop where
  /-- An API query failed and was repeated; nothing was assigned. -/
  | query (api : SaiApi) (r : SaiResp) (w' : World σ)
      (outcome : ∀ next, ((switchPlan rt w.state next).exec SaiResp.ok retried E w.env).outcome =
        .repeated (.saiApiQuery api) r)
      (run : EStateM.run (saiSwitchInit E rt) w = .ok r.status w')
      (state : w'.state = w.state)
      (live : liveSwitches w'.trace = liveSwitches w.trace)
  /-- There was no memory for the hardware information. -/
  | memory (w' : World σ)
      (outcome : ∀ next, ((switchPlan rt w.state next).exec SaiResp.ok retried E w.env).outcome =
        .finished .stuck)
      (run : EStateM.run (saiSwitchInit E rt) w = .error .nullDeref w')
      (state : w'.state = w.state)
      (live : liveSwitches w'.trace = liveSwitches w.trace)
  /-- `create_switch` was refused; it may have stored through its out-parameter. -/
  | refused (c : SaiCall) (r : SaiResp) (w' : World σ)
      (outcome : ∀ next, ((switchPlan rt w.state next).exec SaiResp.ok retried E w.env).outcome =
        .refused c r)
      (status : r.status ≠ saiStatusSuccess)
      (run : EStateM.run (saiSwitchInit E rt) w = .ok r.status w')
      (state : w'.state = w.state.setSwitchOid (r.oid.getD w.state.swInfo.switchOid))
      (live : liveSwitches w'.trace = liveSwitches w.trace)
  /-- The switch was created, and the rest runs from there. -/
  | created (t : List (SaiCall × SaiResp)) (oid : Oid) (w' : World σ)
      (exec : ∀ again next, (switchPlan rt w.state next).exec SaiResp.ok again E w.env =
        ((queryPlan oid next).exec SaiResp.ok again E w'.env).prepend t)
      (run : EStateM.run (saiSwitchInit E rt) w = EStateM.run (saiSwitchQuery E) w')
      (trace : w'.trace = w.trace ++ t)
      (state : w'.state = w.state.setSwitchOid oid)
      (live : liveSwitches w'.trace = liveSwitches w.trace ++ [oid])

/-- A query of an API leaves the live switches alone. -/
theorem live_asked_query (w : World σ) (api : SaiApi) :
    liveSwitches (w.asked E (.saiApiQuery api)).trace = liveSwitches w.trace :=
  blind_liveSwitches w _ rfl

/-- From the creation on. -/
theorem switchInitRun_create {w w₂ : World σ} {t : List (SaiCall × SaiResp)}
    (hrun : EStateM.run (saiSwitchInit E rt) w = EStateM.run (createSwitch E rt) w₂)
    (hexec : ∀ again next, (switchPlan rt w.state next).exec SaiResp.ok again E w.env =
      ((createPlan rt w.state next).exec SaiResp.ok again E w₂.env).prepend t)
    (htrace : w₂.trace = w.trace ++ t) (hstate : w₂.state = w.state)
    (hlive : liveSwitches w₂.trace = liveSwitches w.trace) : SwitchInitRun E rt w := by
  cases hm : rt.hwInfoMalloc with
  | false =>
    refine .memory w₂ (fun next ↦ ?_) (hrun.trans ?_) hstate hlive
    · rw [hexec, createPlan, hm]
      rfl
    · rw [createSwitch, hm]
      rfl
  | true =>
    have hplan : ∀ next, createPlan rt w.state next = _ := fun _ ↦ if_pos hm
    rw [createSwitch, if_pos hm] at hrun
    simp only [hplan] at hexec
    have hlife : liveSwitches (w₂.asked E (.createSwitch 3 createSwitchAttr)).trace =
        liveStep (liveSwitches w.trace) (.createSwitch 3 createSwitchAttr,
          (E (.createSwitch 3 createSwitchAttr) w₂.env).1) := by
      rw [← hlive]
      exact liveSwitches_concat _ _
    -- From here on the answer to the creation is all that matters.
    generalize hr : (E (.createSwitch 3 createSwitchAttr) w₂.env).1 = r at hlife
    have hstep : EStateM.run (saiSwitchInit E rt) w =
        EStateM.run (if r.status ≠ saiStatusSuccess then pure r.status else saiSwitchQuery E)
          ((w₂.asked E (.createSwitch 3 createSwitchAttr)).mapState fun a ↦
            a.setSwitchOid (r.outOid.getD a.swInfo.switchOid)) := by
      rw [hrun, ← hr]
      rfl
    cases hok : r.ok with
    | false =>
      have hstatus := SaiResp.ok_eq_false_iff.1 hok
      -- A refused creation may have written the oid all the same.
      have hout : r.outOid = r.oid := if_neg (by simp [hok])
      rw [if_pos hstatus, hout] at hstep
      refine .refused (.createSwitch 3 createSwitchAttr) r _ (fun next ↦ ?_) hstatus hstep ?_ ?_
      · rw [hexec, exec_call_refused (by rw [hr]; exact hok) rfl, hr]
        rfl
      · rw [OracleWorld.mapState_state, OracleWorld.asked_state, hstate]
      · rw [OracleWorld.mapState_trace, hlife, liveStep, hok]
        rfl
    | true =>
      have hout : r.outOid = some (r.oid.getD saiNullObjectId) := if_pos hok
      rw [if_neg (not_ne_iff.2 (SaiResp.ok_iff.1 hok)), hout] at hstep
      refine .created (t ++ [(.createSwitch 3 createSwitchAttr, r)]) (r.oid.getD saiNullObjectId) _
        (fun again next ↦ ?_) hstep ?_ ?_ ?_
      · rw [hexec, exec_call_ok (by rw [hr]; exact hok), Run.prepend_cons, hr, hout]
        rfl
      · rw [OracleWorld.mapState_trace, OracleWorld.asked_trace, htrace, hr, List.append_assoc]
      · rw [OracleWorld.mapState_state, OracleWorld.asked_state, hstate]
        rfl
      · rw [OracleWorld.mapState_trace, hlife, liveStep, hok, hout]
        rfl

/-- **Every run of `sai_switch_init` ends in one of these ways.** -/
theorem switchInitRun (E : SaiBackend σ) (rt : Runtime) (w : World σ) : SwitchInitRun E rt w := by
  cases h₁ : (E (.saiApiQuery .switch) w.env).1.ok with
  | false =>
    refine .query .switch _ _ (fun next ↦ ?_) (run_saiRetErr_plainCall_of_refused h₁) rfl ?_
    · rw [switchPlan, exec_call_repeated h₁ rfl]
      rfl
    · rw [live_asked_query, live_asked_query]
  | true =>
    have hrun₁ : EStateM.run (saiSwitchInit E rt) w = _ := run_saiRetErr_plainCall_of_ok h₁
    cases h₂ : (E (.saiApiQuery .bridge) (E (.saiApiQuery .switch) w.env).2).1.ok with
    | false =>
      refine .query .bridge _ _ (fun next ↦ ?_)
        (hrun₁.trans (run_saiRetErr_plainCall_of_refused
          (w := w.asked E (.saiApiQuery .switch)) h₂))
        rfl ?_
      · rw [switchPlan, exec_call_ok h₁, Run.cons_outcome, exec_call_repeated h₂ rfl]
        rfl
      · rw [live_asked_query, live_asked_query, live_asked_query]
    | true =>
      have hrun₂ := hrun₁.trans
        (run_saiRetErr_plainCall_of_ok (w := w.asked E (.saiApiQuery .switch)) h₂)
      refine switchInitRun_create hrun₂ (fun again next ↦ ?_) (List.append_assoc _ _ _) rfl
        (by rw [live_asked_query, live_asked_query])
      rw [switchPlan, exec_call_ok h₁, exec_call_ok h₂]
      rfl

/-- **A `sai_switch_init` that finished** leaves the world the rest of the plan starts from. -/
theorem exec_switchPlan_of_finished {again : SaiCall → SaiResp → Option SaiCall}
    {next : Oid → SaiPlan}
      (h : ((switchPlan rt w.state next).exec SaiResp.ok again E w.env).outcome =
        .finished .complete) :
    ∃ t w', EStateM.run (saiSwitchInit E rt) w = .ok saiStatusSuccess w' ∧ w'.trace = w.trace ++ t ∧
      ∀ again' next', (switchPlan rt w.state next').exec SaiResp.ok again' E w.env =
        ((next' w'.state.swInfo.defaultVlanOid).exec SaiResp.ok again' E w'.env).prepend t := by
  have hretried : ((switchPlan rt w.state next).exec SaiResp.ok retried E w.env).outcome =
      .finished .complete := by
    rw [exec_eq_of_finished h retried, h]
  obtain ⟨_, _, _, hout, -⟩ | ⟨_, hout, -⟩ | ⟨_, _, _, hout, -⟩ |
    ⟨t₁, oid, w₁, hexec₁, hrun₁, htrace₁, hstate₁, -⟩ := switchInitRun E rt w
  · cases (hout next).symm.trans hretried
  · cases (hout next).symm.trans hretried
  · cases (hout next).symm.trans hretried
  have hoid : oid = w₁.state.swInfo.switchOid := by
    rw [hstate₁]
    rfl
  rw [hexec₁, hoid] at h
  obtain ⟨t₂, w₂, hrun₂, htrace₂, hexec₂⟩ := exec_queryPlan_of_finished h
  refine ⟨t₁ ++ t₂, w₂, hrun₁.trans hrun₂, ?_, fun again' next' ↦ ?_⟩
  · rw [htrace₂, htrace₁, List.append_assoc]
  · rw [hexec₁, hoid, hexec₂, Run.prepend_prepend]

end SaiAgent
