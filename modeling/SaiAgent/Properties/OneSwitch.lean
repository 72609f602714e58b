import SaiAgent.Model.Session
import SaiAgent.Properties.Dispatch
import SaiAgent.Properties.Registration

/-!
# At most one switch

Between two requests there should be no live switch, or one, and then `sw_info` holds its identifier
(`OneSwitch`). Every handler keeps this but that of SWITCH_INIT, which creates a switch whether
one is live or not: `oneSwitch_step_iff` says which requests keep it, `oneSwitch_iff` lifts this to
the states of every session.
-/

namespace SaiAgent

open Effects Effects.Proc Effects.Plan Effects.Run

variable {σ : Type} {E : SaiBackend σ} {rt : Runtime} {w : World σ} {request reply : SaiagentMsg}

/-- No switch is live, or the one `sw_info` names. -/
def OneSwitch (w : World σ) : Prop :=
  liveSwitches w.trace = [] ∨ liveSwitches w.trace = [w.state.swInfo.switchOid]

/-- What `OneSwitch` looks at. -/
def switchView (w : World σ) : List Oid × Oid := (liveSwitches w.trace, w.state.swInfo.switchOid)

theorem oneSwitch_congr {w w' : World σ} (h : switchView w' = switchView w) :
    OneSwitch w' ↔ OneSwitch w := by
  have hlive : liveSwitches w'.trace = liveSwitches w.trace := congrArg Prod.fst h
  have hoid : w'.state.swInfo.switchOid = w.state.swInfo.switchOid := congrArg Prod.snd h
  rw [OneSwitch, OneSwitch, hlive, hoid]

theorem blind_switchView : Blind E (switchView (σ := σ)) := by
  intro w c hc
  exact congrArg (·, w.state.swInfo.switchOid) (blind_liveSwitches w c hc)

/-! ### Removing the switch -/

/-- The switch `sw_info` names is the one there is, so removing it leaves none. -/
theorem live_asked_remove (h : OneSwitch w)
    (hok : (E (.removeSwitch w.state.swInfo.switchOid) w.env).1.ok = true) :
    liveSwitches (w.asked E (.removeSwitch w.state.swInfo.switchOid)).trace = [] := by
  have hlive : liveSwitches (w.asked E (.removeSwitch w.state.swInfo.switchOid)).trace = _ :=
    liveSwitches_concat _ _
  rw [hlive, liveStep, if_pos hok]
  obtain h | h := h
  · rw [h]
    rfl
  · rw [h, List.erase_cons_head]

theorem oneSwitch_asked_remove (h : OneSwitch w) :
    OneSwitch (w.asked E (.removeSwitch w.state.swInfo.switchOid)) := by
  by_cases hok : (E (.removeSwitch w.state.swInfo.switchOid) w.env).1.ok = true
  · exact Or.inl (live_asked_remove h hok)
  · have hlive : liveSwitches (w.asked E (.removeSwitch w.state.swInfo.switchOid)).trace = _ :=
      liveSwitches_concat _ _
    rw [OneSwitch, hlive, liveStep, if_neg hok]
    exact h

/-- What SWITCH_RESET does once it has found a switch. -/
theorem preserves_removeSwitch (o : Oid) (ctx : Option ℕ) :
    Preserves (fun w : World σ ↦ w.state.swInfo.switchOid = o ∧ OneSwitch w) (do
      let _ ← saiagentThreadStop ctx
      let r ← ask E (.saiApiQuery .switch)
      if r.status ≠ saiStatusSuccess then
        fault .wildPointer
      else do
        let _ ← ask E (.removeSwitch o)
        let _ ← saiagentThreadDestroy rt ctx
        let _ ← saiagentIpcLoopStop
        lift (saiagentIpcPutReplyAck reply rcStatusOk) : AgentM σ SaiagentMsg) := by
  have hkeeps : ∀ {α : Type} {p : AgentM σ α}, Keeps switchView p →
      Preserves (fun w : World σ ↦ w.state.swInfo.switchOid = o ∧ OneSwitch w) p := fun h ↦
    h.preserves fun v ↦ v.2 = o ∧ (v.1 = [] ∨ v.1 = [v.2])
  refine Preserves.bind (hkeeps (keeps_saiagentThreadStop (fun _ _ ↦ rfl) ctx)) fun _ ↦
    Preserves.bind (hkeeps (blind_switchView.ask rfl)) fun r ↦
      Preserves.ite (Preserves.fault _) (Preserves.bind ?_ fun _ ↦ hkeeps ?_)
  · rintro w ⟨ho, h⟩
    rw [run_ask, worldOf_ok]
    exact ⟨ho, ho ▸ oneSwitch_asked_remove h⟩
  · exact Keeps.bind (keeps_saiagentThreadDestroy (fun _ _ ↦ rfl) ctx) fun _ ↦
      Keeps.bind (Keeps.bind (Keeps.modState fun _ ↦ rfl) fun _ ↦ Keeps.pure _) fun _ ↦ Keeps.lift _

theorem preserves_switchReset (request : SaiagentMsg) :
    Preserves OneSwitch (saiagentIpcProcessSwitchReset E rt request reply) := by
  intro w hw
  rw [saiagentIpcProcessSwitchReset, run_getState_bind]
  split
  · exact (preserves_removeSwitch _ _ w ⟨rfl, hw⟩).2
  · exact (Keeps.lift (f := switchView) _).preserves (fun v ↦ v.1 = [] ∨ v.1 = [v.2]) w hw

/-- **Every handler but that of SWITCH_INIT keeps at most one switch.** -/
theorem preserves_oneSwitch {handler : Handler} (hne : handler ≠ .switchInit) :
    Preserves OneSwitch (handler.run E rt request reply) := by
  by_cases hreset : handler = .switchReset
  · subst hreset
    exact preserves_switchReset request
  · have hkeeps : Keeps switchView (handler.run E rt request reply) :=
      keeps_handler blind_switchView.quiet (fun h ↦ absurd h hreset)
        (fun _ ↦ ⟨blind_switchView, fun _ _ ↦ rfl⟩) (fun _ _ _ ↦ rfl)
        (fun _ _ _ ↦ rfl) (fun _ _ ↦ rfl) hne request reply
    exact hkeeps.preserves fun v ↦ v.1 = [] ∨ v.1 = [v.2]

/-! ### Creating a switch -/

/-- The way `sai_switch_init` went created no switch and left `sw_info` naming the one it named. -/
def InitLeavesSwitch (w : World σ) : Outcome SaiCall SaiResp Verdict → Prop
  | .repeated (.saiApiQuery _) _ => True
  | .finished .stuck => True
  | .refused _ r => r.oid.getD w.state.swInfo.switchOid = w.state.swInfo.switchOid
  | _ => False

/-- Once a switch was created, it is there. -/
theorem not_initLeavesSwitch_query (oid : Oid) (s : σ) :
    ¬InitLeavesSwitch w
      ((queryPlan oid fun _ ↦ .done .complete).exec SaiResp.ok retried E s).outcome := by
  obtain ⟨c, r, ho, hc⟩ | ⟨v, ho, hv⟩ := queryPlan_outcome E oid s
  · rw [ho]
    cases c <;> first | exact id | exact absurd rfl (hc _)
  · rw [ho]
    cases v <;> first | exact id | exact absurd rfl hv

/-- After `sai_switch_init` the handler neither creates nor removes a switch. -/
theorem switchView_processSwitchInit :
    switchView (worldOf (EStateM.run (saiagentIpcProcessSwitchInit E rt request reply) w)) =
      switchView (worldOf (EStateM.run (saiSwitchInit E rt) w)) :=
  worldOf_processSwitchInit blind_switchView.quiet (fun _ _ ↦ rfl) (fun _ _ _ ↦ rfl) request reply w

/-- Where no switch was created, the out-parameter of `create_switch` decides. -/
theorem oneSwitch_of_early {w' : World σ} {o : Oid} (h : OneSwitch w)
    (hstate : w'.state = w.state.setSwitchOid o)
    (hlive : liveSwitches w'.trace = liveSwitches w.trace) :
    OneSwitch w' ↔ liveSwitches w.trace = [] ∨ o = w.state.swInfo.switchOid := by
  have hoid : w'.state.swInfo.switchOid = o := by
    rw [hstate]
    rfl
  rw [OneSwitch, hlive, hoid]
  obtain h | h := h
  · simp [h]
  · rw [h, List.singleton_inj]
    simp [eq_comm]

/-- **SWITCH_INIT keeps at most one switch** exactly when none is live or it creates none. -/
theorem oneSwitch_switchInit_iff (request : SaiagentMsg) (h : OneSwitch w) :
    OneSwitch (worldOf (EStateM.run (saiagentIpcProcessSwitchInit E rt request reply) w)) ↔
      liveSwitches w.trace = [] ∨ InitLeavesSwitch w (switchOutcome E rt w) := by
  rw [oneSwitch_congr switchView_processSwitchInit, switchOutcome]
  obtain ⟨api, r, w', hout, hrun, hstate, hlive⟩ | ⟨w', hout, hrun, hstate, hlive⟩ |
    ⟨c, r, w', hout, hstatus, hrun, hstate, hlive⟩ |
    ⟨t, oid, w₁, hexec, hrun, -, hstate, hlive⟩ := switchInitRun E rt w
  · rw [hrun, hout]
    exact (oneSwitch_of_early h hstate hlive).trans (or_congr_right (iff_of_true rfl trivial))
  · rw [hrun, hout]
    exact (oneSwitch_of_early h hstate hlive).trans (or_congr_right (iff_of_true rfl trivial))
  · rw [hrun, hout]
    exact oneSwitch_of_early h hstate hlive
  · -- The switch was created: it is the one recorded, and any other is left alive.
    have hkeeps : Keeps switchView (saiSwitchQuery E) :=
      keeps_saiSwitchQuery blind_switchView.quiet (fun _ _ ↦ rfl) (fun _ _ ↦ rfl) fun _ _ _ _ ↦ rfl
    rw [hrun, oneSwitch_congr (hkeeps w₁), hexec, Run.prepend_outcome,
      or_iff_left (not_initLeavesSwitch_query oid w₁.env)]
    have hoid : w₁.state.swInfo.switchOid = oid := by
      rw [hstate]
      rfl
    rw [OneSwitch, hlive, hoid]
    obtain h | h := h
    · rw [h]
      exact iff_of_true (Or.inr rfl) rfl
    · rw [h]
      exact iff_of_false (by simp) (by simp)

/-! ### Sessions -/

/-- Where the request is a SWITCH_INIT, no switch is live, or it creates none and leaves `sw_info`
naming the one there is. -/
def NoSecondSwitch (E : SaiBackend σ) (s : Session σ) (i : SessionInput) : Prop :=
  selected s.world.state.ipcCbList i.buf.bytes i.size = some .switchInit →
    liveSwitches s.world.trace = [] ∨
      InitLeavesSwitch s.world (switchOutcome E i.rt s.world)

/-- The world a request leaves. -/
theorem Session.step_world (s : Session σ) (i : SessionInput) :
    (s.step E i).world = worldOf (Session.handle E s.world i) := by
  unfold Session.step
  rcases Session.handle E s.world i with ⟨r, w⟩ | ⟨e, w⟩ <;> rfl

/-- A request is handled by the handler it selects. -/
theorem Session.handle_of_selected {s : Session σ} {i : SessionInput} {handler : Handler}
    (h : selected s.world.state.ipcCbList i.buf.bytes i.size = some handler) :
    Session.handle E s.world i = EStateM.run (handler.run E i.rt (handedRequest i.buf.bytes i.size)
      (freshReply i.out.bytes)) s.world := by
  have hbuf : 4 ≤ i.buf.bytes.length := by
    rw [i.buf.length_eq]
    decide
  rw [Session.handle, run_processReq hbuf, h]

/-- A request that selects no handler changes nothing. -/
theorem Session.handle_of_not_selected {s : Session σ} {i : SessionInput}
    (h : selected s.world.state.ipcCbList i.buf.bytes i.size = none) :
    ∃ reply, Session.handle E s.world i = .ok reply s.world := by
  have hbuf : 4 ≤ i.buf.bytes.length := by
    rw [i.buf.length_eq]
    decide
  obtain ⟨reply, hack, -⟩ := run_lift_putReplyAck (isReply_freshReply i.out.length_eq)
    (if 4 ≤ i.size then rcStatusNotSupp else rcStatusErr) s.world
  exact ⟨reply, by rw [Session.handle, run_processReq hbuf, h]; exact hack⟩

theorem Session.step_of_ok {s : Session σ} {i : SessionInput} {reply : SaiagentMsg} {w : World σ}
    (h : Session.handle E s.world i = .ok reply w) : s.step E i = ⟨w, false⟩ := by
  rw [Session.step, h]

theorem Session.step_of_error {s : Session σ} {i : SessionInput} {e : Fault} {w : World σ}
    (h : Session.handle E s.world i = .error e w) : s.step E i = ⟨w, true⟩ := by
  rw [Session.step, h]

/-- **The step lemma**: from at most one switch, a request leads to at most one switch exactly
when it makes no second one. -/
theorem oneSwitch_step_iff (s : Session σ) (i : SessionInput) (h : OneSwitch s.world) :
    OneSwitch (s.step E i).world ↔ NoSecondSwitch E s i := by
  have hbuf : 4 ≤ i.buf.bytes.length := by
    rw [i.buf.length_eq]
    decide
  rw [Session.step_world, Session.handle, run_processReq hbuf, NoSecondSwitch]
  rcases hsel : selected s.world.state.ipcCbList i.buf.bytes i.size with _ | handler
  · refine iff_of_true ?_ nofun
    exact (Keeps.lift (f := switchView) _).preserves (fun v ↦ v.1 = [] ∨ v.1 = [v.2]) s.world h
  by_cases hinit : handler = .switchInit
  · subst hinit
    rw [eq_self_iff_true, true_implies]
    exact oneSwitch_switchInit_iff (handedRequest i.buf.bytes i.size) h
  · refine iff_of_true (preserves_oneSwitch hinit s.world h) fun e ↦
      absurd (Option.some.inj e) hinit

variable (E)

/-- **At most one switch is ever live**, in every state of a session, exactly when no request of the
session makes a second one. -/
theorem oneSwitch_iff (env : σ) (is : List SessionInput) :
    (∀ n, OneSwitch (Session.exec E (Session.start env) (is.take n)).world) ↔
      Along Session.Live (Session.step E) (NoSecondSwitch E) (Session.start env) is :=
  forall_take_iff (J := fun s : Session σ ↦ OneSwitch s.world)
    (fun s i _ hs ↦ oneSwitch_step_iff s i hs) is (Session.start env) (Or.inl rfl)

/-- A SWITCH_INIT as it arrives, over zeroed buffers; the unassigned statuses hold an error. -/
def switchInitInput : SessionInput where
  buf := ⟨bufferOf (Bytes.le32 (UInt32.ofNat PresteraCmdType.switchInit)), length_bufferOf (by
    rw [Bytes.length_le32]
    decide)⟩
  size := 4
  out := ⟨zeroBuffer, length_zeroBuffer⟩
  rt := Runtime.calm 1

/-- A SAI that creates a switch for the first two requests that ask for one, and answers no
query about the first. -/
def twoSwitches : List SaiResp :=
  [SaiResp.bare saiStatusSuccess, SaiResp.bare saiStatusSuccess, ⟨saiStatusSuccess, some 7, [], []⟩,
    SaiResp.bare saiStatusFailure, SaiResp.bare saiStatusFailure,
    SaiResp.bare saiStatusSuccess, SaiResp.bare saiStatusSuccess,
      ⟨saiStatusSuccess, some 8, [], []⟩]

/-- SWITCH_INIT sent again after it was refused makes a second switch. -/
theorem retry_creates_second_switch :
    ¬∀ n, OneSwitch (Session.exec scriptedSai (Session.start twoSwitches)
      ([switchInitInput, switchInitInput].take n)).world := by
  intro h
  have htwo := h 2
  revert htwo
  show ¬(_ ∨ _)
  decide +kernel

end SaiAgent
