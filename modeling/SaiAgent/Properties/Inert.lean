import SaiAgent.Properties.LoopRefinement
import SaiAgent.Properties.PortRuns

/-!
# Requests that configure nothing

Six requests may change the agent or SAI, and one of them does so for one attribute only
(`SessionInput.Configures`). All others are answered and leave the agent and SAI as they were, so a
run amounts to its configuring requests: without the others it ends in the same state, and the
configuring requests get the same answers (`inert_requests`). Only the buffers of the loop still
hold bytes of the others.
-/

namespace SaiAgent

open Effects Effects.Proc Effects.Run

variable {σ : Type} {E : SaiBackend σ} {rt : Runtime} {request reply : SaiagentMsg}

/-! ### Which requests configure -/

/-- What is behind the command word may change something. -/
def configuringCmds (buf : List UInt8) : List ℕ :=
  [PresteraCmdType.switchInit, PresteraCmdType.switchReset, PresteraCmdType.keepaliveInit,
    PresteraCmdType.vlanPortSet, PresteraCmdType.vlanPvidSet] ++
    if (PresteraMsgPortAttrReq.ofBuff buf).attr = PresteraCmdPortAttr.phyMode then
      [PresteraCmdType.portAttrSet]
    else
      []

/-- The request may change something. -/
def SessionInput.Configures (i : SessionInput) : Prop :=
  4 ≤ i.size ∧ cmdOf i.buf.bytes ∈ configuringCmds i.buf.bytes

instance : DecidablePred SessionInput.Configures := fun _ ↦ inferInstanceAs (Decidable (_ ∧ _))

/-! ### The others -/

theorem run_lift_of_ok {x : Except Fault SaiagentMsg} {m : SaiagentMsg} (h : x = .ok m)
    (w : World σ) : EStateM.run (lift x : AgentM σ SaiagentMsg) w = .ok m w := by
  rw [h, run_lift_ok]

/-- A reply that is put together from nothing but the request. -/
theorem exists_putReplyAck (hr : IsReply reply) (status : Rc) (w : World σ) :
    ∃ m, EStateM.run (lift (saiagentIpcPutReplyAck reply status) : AgentM σ SaiagentMsg) w =
      .ok m w := by
  obtain ⟨m, h, -⟩ := saiagentIpcPutReplyAck_eq hr status
  exact ⟨m, run_lift_of_ok h w⟩

theorem exists_replaceWith (hr : IsReply reply) {bytes : List UInt8} {n : ℕ}
    (hn : bytes.length = 4 * n) (hle : 4 * n ≤ saiagentMsgMaxSize) (w : World σ) : ∃ m,
    EStateM.run (lift (replaceWith reply bytes) : AgentM σ SaiagentMsg) w = .ok m w := by
  obtain ⟨m, h, -⟩ := replaceWith_eq hr hn hle
  exact ⟨m, run_lift_of_ok h w⟩

/-- **A handler whose request configures nothing** answers it and leaves the world as it is. -/
theorem exists_reply_of_not_mem (hr : IsReply reply) {handler : Handler}
    (h : handler.cmdType ∉ configuringCmds (request.buff.getD [])) (w : World σ) :
    ∃ m, EStateM.run (handler.run E rt request reply) w = .ok m w := by
  cases handler with
  | switchInit | switchReset | keepaliveInit | vlanPortSet | vlanPvidSet =>
    exact absurd (List.mem_append_left _ (by decide)) h
  | portAttrSet =>
    by_cases hphy : (PresteraMsgPortAttrReq.ofBuff (request.buff.getD [])).attr =
        PresteraCmdPortAttr.phyMode
    · refine absurd (List.mem_append_right _ ?_) h
      rw [if_pos hphy]
      exact List.mem_singleton_self _
    · rw [Handler.run, saiagentIpcProcessPortAttrSet, if_neg hphy]
      exact exists_putReplyAck hr _ w
  | portInfoGet =>
    exact exists_replaceWith hr (n := 5) (PresteraMsgPortInfoResp.length_bytes _) (by decide) w
  | portAttrGet =>
    exact exists_replaceWith hr (n := 34) (PresteraMsgPortAttrResp.length_bytes _) (by decide) w
  | routerVrCreate =>
    obtain ⟨reply', h₁, h₂, -, -⟩ := replaceWith_eq hr (n := 3)
      (PresteraMsgVrResp.length_bytes ⟨PresteraMsgRet.ackOk, 1, 0⟩) (by decide)
    obtain ⟨m, hm⟩ := exists_putReplyAck h₂ rcStatusOk w
    refine ⟨m, ?_⟩
    rw [Handler.run, saiagentIpcProcessRouterVrCreate]
    simp only [h₁]
    exact hm
  | switchAttrSet | vlanCreate | vlanDelete | stpPortSet | fdbFlushPort | routerMpHashSet
  | routerVrDel | routerLpmAdd | routerLpmDel => exact exists_putReplyAck hr rcStatusOk w

/-- **A request that configures nothing** is answered, and nothing else. -/
theorem handle_of_not_configures {s : Session σ} (hs : HasReachableTable s.world) {i : SessionInput}
    (h : ¬i.Configures) : ∃ m, Session.handle E s.world i = .ok m s.world := by
  rcases hsel : selected s.world.state.ipcCbList i.buf.bytes i.size with _ | handler
  · exact Session.handle_of_not_selected hsel
  rw [Session.handle_of_selected hsel]
  have hcmd := hs.cmdType_eq_of_selected hsel
  have hsize : 4 ≤ i.size := by
    by_contra hlt
    rw [selected, if_neg hlt] at hsel
    cases hsel
  refine exists_reply_of_not_mem (isReply_freshReply i.out.length_eq) (fun hmem ↦ h ⟨hsize, ?_⟩) _
  rw [← hcmd]
  exact hmem

/-! ### Runs -/

/-- A request that configures nothing leaves the session as it is. -/
theorem step_of_not_configures {s : Session σ} (hl : s.Live) (hs : HasReachableTable s.world)
    {i : SessionInput} (h : ¬i.Configures) : s.step E i = s := by
  obtain ⟨m, hm⟩ := handle_of_not_configures (E := E) hs h
  rw [Session.step_of_ok hm]
  exact congrArg (Session.mk s.world) hl.2.symm

/-- **Only configuring requests count.** Whatever SAI does, a run with all the other requests left
out ends in the same state, and the configuring requests get the same answers. They find in the
buffers what they found there before: the bytes of the others are not taken out of them. -/
theorem inert_requests (E : SaiBackend σ) (env : σ) (ks : List Served) :
    exec Session.Live (serve E) (Session.start env) (ks.filter fun k ↦ k.input.Configures) =
        exec Session.Live (serve E) (Session.start env) ks ∧
      outputs Session.Live (serve E) (answers E) (Session.start env)
          (ks.filter fun k ↦ k.input.Configures) =
        outputs Session.Live (serve E)
          (fun s k ↦ if k.input.Configures then answers E s k else []) (Session.start env) ks := by
  have hhides : Hides Session.Live (serve E) (fun k : Served ↦ k.input.Configures) (fun _ ↦ True)
      fun s t ↦ s = t ∧ HasReachableTable s.world := by
    refine ⟨fun s t h ↦ by rw [h.1], ?_, ?_⟩
    · rintro s t k hl ⟨rfl, hs⟩ - hk
      have hsame : serve E s k = s := step_of_not_configures hl hs hk
      rw [hsame]
      exact ⟨rfl, hs⟩
    · rintro s t k hl ⟨rfl, hs⟩ - -
      exact ⟨rfl, reachableTable_step hs k.input⟩
  have hstart := reachableTable_start env
  refine ⟨(hhides.exec_filter ⟨rfl, hstart⟩ fun _ _ ↦ trivial).1.symm, ?_⟩
  refine (hhides.outputs_filter ?_ ?_ ⟨rfl, hstart⟩ fun _ _ ↦ trivial).symm
  · exact fun s t k _ _ _ hk ↦ if_neg hk
  · rintro s t k - ⟨rfl, -⟩ - hk
    exact if_pos hk

end SaiAgent
