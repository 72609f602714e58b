import SaiAgent.Properties.Inert
import SaiAgent.Properties.Keepalive
import SaiAgent.Properties.OneReply
import SaiAgent.Properties.PortNumbers

/-!
# Runs in which every request is answered

Over a SAI that has its method tables and keeps to the room it is given, a request brings the agent
down in four ways only: a SWITCH_INIT that gets no memory, a SWITCH_RESET of an initialised switch
before a keepalive thread was created or with a thread that cannot be destroyed, a port number past
the end of the arrays, and a KEEPALIVE_INIT that starts a thread whose sleep overflows an `int`. A
run free of them goes on, and answers every request with a well-formed reply; any other run does not
(`answered_iff`).
-/

namespace SaiAgent

open Effects Effects.Proc Effects.Run

variable {σ : Type} {E : SaiBackend σ} {rt : Runtime} {request reply : SaiagentMsg} {w : World σ}

/-- `ctx->timeout * 1000` in `thread_loop` is an `int`. -/
def ThreadSlot.Sleeps (slot : ThreadSlot) : Prop :=
  -2147483648 ≤ slot.ctx.timeout.toInt * 1000 ∧ slot.ctx.timeout.toInt * 1000 ≤ 2147483647

instance (slot : ThreadSlot) : Decidable slot.Sleeps := inferInstanceAs (Decidable (_ ∧ _))

/-- The request lets its handler return, in the state it finds. -/
def Handler.Harmless (a : Agent) (rt : Runtime) (buf : List UInt8) : Handler → Prop
  | .switchInit => rt.hwInfoMalloc = true
  | .switchReset => a.swInfo.switchOid ≠ saiNullObjectId → a.threads ≠ [] ∧ rt.Destroys
  | .portAttrSet => (PresteraMsgPortAttrReq.ofBuff buf).attr = PresteraCmdPortAttr.phyMode →
      (PresteraMsgPortAttrReq.ofBuff buf).port < 64
  | .vlanPortSet => (PresteraMsgVlanReq.ofBuff buf).port < 64
  | .vlanPvidSet => (PresteraMsgVlanReq.ofBuff buf).port < 64
  | _ => True

instance (a : Agent) (rt : Runtime) (buf : List UInt8) :
    DecidablePred (Handler.Harmless a rt buf)
  | .switchInit => inferInstanceAs (Decidable (_ = _))
  | .switchReset => inferInstanceAs (Decidable (_ → _ ∧ _))
  | .portAttrSet => inferInstanceAs (Decidable (_ → _))
  | .vlanPortSet | .vlanPvidSet => inferInstanceAs (Decidable (_ < _))
  | .keepaliveInit | .switchAttrSet | .portInfoGet | .portAttrGet | .vlanCreate | .vlanDelete
  | .stpPortSet | .fdbFlushPort | .routerMpHashSet | .routerVrCreate | .routerVrDel
  | .routerLpmAdd | .routerLpmDel => isTrue trivial

/-- If there is a handler for the request, it returns, and a thread it starts can sleep. -/
def Harmless (s : Session σ) (i : SessionInput) : Prop :=
  (∀ handler ∈ selected s.world.state.ipcCbList i.buf.bytes i.size,
    handler.Harmless s.world.state i.rt i.buf.bytes) ∧
  (selected s.world.state.ipcCbList i.buf.bytes i.size = some .keepaliveInit →
    i.rt.createsThread = true → (keepaliveSlot (handedRequest i.buf.bytes i.size)).Sleeps)

instance (s : Session σ) (i : SessionInput) : Decidable (Harmless s i) :=
  inferInstanceAs (Decidable ((∀ _ ∈ _, _) ∧ (_ → _ → _)))

/-- Every keepalive thread can sleep. -/
def Session.ThreadsSleep (s : Session σ) : Prop := ∀ slot ∈ s.world.state.threads, slot.Sleeps

/-- The request gets a well-formed reply, and the keepalive threads can sleep afterwards. -/
def Answered (E : SaiBackend σ) (s : Session σ) (i : SessionInput) : Prop :=
  RepliesWell (Session.handle E s.world i) ∧ (s.step E i).ThreadsSleep

/-! ### Handlers -/

/-- SWITCH_RESET returns exactly when it is harmless. -/
theorem switchReset_returns_iff_harmless (hsai : SaneSai E) (hr : IsReply reply)
    (hheap : KeepaliveHeap w.state) :
    (∃ reply' w', EStateM.run (Handler.switchReset.run E rt request reply) w = .ok reply' w') ↔
      Handler.switchReset.Harmless w.state rt (request.buff.getD []) := by
  by_cases hne : w.state.threads ≠ []
  · refine (@switchReset_returns_iff _ E rt request _ hsai hr w
      (hheap.present_iff.2 hne)).trans ?_
    exact imp_congr_right fun _ ↦ (and_iff_right hne).symm
  by_cases hoid : w.state.swInfo.switchOid ≠ saiNullObjectId
  · refine iff_of_false ?_ fun h ↦ hne (h hoid).1
    rintro ⟨reply', w', hrun⟩
    rcases hderef : derefThread w.state.threads w.state.swInfo.keepaliveCtx with e | p
    · cases hrun.symm.trans (@run_switchReset_error _ E rt w request reply _ hoid hderef)
    · exact hne (hheap.present_iff.1 ⟨p, hderef⟩)
  · obtain ⟨reply', hrun⟩ := @run_switchReset_of_null _ E rt w request _ hr hoid
    exact iff_of_true ⟨reply', w, hrun⟩ fun h ↦ absurd h hoid

/-- A request about a port returns exactly when its number is in the arrays. -/
theorem portRequest_returns_iff (hsai : SaneSai E) (hr : IsReply reply) {handler : Handler}
    {port : UInt32} (hreq : PortRequest (request.buff.getD []) handler)
    (hport : port ∈ portOf handler (request.buff.getD [])) (hne : handler ≠ .portInfoGet) :
    (∃ reply' w', EStateM.run (handler.run E rt request reply) w = .ok reply' w') ↔ port < 64 := by
  constructor
  · rintro ⟨reply', w', hrun⟩
    by_contra hle
    obtain ⟨w'', herror⟩ := @run_handler_of_le _ E rt w _ reply _ _ hsai.query_ok hreq hport hne hle
    cases hrun.symm.trans herror
  · intro hlt
    obtain ⟨reply', w', hrun, -⟩ := @total_portRequest _ E rt _ _ _ _ hsai.toKeepsRoom hr hreq hport
      (fun _ ↦ hlt) w trivial
    exact ⟨reply', w', hrun⟩

/-- **A handler returns exactly when its request is harmless.** -/
theorem handler_returns_iff (hsai : SaneSai E) (hr : IsReply reply) (hheap : KeepaliveHeap w.state)
    (handler : Handler) :
    (∃ reply' w', EStateM.run (handler.run E rt request reply) w = .ok reply' w') ↔
      handler.Harmless w.state rt (request.buff.getD []) := by
  have hinert : handler.cmdType ∉ configuringCmds (request.buff.getD []) →
      ∃ reply' w', EStateM.run (handler.run E rt request reply) w = .ok reply' w' := fun h ↦
    (exists_reply_of_not_mem hr h w).imp fun _ hrun ↦ ⟨w, hrun⟩
  cases handler with
  | switchInit => exact @switchInit_returns_iff _ E rt request _ hsai hr w
  | switchReset => exact switchReset_returns_iff_harmless hsai hr hheap
  | keepaliveInit =>
    obtain ⟨reply', hrun⟩ := @run_keepaliveInit _ rt request _ hr w
    exact iff_of_true ⟨reply', _, hrun⟩ trivial
  | vlanPortSet => exact portRequest_returns_iff hsai hr .vlanPortSet rfl (by decide)
  | vlanPvidSet => exact portRequest_returns_iff hsai hr .vlanPvidSet rfl (by decide)
  | portAttrSet =>
    by_cases hattr : (PresteraMsgPortAttrReq.ofBuff (request.buff.getD [])).attr =
        PresteraCmdPortAttr.phyMode
    · refine (portRequest_returns_iff hsai hr (.portAttrSet hattr) rfl (by decide)).trans ?_
      exact ⟨fun h _ ↦ h, fun h ↦ h hattr⟩
    · refine iff_of_true (hinert ?_) fun h ↦ absurd h hattr
      rw [configuringCmds, if_neg hattr]
      decide
  | switchAttrSet | portInfoGet | portAttrGet | vlanCreate | vlanDelete | stpPortSet
  | fdbFlushPort | routerMpHashSet | routerVrCreate | routerVrDel | routerLpmAdd
  | routerLpmDel =>
    refine iff_of_true (hinert ?_) trivial
    rw [configuringCmds]
    split <;> decide

/-! ### Requests -/

/-- What is returned is a well-formed reply. -/
theorem repliesWell_iff_returns (s : Session σ) (i : SessionInput) :
    RepliesWell (Session.handle E s.world i) ↔
      ∃ reply w', Session.handle E s.world i = .ok reply w' := by
  rcases hsel : selected s.world.state.ipcCbList i.buf.bytes i.size with _ | handler
  · have hbuf : 4 ≤ i.buf.bytes.length := by
      rw [i.buf.length_eq]
      decide
    obtain ⟨reply, hrun, -, hwell⟩ := @run_processReq_of_not_selected _ E i.rt _ _ _ _ hbuf
      i.out.length_eq hsel
    exact iff_of_true ⟨reply, _, hrun, hwell⟩ ⟨reply, _, hrun⟩
  · rw [Session.handle_of_selected hsel]
    exact repliesWell_iff_exists (isReply_freshReply i.out.length_eq) s.world

/-- A request gets a well-formed reply exactly when its handler, if it has one, returns. -/
theorem repliesWell_step_iff (hsai : SaneSai E) {s : Session σ}
    (hheap : KeepaliveHeap s.world.state) (i : SessionInput) :
    RepliesWell (Session.handle E s.world i) ↔
      ∀ handler ∈ selected s.world.state.ipcCbList i.buf.bytes i.size,
        handler.Harmless s.world.state i.rt i.buf.bytes := by
  rw [repliesWell_iff_returns]
  rcases hsel : selected s.world.state.ipcCbList i.buf.bytes i.size with _ | handler
  · obtain ⟨reply, hrun⟩ := Session.handle_of_not_selected (E := E) hsel
    exact iff_of_true ⟨reply, _, hrun⟩ nofun
  · rw [Session.handle_of_selected hsel,
      handler_returns_iff hsai (isReply_freshReply i.out.length_eq) hheap]
    exact ⟨fun h _ hmem ↦ Option.some.inj hmem ▸ h, fun h ↦ h handler rfl⟩

/-- A request that does not return is the session's last. -/
theorem repliesWell_iff_not_crashed (s : Session σ) (i : SessionInput) :
    RepliesWell (Session.handle E s.world i) ↔ (s.step E i).crashed = false := by
  rw [repliesWell_iff_returns, Session.step]
  cases Session.handle E s.world i with
  | ok reply w' => exact iff_of_true ⟨reply, w', rfl⟩ rfl
  | error e w' => exact iff_of_false (fun ⟨_, _, h⟩ ↦ by cases h) fun h ↦ by cases h

/-- A SWITCH_RESET leaves every thread its time to sleep. -/
theorem ResetRun.threadsSleep {s : Session σ} {i : SessionInput} (h : ResetRun E s i)
    (hs : s.ThreadsSleep) : (s.step E i).ThreadsSleep := by
  have hset : ∀ {k : ℕ} {slot slot' : ThreadSlot} {w' : World σ},
      derefThread s.world.state.threads s.world.state.swInfo.keepaliveCtx = .ok (k, slot) →
      slot'.ctx.timeout = slot.ctx.timeout →
      w'.state.threads = s.world.state.threads.set k slot' →
      ∀ t ∈ w'.state.threads, t.Sleeps := fun {k slot slot' w'} hderef htime hthreads t ht ↦ by
    obtain ⟨-, hslot, -⟩ := derefThread_eq_ok_iff.1 hderef
    rw [hthreads] at ht
    obtain hold | rfl := List.mem_or_eq_of_mem_set ht
    · exact hs t hold
    · rw [ThreadSlot.Sleeps, htime]
      exact hs slot (List.mem_of_getElem? hslot)
  rcases h with ⟨e, -, handle⟩ | ⟨k, slot, e, w', hderef, -, handle, threads, -⟩ |
    ⟨k, slot, reply, w', hderef, -, -, handle, threads, -, -⟩
  · rw [Session.step_of_error handle]
    exact hs
  · rw [Session.step_of_error handle]
    exact hset hderef (show slot.stopped.ctx.timeout = _ from rfl) threads
  · rw [Session.step_of_ok handle]
    refine hset hderef ?_ threads
    rw [Runtime.destroyed]
    split <;> rfl

/-- Only a KEEPALIVE_INIT starts a thread, which sleeps as long as the request says. -/
theorem threadsSleep_step_iff {s : Session σ} (hs : s.ThreadsSleep) (i : SessionInput) :
    (s.step E i).ThreadsSleep ↔
      (selected s.world.state.ipcCbList i.buf.bytes i.size = some .keepaliveInit →
        i.rt.createsThread = true →
          (keepaliveSlot (handedRequest i.buf.bytes i.size)).Sleeps) := by
  rcases hsel : selected s.world.state.ipcCbList i.buf.bytes i.size with _ | handler
  · obtain ⟨reply, hrun⟩ := Session.handle_of_not_selected (E := E) hsel
    rw [Session.step_of_ok hrun]
    exact iff_of_true hs nofun
  by_cases hinit : handler = .keepaliveInit
  · subst hinit
    obtain ⟨reply, hrun⟩ := @run_keepaliveInit _ i.rt (handedRequest i.buf.bytes i.size) _
      (isReply_freshReply i.out.length_eq) s.world
    rw [Session.step_of_ok ((Session.handle_of_selected (E := E) hsel).trans hrun)]
    by_cases hcreate : i.rt.createsThread = true
    · rw [if_pos hcreate]
      exact ⟨fun h _ _ ↦ h _ (List.mem_append_right _ List.mem_cons_self), fun h ↦
        List.forall_mem_append.2 ⟨hs, List.forall_mem_singleton.2 (h rfl hcreate)⟩⟩
    · rw [if_neg hcreate]
      exact iff_of_true hs fun _ h ↦ absurd h hcreate
  refine iff_of_true ?_ fun h ↦ absurd (Option.some.inj h) hinit
  by_cases hreset : handler = .switchReset
  · subst hreset
    by_cases hoid : s.world.state.swInfo.switchOid ≠ saiNullObjectId
    · exact (resetRun hsel hoid).threadsSleep hs
    · obtain ⟨reply, hrun⟩ := @run_switchReset_of_null _ E i.rt _
        (handedRequest i.buf.bytes i.size) _ (isReply_freshReply i.out.length_eq) hoid
      rw [Session.step_of_ok ((Session.handle_of_selected (E := E) hsel).trans hrun)]
      exact hs
  · have hthreads : (s.step E i).world.state.threads = s.world.state.threads := by
      rw [Session.step_world, Session.handle_of_selected hsel]
      exact congrArg Prod.fst (keepaliveView_handler hinit hreset s.world)
    rw [Session.ThreadsSleep, hthreads]
    exact hs

/-- **The step lemma**: a request is answered exactly when it is harmless. -/
theorem answered_step_iff (hsai : SaneSai E) {s : Session σ} (hheap : KeepaliveHeap s.world.state)
    (hsleep : s.ThreadsSleep) (i : SessionInput) : Answered E s i ↔ Harmless s i :=
  and_congr (repliesWell_step_iff hsai hheap i) (threadsSleep_step_iff hsleep i)

/-! ### Runs -/

/-- The handlers returned, and every keepalive thread can sleep. -/
def Session.Sound (s : Session σ) : Prop := s.crashed = false ∧ s.ThreadsSleep

/-- An answered request leaves a sound session. -/
theorem sound_step_iff (s : Session σ) (i : SessionInput) :
    (s.step E i).Sound ↔ Answered E s i :=
  and_congr_left' (repliesWell_iff_not_crashed s i).symm

/-- **Every request is answered** with a well-formed reply throughout a run exactly when each is
harmless in the state it finds, and exactly then the agent does not end in it: every handler
returns, and no keepalive thread runs into an overflow. -/
theorem answered_iff (hsai : SaneSai E) (env : σ) (is : List SessionInput) :
    (Along Session.Live (Session.step E) (Answered E) (Session.start env) is ↔
      Along Session.Live (Session.step E) Harmless (Session.start env) is) ∧
    ((∀ n, (Session.exec E (Session.start env) (is.take n)).Sound) ↔
      Along Session.Live (Session.step E) Harmless (Session.start env) is) := by
  have hstep : ∀ (s : Session σ) (i : SessionInput), s.Live → s.HeapOk ∧ s.Sound →
      (Answered E s i ↔ Harmless s i) := fun _ i hl h ↦
    answered_step_iff hsai (h.1 hl) h.2.2 i
  have hstart : (Session.start env).HeapOk ∧ (Session.start env).Sound :=
    ⟨heapOk_start env, rfl, nofun⟩
  constructor
  · exact along_iff_along (fun s i hl h ha ↦ ⟨h.1.step hl i, (sound_step_iff s i).2 ha⟩) hstep is _
      hstart
  · exact forall_take_iff_of_invariant (fun _ h ↦ h.2)
      (fun s i hl h hd ↦ ⟨h.1.step hl i, (sound_step_iff s i).2 ((hstep s i hl h).2 hd)⟩)
      (fun s i hl h hp ↦ (hstep s i hl h).1 ((sound_step_iff s i).1 hp)) is _ hstart

/-- SWITCH_INIT, KEEPALIVE_INIT and SWITCH_RESET are answered, in this order. -/
theorem answered_iff_calm :
    Along Session.Live (Session.step calmSai) (Answered calmSai) (Session.start ())
      [bareInput .switchInit, bareInput .keepaliveInit, bareInput .switchReset] :=
  (answered_iff saneSai_calmSai () _).1.2 fun _ ↦ ⟨by decide +kernel, fun _ ↦
    ⟨by decide +kernel, fun _ ↦ ⟨by decide +kernel, trivial⟩⟩⟩

end SaiAgent
