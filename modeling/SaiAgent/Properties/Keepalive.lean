import SaiAgent.Properties.OneReply
import SaiAgent.Properties.OneSwitch
import SaiAgent.Properties.PortNumbers

/-!
# The keepalive thread

One global pointer carries the ownership of the keepalive thread: each KEEPALIVE_INIT overwrites
it, and SWITCH_RESET stops, joins and frees what it refers to. `KeepaliveHeap` describes the heap of
a running session: no thread was joined, no context freed, and the pointer refers to the newest one.
From it follow both results about sessions: there is at most one keepalive thread, and none after a
reset, exactly when no second one is created and the join succeeds (`oneKeepalive_iff`); and
SWITCH_RESET is safe exactly when a thread was created before it that can be destroyed, with a
method table to use (`resetSafe_iff`).
-/

namespace SaiAgent

open Effects Effects.Proc Effects.Run

variable {σ : Type} {E : SaiBackend σ} {rt : Runtime} {w : World σ} {request reply : SaiagentMsg}

/-! ### What the other requests leave alone -/

/-- What the functions about threads read and write, and whether the loop goes on. -/
def keepaliveView (w : World σ) : List ThreadSlot × Option ℕ × Bool :=
  (w.state.threads, w.state.swInfo.keepaliveCtx, w.state.running)

/-- Only KEEPALIVE_INIT and SWITCH_RESET touch threads. -/
theorem keepaliveView_handler {handler : Handler} (hinit : handler ≠ .keepaliveInit)
    (hreset : handler ≠ .switchReset) (w : World σ) :
    keepaliveView (worldOf (EStateM.run (handler.run E rt request reply) w)) = keepaliveView w := by
  by_cases hswitch : handler = .switchInit
  · subst hswitch
    exact (worldOf_processSwitchInit (fun _ _ _ ↦ rfl) (fun _ _ ↦ rfl) (fun _ _ _ ↦ rfl) request
      reply w).trans (keeps_saiSwitchInit (fun _ _ ↦ rfl) (fun _ _ ↦ rfl) (fun _ _ ↦ rfl)
        (fun _ _ ↦ rfl) (fun _ _ _ _ ↦ rfl) w)
  · exact keeps_handler (fun _ _ _ ↦ rfl) (fun h ↦ absurd h hreset)
      (fun _ ↦ ⟨fun _ _ _ ↦ rfl, fun _ _ ↦ rfl⟩) (fun h ↦ (h.elim hinit hreset).elim)
        (fun h ↦ absurd h hinit) (fun h ↦ absurd h hreset) hswitch
      request reply w

/-! ### KEEPALIVE_INIT -/

/-- The library calls of `saiagent_thread_create` all succeed. -/
def Runtime.createsThread (rt : Runtime) : Bool :=
  rt.pthreadAttrInit && rt.threadCtxCalloc && rt.pthreadCreate

/-- The slot a KEEPALIVE_INIT creates. -/
def keepaliveSlot (request : SaiagentMsg) : ThreadSlot where
  ctx :=
    { func := .keepaliveRoutine
      running := false
      timeout := (PresteraMsgKeepaliveInitReq.ofBuff (request.buff.getD [])).pulseTimeoutMs.toInt32
      type := .loop }
  joined := false
  freed := false

/-- **The run of KEEPALIVE_INIT**: a new slot, named by the pointer, where the thread was
created. -/
theorem run_keepaliveInit (hr : IsReply reply) (w : World σ) :
    ∃ reply', EStateM.run (saiagentIpcProcessKeepaliveInit rt request reply) w = .ok reply'
      (if rt.createsThread then w.mapState fun a ↦
        (a.setThreads (a.threads ++ [keepaliveSlot request])).setKeepaliveCtx
          (some a.threads.length)
      else w) := by
  rw [saiagentIpcProcessKeepaliveInit, EStateM.run_bind, run_saiagentThreadCreate,
    Runtime.createsThread]
  by_cases hc : (rt.pthreadAttrInit && rt.threadCtxCalloc && rt.pthreadCreate) = true
  · rw [if_pos hc, if_pos hc]
    obtain ⟨reply', hack, -⟩ := run_lift_putReplyAck hr rcStatusOk
      (w.mapState fun a ↦ (a.setThreads (a.threads ++ [keepaliveSlot request])).setKeepaliveCtx
        (some a.threads.length))
    exact ⟨reply', hack⟩
  · rw [if_neg hc, if_neg hc]
    obtain ⟨reply', hack, -⟩ := run_lift_putReplyAck hr rcStatusErr w
    exact ⟨reply', hack⟩

/-! ### SWITCH_RESET -/

/-- Without an initialised switch, SWITCH_RESET is acknowledged and does nothing. -/
theorem run_switchReset_of_null (hr : IsReply reply)
    (hoid : ¬w.state.swInfo.switchOid ≠ saiNullObjectId) :
    ∃ reply', EStateM.run (saiagentIpcProcessSwitchReset E rt request reply) w = .ok reply' w := by
  obtain ⟨reply', hack, -⟩ := run_lift_putReplyAck hr rcStatusOk w
  exact ⟨reply', by rw [saiagentIpcProcessSwitchReset, run_getState_bind, if_neg hoid]; exact hack⟩

/-- Without a method table, it calls through a wild pointer once the thread is told to stop. -/
theorem run_switchReset_of_refused {i : ℕ} {slot : ThreadSlot}
    (hoid : w.state.swInfo.switchOid ≠ saiNullObjectId)
    (h : derefThread w.state.threads w.state.swInfo.keepaliveCtx = .ok (i, slot))
    (hquery : (E (.saiApiQuery .switch) w.env).1.ok = false) :
    EStateM.run (saiagentIpcProcessSwitchReset E rt request reply) w = .error .wildPointer
      ((w.mapState fun a ↦ a.setThreads (a.threads.set i slot.stopped)).asked E
          (.saiApiQuery .switch)) := by
  rw [saiagentIpcProcessSwitchReset, run_getState_bind, if_pos hoid, EStateM.run_bind,
    run_saiagentThreadStop h]
  show EStateM.run (ask E (.saiApiQuery .switch) >>= _) _ = _
  rw [EStateM.run_bind, run_ask]
  dsimp only
  rw [if_pos (SaiResp.ok_eq_false_iff.1 (show (E (.saiApiQuery .switch)
    (w.mapState _).env).1.ok = false from hquery))]
  rfl

/-! ### The heap of a running session -/

/-- No thread was joined and no context freed, and the pointer refers to the newest one. -/
structure KeepaliveHeap (a : Agent) : Prop where
  fresh : ∀ slot ∈ a.threads, slot.joined = false ∧ slot.freed = false
  none_iff : a.swInfo.keepaliveCtx = none ↔ a.threads = []
  newest : ∀ i, a.swInfo.keepaliveCtx = some i → i + 1 = a.threads.length

/-- The pointer may be dereferenced as soon as a thread was created. -/
theorem KeepaliveHeap.present_iff {a : Agent} (h : KeepaliveHeap a) :
    KeepalivePresent a ↔ a.threads ≠ [] := by
  constructor
  · rintro ⟨⟨i, slot⟩, hderef⟩ hnil
    obtain ⟨hctx, -⟩ := derefThread_eq_ok_iff.1 hderef
    exact absurd (hctx.symm.trans (h.none_iff.2 hnil)) nofun
  · intro hne
    rcases hctx : a.swInfo.keepaliveCtx with _ | i
    · exact absurd (h.none_iff.1 hctx) hne
    · have hi : i < a.threads.length := Nat.lt_of_succ_le (Nat.le_of_eq (h.newest i hctx))
      have hslot := List.getElem?_eq_getElem hi
      refine ⟨(i, a.threads[i]), derefThread_eq_ok_iff.2 ⟨hctx, hslot, ?_⟩⟩
      exact (h.fresh _ (List.getElem_mem hi)).2

/-- The heap of a session that goes on. -/
def Session.HeapOk (s : Session σ) : Prop := s.Live → KeepaliveHeap s.world.state

theorem keepaliveHeap_congr {w w' : World σ} (h : keepaliveView w' = keepaliveView w) :
    KeepaliveHeap w'.state ↔ KeepaliveHeap w.state := by
  have hthreads : w'.state.threads = w.state.threads := congrArg Prod.fst h
  have hctx : w'.state.swInfo.keepaliveCtx = w.state.swInfo.keepaliveCtx :=
    congrArg (fun v ↦ v.2.1) h
  constructor
  · rintro ⟨h₁, h₂, h₃⟩
    rw [hthreads] at h₁
    rw [hctx, hthreads] at h₂
    rw [hctx, hthreads] at h₃
    exact ⟨h₁, h₂, h₃⟩
  · rintro ⟨h₁, h₂, h₃⟩
    refine ⟨?_, ?_, ?_⟩
    · rw [hthreads]
      exact h₁
    · rw [hctx, hthreads]
      exact h₂
    · rw [hctx, hthreads]
      exact h₃

/-- A created thread is the newest. -/
theorem KeepaliveHeap.create {a : Agent} (h : KeepaliveHeap a) :
    KeepaliveHeap ((a.setThreads (a.threads ++ [keepaliveSlot request])).setKeepaliveCtx
      (some a.threads.length)) where
  fresh slot hslot := by
    rcases List.mem_append.1 hslot with hold | hnew
    · exact h.fresh slot hold
    · obtain rfl := List.mem_singleton.1 hnew
      exact ⟨rfl, rfl⟩
  none_iff := iff_of_false nofun fun hnil ↦ List.append_ne_nil_of_right_ne_nil _
    (List.cons_ne_nil _ _) hnil
  newest i hi := by
    obtain rfl := Option.some.inj hi
    show _ = (a.threads ++ [keepaliveSlot request]).length
    rw [List.length_append]
    rfl

/-- How SWITCH_RESET of an initialised switch can go. -/
inductive ResetRun (E : SaiBackend σ) (s : Session σ) (i : SessionInput) : Prop where
  /-- The keepalive pointer is bad. -/
  | absent (e : Fault) (hderef : derefThread s.world.state.threads
      s.world.state.swInfo.keepaliveCtx = .error e) (handle : Session.handle E s.world i =
        .error e s.world)
  /-- The thread was told to stop, and the handler did not return: it had no method table, or could
  not destroy the thread. -/
  | crashed (k : ℕ) (slot : ThreadSlot) (e : Fault) (w' : World σ)
      (hderef : derefThread s.world.state.threads s.world.state.swInfo.keepaliveCtx = .ok (k, slot))
      (cause : (E (.saiApiQuery .switch) s.world.env).1.ok = false ∨
        ¬i.rt.Destroys)
      (handle : Session.handle E s.world i = .error e w')
      (threads : w'.state.threads = s.world.state.threads.set k slot.stopped)
      (ctx : w'.state.swInfo.keepaliveCtx = s.world.state.swInfo.keepaliveCtx)
  /-- The handler completed, and the loop was stopped. -/
  | completed (k : ℕ) (slot : ThreadSlot) (reply : SaiagentMsg) (w' : World σ)
      (hderef : derefThread s.world.state.threads s.world.state.swInfo.keepaliveCtx = .ok (k, slot))
      (query : (E (.saiApiQuery .switch) s.world.env).1.ok = true)
      (destroys : i.rt.Destroys)
      (handle : Session.handle E s.world i = .ok reply w')
      (threads : w'.state.threads = s.world.state.threads.set k
        (i.rt.destroyed slot))
      (ctx : w'.state.swInfo.keepaliveCtx = s.world.state.swInfo.keepaliveCtx)
      (running : w'.state.running = false)

theorem resetRun {s : Session σ} {i : SessionInput}
    (hsel : selected s.world.state.ipcCbList i.buf.bytes i.size = some .switchReset)
    (hoid : s.world.state.swInfo.switchOid ≠ saiNullObjectId) : ResetRun E s i := by
  have hhandle : Session.handle E s.world i =
      EStateM.run (saiagentIpcProcessSwitchReset E i.rt (handedRequest i.buf.bytes i.size)
        (freshReply i.out.bytes)) s.world := Session.handle_of_selected hsel
  rcases hderef : derefThread s.world.state.threads s.world.state.swInfo.keepaliveCtx with e | ⟨k,
    slot⟩
  · exact .absent e hderef (hhandle.trans (run_switchReset_error hoid hderef))
  rcases hquery : (E (.saiApiQuery .switch) s.world.env).1.ok with _ | _
  · exact .crashed k slot .wildPointer _ hderef (Or.inl hquery)
      (hhandle.trans (run_switchReset_of_refused hoid hderef hquery)) rfl rfl
  have hrun := hhandle.trans (run_switchReset hoid hderef hquery)
  rcases hfault : i.rt.destroyFault with _ | e
  · rw [hfault] at hrun
    obtain ⟨reply, hack, -⟩ :=
      run_lift_putReplyAck (isReply_freshReply i.out.length_eq) rcStatusOk _
    refine .completed k slot reply _ hderef hquery (Runtime.destroyFault_eq_none_iff.1 hfault)
      (hrun.trans hack) ?_ rfl rfl
    exact List.set_set ..
  · rw [hfault] at hrun
    refine .crashed k slot e _ hderef (Or.inr fun hdestroys ↦ ?_) hrun ?_ rfl
    · cases hfault.symm.trans (Runtime.destroyFault_eq_none_iff.2 hdestroys)
    · exact List.set_set ..

/-- After it the loop has stopped, or the handler did not return. -/
theorem ResetRun.not_live {s : Session σ} {i : SessionInput} (h : ResetRun E s i) :
    ¬(s.step E i).Live := by
  rcases h with ⟨e, -, handle⟩ | ⟨k, slot, e, w', -, -, handle, -, -⟩ |
    ⟨k, slot, reply, w', -, -, -, handle, -, -, running⟩
  · rw [Session.step_of_error handle]
    exact fun h ↦ absurd h.2 nofun
  · rw [Session.step_of_error handle]
    exact fun h ↦ absurd h.2 nofun
  · rw [Session.step_of_ok handle]
    exact fun h ↦ absurd (running.symm.trans h.1) nofun

/-- **The step lemma of the heap**: a session that goes on keeps its heap in order. -/
theorem Session.HeapOk.step {s : Session σ} (h : s.HeapOk) (hlive : s.Live) (i : SessionInput) :
    (s.step E i).HeapOk := by
  intro hlive'
  have hheap := h hlive
  rcases hsel : selected s.world.state.ipcCbList i.buf.bytes i.size with _ | handler
  · obtain ⟨reply, hrun⟩ := Session.handle_of_not_selected (E := E) hsel
    rw [Session.step_of_ok hrun]
    exact hheap
  -- Two handlers touch the threads; every other leaves the heap as it was.
  by_cases hinit : handler = .keepaliveInit
  · subst hinit
    obtain ⟨reply, hrun⟩ := @run_keepaliveInit _ i.rt (handedRequest i.buf.bytes i.size) _
      (isReply_freshReply i.out.length_eq) s.world
    rw [Session.step_of_ok ((Session.handle_of_selected (E := E) hsel).trans hrun)]
    split
    · exact hheap.create
    · exact hheap
  by_cases hreset : handler = .switchReset
  · subst hreset
    by_cases hoid : s.world.state.swInfo.switchOid ≠ saiNullObjectId
    · exact absurd hlive' (resetRun hsel hoid).not_live
    · obtain ⟨reply, hrun⟩ := @run_switchReset_of_null _ E i.rt _
        (handedRequest i.buf.bytes i.size) _ (isReply_freshReply i.out.length_eq) hoid
      rw [Session.step_of_ok ((Session.handle_of_selected (E := E) hsel).trans hrun)]
      exact hheap
  · rw [Session.step_world, Session.handle_of_selected hsel]
    exact (keepaliveHeap_congr (keepaliveView_handler hinit hreset s.world)).2 hheap

theorem heapOk_start (env : σ) : (Session.start env).HeapOk :=
  fun _ ↦ ⟨nofun, iff_of_true rfl rfl, nofun⟩

/-! ### SWITCH_RESET is safe -/

/-- A SWITCH_RESET that finds an initialised switch finds the keepalive context there, and is
answered. -/
def ResetSafe (E : SaiBackend σ) (s : Session σ) (i : SessionInput) : Prop :=
  selected s.world.state.ipcCbList i.buf.bytes i.size = some .switchReset →
    s.world.state.swInfo.switchOid ≠ saiNullObjectId →
      KeepalivePresent s.world.state ∧ ∃ reply w', Session.handle E s.world i = .ok reply w'

/-- A SWITCH_RESET that finds an initialised switch comes after a thread was created; SAI hands out
its switch methods, and the thread can be destroyed. -/
def ResetReady (E : SaiBackend σ) (s : Session σ) (i : SessionInput) : Prop :=
  selected s.world.state.ipcCbList i.buf.bytes i.size = some .switchReset →
    s.world.state.swInfo.switchOid ≠ saiNullObjectId →
      s.world.state.threads ≠ [] ∧ (E (.saiApiQuery .switch) s.world.env).1.ok = true ∧
        i.rt.Destroys

theorem resetSafe_step_iff {s : Session σ} (h : s.HeapOk) (hlive : s.Live) (i : SessionInput) :
    ResetSafe E s i ↔ ResetReady E s i := by
  refine imp_congr_right fun hsel ↦ imp_congr_right fun hoid ↦ ?_
  rw [(h hlive).present_iff]
  refine and_congr_right fun hne ↦ ?_
  obtain ⟨p, hpresent⟩ := (h hlive).present_iff.2 hne
  rcases resetRun (E := E) hsel hoid with ⟨e, hderef, -⟩ | ⟨k, slot, e, w', -, cause, handle, -,
    -⟩ | ⟨k, slot, reply, w', -, query, destroys, handle, -, -, -⟩
  · cases hderef.symm.trans hpresent
  · refine iff_of_false ?_ fun hready ↦ ?_
    · rintro ⟨reply, w'', hok⟩
      cases hok.symm.trans handle
    · rcases cause with hquery | hdestroy
      · exact absurd (hquery.symm.trans hready.1) nofun
      · exact hdestroy hready.2
  · exact iff_of_true ⟨reply, w', handle⟩ ⟨query, destroys⟩

variable (E)

/-- **SWITCH_RESET is safe** throughout a session exactly when each one that finds an initialised
switch comes after a KEEPALIVE_INIT created a thread, SAI hands out its switch methods, and the
thread can be destroyed: `pthread_join` returns, and the joined thread left a null result. -/
theorem resetSafe_iff (env : σ) (is : List SessionInput) :
    Along Session.Live (Session.step E) (ResetSafe E) (Session.start env) is ↔
      Along Session.Live (Session.step E) (ResetReady E) (Session.start env) is :=
  along_iff_along (J := fun s : Session σ ↦ s.HeapOk) (fun _ i hlive h _ ↦ h.step hlive i)
    (fun _ i hlive h ↦ resetSafe_step_iff h hlive i) is _ (heapOk_start env)

/-- A request without a payload of its own, as it arrives over zeroed buffers. -/
def bareInput (handler : Handler) : SessionInput where
  buf := ⟨bareRequest handler, length_bareRequest handler⟩
  size := 4
  out := ⟨zeroBuffer, length_zeroBuffer⟩
  rt := Runtime.calm 0

/-- SWITCH_RESET after SWITCH_INIT, without a KEEPALIVE_INIT between them, dereferences a null
pointer. -/
theorem reset_without_keepalive :
    ¬Along Session.Live (Session.step scriptedSai) (ResetSafe scriptedSai) (Session.start twoPorts)
      [bareInput .switchInit, bareInput .switchReset] := by
  intro h
  have hreset := ((h (by decide)).2 (by decide +kernel)).1 (by decide +kernel) (by decide +kernel)
  have hnone : ((Session.start twoPorts).step scriptedSai
      (bareInput .switchInit)).world.state.swInfo.keepaliveCtx = none := by decide +kernel
  obtain ⟨⟨i, slot⟩, hderef⟩ := hreset.1
  exact absurd ((derefThread_eq_ok_iff.1 hderef).1.symm.trans hnone) nofun

variable {E}

/-! ### At most one keepalive thread -/

/-- A thread that was created and not joined is the one the pointer refers to, its context there;
and none is left once the loop was stopped, which SWITCH_RESET of an initialised switch does. -/
structure OneKeepalive (s : Session σ) : Prop where
  only : ∀ i slot, s.world.state.threads[i]? = some slot → slot.joined = false →
    s.world.state.swInfo.keepaliveCtx = some i ∧ slot.freed = false
  none_after : s.world.state.running = false → s.crashed = false →
    ∀ slot ∈ s.world.state.threads, slot.joined = true

/-- A KEEPALIVE_INIT that creates a thread finds none created before it; and the join of a
SWITCH_RESET of an initialised switch does not fail. -/
structure KeepaliveOnce (E : SaiBackend σ) (s : Session σ) (i : SessionInput) : Prop where
  create : selected s.world.state.ipcCbList i.buf.bytes i.size = some .keepaliveInit →
    i.rt.createsThread = true → s.world.state.threads = []
  join : selected s.world.state.ipcCbList i.buf.bytes i.size = some .switchReset →
    s.world.state.swInfo.switchOid ≠ saiNullObjectId → s.world.state.threads ≠ [] →
      (E (.saiApiQuery .switch) s.world.env).1.ok = true → i.rt.pthreadJoin ≠ .failed

/-- What a step of a running session leaves is judged by the threads and the pointer, while the
loop goes on. -/
theorem oneKeepalive_congr {s s' : Session σ} (hlive : s.Live)
    (h : keepaliveView s'.world = keepaliveView s.world) (hs : OneKeepalive s) :
        OneKeepalive s' := by
  have hthreads : s'.world.state.threads = s.world.state.threads := congrArg Prod.fst h
  have hctx : s'.world.state.swInfo.keepaliveCtx = s.world.state.swInfo.keepaliveCtx :=
    congrArg (fun v ↦ v.2.1) h
  have hrunning : s'.world.state.running = s.world.state.running := congrArg (fun v ↦ v.2.2) h
  refine ⟨?_, fun hstop ↦ ?_⟩
  · rw [hthreads, hctx]
    exact hs.only
  · exact absurd (hlive.1.symm.trans (hrunning.symm.trans hstop)) nofun

/-- A slot that was told to stop is joined and freed where it was before. -/
theorem OneKeepalive.only_set {s : Session σ} {w' : World σ} {k : ℕ} {slot slot' : ThreadSlot}
    (hs : OneKeepalive s) (hderef : derefThread s.world.state.threads
      s.world.state.swInfo.keepaliveCtx = .ok (k, slot)) (hslot' : slot' = slot.stopped ∨
        slot'.joined = true)
    (hthreads : w'.state.threads = s.world.state.threads.set k slot')
    (hctx : w'.state.swInfo.keepaliveCtx = s.world.state.swInfo.keepaliveCtx) :
    ∀ i t, w'.state.threads[i]? = some t → t.joined = false →
      w'.state.swInfo.keepaliveCtx = some i ∧ t.freed = false := by
  obtain ⟨hk, hslot, hfreed⟩ := derefThread_eq_ok_iff.1 hderef
  intro i t ht hjoined
  rw [hctx]
  rw [hthreads] at ht
  by_cases hi : k = i
  · subst hi
    rw [List.getElem?_set_self (List.getElem?_eq_some_iff.1 hslot).1] at ht
    obtain rfl := Option.some.inj ht
    obtain rfl | hdone := hslot'
    · exact ⟨hk, hfreed⟩
    · exact absurd (hjoined.symm.trans hdone) nofun
  · rw [List.getElem?_set_ne hi] at ht
    exact hs.only i t ht hjoined

/-- **A KEEPALIVE_INIT that creates a thread** leaves one exactly when there was none. -/
theorem oneKeepalive_create_iff {s : Session σ} (hheap : KeepaliveHeap s.world.state)
    (hlive : s.Live) : OneKeepalive (⟨s.world.mapState fun a ↦ (a.setThreads
      (a.threads ++ [keepaliveSlot request])).setKeepaliveCtx (some a.threads.length),
        false⟩ : Session σ) ↔
      s.world.state.threads = [] := by
  constructor
  · intro h
    by_contra hne
    have hpos : 0 < s.world.state.threads.length := List.length_pos_iff.2 hne
    have hfirst : (s.world.state.threads ++ [keepaliveSlot request])[0]? =
        some s.world.state.threads[0] := by
      rw [List.getElem?_append_left hpos, List.getElem?_eq_getElem hpos]
    obtain ⟨hctx, -⟩ := h.only 0 _ hfirst (hheap.fresh _ (List.getElem_mem hpos)).1
    exact absurd (Option.some.inj hctx) (Nat.ne_of_gt hpos)
  · intro hnil
    refine ⟨fun i slot hslot hjoined ↦ ?_, fun hstop ↦ absurd (hlive.1.symm.trans hstop) nofun⟩
    have hslot : (s.world.state.threads ++ [keepaliveSlot request])[i]? = some slot := hslot
    rw [hnil] at hslot
    obtain ⟨hi, rfl⟩ := List.getElem?_eq_some_iff.1 hslot
    obtain rfl : i = 0 := Nat.lt_one_iff.1 hi
    exact ⟨congrArg (fun l : List ThreadSlot ↦ some l.length) hnil, rfl⟩

/-- **SWITCH_RESET of an initialised switch** leaves no thread exactly when the join of the one
there is does not fail. -/
theorem oneKeepalive_reset_iff {s : Session σ} {i : SessionInput}
    (hheap : KeepaliveHeap s.world.state) (hs : OneKeepalive s) (h : ResetRun E s i) :
    OneKeepalive (s.step E i) ↔
      (s.world.state.threads ≠ [] → (E (.saiApiQuery .switch) s.world.env).1.ok = true →
        i.rt.pthreadJoin ≠ .failed) := by
  rcases h with ⟨e, hderef, handle⟩ | ⟨k, slot, e, w', hderef, cause, handle, threads, ctx⟩ |
    ⟨k, slot, reply, w', hderef, query, destroys, handle, threads, ctx, running⟩
  · -- The pointer refers to no thread that is left, so there was none.
    rw [Session.step_of_error handle]
    refine iff_of_true ⟨hs.only, nofun⟩ fun hne ↦ ?_
    obtain ⟨p, hpresent⟩ := hheap.present_iff.2 hne
    cases hderef.symm.trans hpresent
  · -- The agent ends in the request, and no later step can start a thread.
    rw [Session.step_of_error handle]
    refine iff_of_true ⟨hs.only_set hderef (Or.inl rfl) threads ctx, nofun⟩ fun _ hquery ↦ ?_
    rcases cause with hbad | hdestroy
    · exact absurd (hbad.symm.trans hquery) Bool.false_ne_true
    · exact fun hfailed ↦ hdestroy (Runtime.destroys_of_failed hfailed)
  · obtain ⟨hk, hslot, -⟩ := derefThread_eq_ok_iff.1 hderef
    have hlt : k < s.world.state.threads.length := (List.getElem?_eq_some_iff.1 hslot).1
    rw [Session.step_of_ok handle]
    rcases destroys.joined_or_failed with hjoin | hjoin
    · rw [Runtime.destroyed, if_pos hjoin] at threads
      refine iff_of_true ⟨hs.only_set hderef (Or.inr rfl) threads ctx, fun _ _ t ht ↦ ?_⟩
        fun _ _ hfailed ↦ absurd (hjoin.symm.trans hfailed) (by decide)
      -- Any other thread that was not joined would be the one the pointer refers to.
      by_contra hnot
      have hjoined : t.joined = false := Bool.not_eq_true _ ▸ hnot
      rw [threads] at ht
      obtain ⟨j, hj, rfl⟩ := List.mem_iff_getElem.1 ht
      by_cases hkj : k = j
      · subst hkj
        rw [List.getElem_set_self] at hjoined
        cases hjoined
      · have hold : s.world.state.threads[j]? = some
            ((s.world.state.threads.set k slot.gone)[j]) := by
          rw [List.getElem_set_ne hkj, List.getElem?_eq_getElem]
        obtain ⟨hctx, -⟩ := hs.only j _ hold hjoined
        exact hkj (Option.some.inj (hk.symm.trans hctx))
    · -- The thread that was not joined is left.
      have hnot : i.rt.pthreadJoin ≠ .joined := fun h ↦ absurd (hjoin.symm.trans h) (by decide)
      rw [Runtime.destroyed, if_neg hnot] at threads
      refine iff_of_false (fun hone ↦ ?_) fun hcond ↦ ?_
      · have hleft : slot.stopped ∈ w'.state.threads := by
          rw [threads]
          exact List.mem_set hlt _
        have hfresh := (hheap.fresh slot (List.mem_of_getElem? hslot)).1
        exact absurd (hfresh.symm.trans (hone.none_after running rfl slot.stopped hleft))
          Bool.false_ne_true
      · exact hcond (List.ne_nil_of_length_pos (Nat.zero_lt_of_lt hlt)) query hjoin

/-- **The step lemma.** -/
theorem oneKeepalive_step_iff {s : Session σ} (hlive : s.Live) (hheap : s.HeapOk)
    (hs : OneKeepalive s) (i : SessionInput) : OneKeepalive (s.step E i) ↔ KeepaliveOnce E s i := by
  rcases hsel : selected s.world.state.ipcCbList i.buf.bytes i.size with _ | handler
  · obtain ⟨reply, hrun⟩ := Session.handle_of_not_selected (E := E) hsel
    rw [Session.step_of_ok hrun]
    exact iff_of_true (oneKeepalive_congr hlive rfl hs) ⟨fun h ↦ absurd (hsel.symm.trans h) nofun,
      fun h ↦ absurd (hsel.symm.trans h) nofun⟩
  -- Each of the two conditions speaks about the one handler of the request.
  have honly : ∀ {g}, selected s.world.state.ipcCbList i.buf.bytes i.size = some g → handler = g :=
    fun h ↦ Option.some.inj (hsel.symm.trans h)
  by_cases hinit : handler = .keepaliveInit
  · subst hinit
    obtain ⟨reply, hrun⟩ := @run_keepaliveInit _ i.rt (handedRequest i.buf.bytes i.size) _
      (isReply_freshReply i.out.length_eq) s.world
    rw [Session.step_of_ok ((Session.handle_of_selected (E := E) hsel).trans hrun)]
    have hcond : KeepaliveOnce E s i ↔ (i.rt.createsThread = true → s.world.state.threads = []) :=
      ⟨fun h ↦ h.create hsel, fun h ↦ ⟨fun _ ↦ h, fun hg ↦ absurd (honly hg) nofun⟩⟩
    rw [hcond]
    by_cases hcreate : i.rt.createsThread = true
    · rw [if_pos hcreate, oneKeepalive_create_iff (hheap hlive) hlive]
      exact ⟨fun h _ ↦ h, fun h ↦ h hcreate⟩
    · rw [if_neg hcreate]
      exact iff_of_true (oneKeepalive_congr hlive rfl hs) fun h ↦ absurd h hcreate
  by_cases hreset : handler = .switchReset
  · subst hreset
    have hcond : KeepaliveOnce E s i ↔ (s.world.state.swInfo.switchOid ≠ saiNullObjectId →
        s.world.state.threads ≠ [] → (E (.saiApiQuery .switch) s.world.env).1.ok = true →
          i.rt.pthreadJoin ≠ .failed) :=
      ⟨fun h ↦ h.join hsel, fun h ↦ ⟨fun hg ↦ absurd (honly hg) nofun, fun _ ↦ h⟩⟩
    rw [hcond]
    by_cases hoid : s.world.state.swInfo.switchOid ≠ saiNullObjectId
    · rw [oneKeepalive_reset_iff (hheap hlive) hs (resetRun hsel hoid)]
      exact ⟨fun h _ ↦ h, fun h ↦ h hoid⟩
    · obtain ⟨reply, hrun⟩ := @run_switchReset_of_null _ E i.rt _
        (handedRequest i.buf.bytes i.size) _ (isReply_freshReply i.out.length_eq) hoid
      rw [Session.step_of_ok ((Session.handle_of_selected (E := E) hsel).trans hrun)]
      exact iff_of_true (oneKeepalive_congr hlive rfl hs) fun h ↦ absurd h hoid
  · refine iff_of_true (oneKeepalive_congr hlive ?_ hs) ⟨fun h ↦ absurd (honly h) hinit,
      fun h ↦ absurd (honly h) hreset⟩
    rw [Session.step_world, Session.handle_of_selected hsel]
    exact keepaliveView_handler hinit hreset s.world

variable (E)

/-- **At most one keepalive thread**, the one `sw_info` refers to, in every state of a session, and
none after SWITCH_RESET, exactly when no KEEPALIVE_INIT creates a thread after another did and no
join of it fails. -/
theorem oneKeepalive_iff (env : σ) (is : List SessionInput) :
    (∀ n, OneKeepalive (Session.exec E (Session.start env) (is.take n))) ↔
      Along Session.Live (Session.step E) (KeepaliveOnce E) (Session.start env) is := by
  have hstart : OneKeepalive (Session.start env) := ⟨nofun, nofun⟩
  have hheap : ∀ is, (Session.exec E (Session.start env) is).HeapOk := fun is ↦
    exec_invariant_of_all (J := fun s : Session σ ↦ s.HeapOk) (fun _ i hlive h ↦ h.step hlive i)
      is _ (heapOk_start env)
  rw [← forall_take_iff (J := fun s : Session σ ↦ s.HeapOk ∧ OneKeepalive s) (fun s i hlive hs ↦ ?_)
    is _ ⟨heapOk_start env, hstart⟩]
  · exact forall_congr' fun n ↦ (and_iff_right (hheap _)).symm
  · rw [and_iff_right (hs.1.step hlive i)]
    exact oneKeepalive_step_iff hlive hs.1 hs.2 i

/-- KEEPALIVE_INIT sent twice creates a second thread, and the pointer to the first is lost. -/
theorem keepalive_twice_leaks :
    ¬∀ n, OneKeepalive (Session.exec scriptedSai (Session.start twoPorts)
      ([bareInput .switchInit, bareInput .keepaliveInit, bareInput .keepaliveInit].take n)) := by
  intro h
  have hlost := (h 3).only 0
  have hctx : (Session.exec scriptedSai (Session.start twoPorts)
      [bareInput .switchInit, bareInput .keepaliveInit,
        bareInput .keepaliveInit]).world.state.swInfo.keepaliveCtx = some 1 := by decide +kernel
  have hfirst : (Session.exec scriptedSai (Session.start twoPorts)
      [bareInput .switchInit, bareInput .keepaliveInit,
        bareInput .keepaliveInit]).world.state.threads[0]? = some
          (keepaliveSlot (handedRequest (bareRequest .keepaliveInit) 4)) := by decide +kernel
  obtain ⟨hnamed, -⟩ := hlost _ hfirst rfl
  exact absurd (Option.some.inj (hctx.symm.trans hnamed)) (by decide)

end SaiAgent
