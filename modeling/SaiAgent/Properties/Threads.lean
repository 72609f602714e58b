import SaiAgent.Model.Ipc

/-!
# What the thread functions do to the heap

A pointer to a thread context is good where the context exists and was not freed
(`derefThread_eq_ok_iff`). `saiagent_thread_stop` and `saiagent_thread_destroy` return from a good
pointer only, and touch its slot only; `run_switchReset` puts them together to the run of
SWITCH_RESET.
-/

namespace SaiAgent

open Effects Effects.Proc

variable {σ : Type} {E : SaiBackend σ} {rt : Runtime} {w : World σ} {ctx : Option ℕ} {i : ℕ}
  {slot : ThreadSlot}

/-- The slot of a thread that was told to stop. -/
def ThreadSlot.stopped (s : ThreadSlot) : ThreadSlot := { s with ctx.running := false }

/-- The slot of a thread that was told to stop, joined, and whose context was freed. -/
def ThreadSlot.gone (s : ThreadSlot) : ThreadSlot :=
  { s.stopped with joined := true, freed := true }

/-- The pointers that may be dereferenced. -/
theorem derefThread_eq_ok_iff {threads : List ThreadSlot} :
    derefThread threads ctx = .ok (i, slot) ↔
      ctx = some i ∧ threads[i]? = some slot ∧ slot.freed = false := by
  rcases ctx with _ | j
  · simp [derefThread]
  · rcases hj : threads[j]? with _ | s
    · simp only [derefThread, hj, Option.some.injEq]
      constructor
      · intro h
        cases h
      · rintro ⟨rfl, h, -⟩
        cases hj.symm.trans h
    · rcases hfreed : s.freed with _ | _
      · simp only [derefThread, hj, hfreed, Bool.false_eq_true, if_false, Except.ok.injEq,
          Prod.mk.injEq, Option.some.injEq]
        constructor
        · rintro ⟨rfl, rfl⟩
          exact ⟨rfl, hj, hfreed⟩
        · rintro ⟨rfl, h, -⟩
          exact ⟨rfl, Option.some.inj (hj.symm.trans h)⟩
      · simp only [derefThread, hj, hfreed, if_true, Option.some.injEq]
        constructor
        · intro h
          cases h
        · rintro ⟨rfl, h, hs⟩
          obtain rfl := Option.some.inj (hj.symm.trans h)
          exact absurd (hfreed.symm.trans hs) (by decide)

/-- A pointer stays good when the slot it refers to is rewritten and not freed. -/
theorem derefThread_set {threads : List ThreadSlot} (h : derefThread threads ctx = .ok (i, slot))
    {s : ThreadSlot} (hs : s.freed = false) : derefThread (threads.set i s) ctx = .ok (i, s) := by
  obtain ⟨rfl, hslot, -⟩ := derefThread_eq_ok_iff.1 h
  obtain ⟨hi, -⟩ := List.getElem?_eq_some_iff.1 hslot
  exact derefThread_eq_ok_iff.2 ⟨rfl, List.getElem?_set_self hi, hs⟩

theorem run_clearRunning (h : derefThread w.state.threads ctx = .ok (i, slot)) :
    EStateM.run (clearRunning ctx) w = .ok (i, slot.stopped)
      (w.mapState fun a ↦ a.setThreads (a.threads.set i slot.stopped)) := by
  rw [clearRunning, run_getState_bind, EStateM.run_bind, h]
  rfl

theorem run_clearRunning_error {e : Fault} (h : derefThread w.state.threads ctx = .error e) :
    EStateM.run (clearRunning ctx) w = .error e w := by
  rw [clearRunning, run_getState_bind, EStateM.run_bind, h]
  rfl

/-- `saiagent_thread_stop` from a good pointer. -/
theorem run_saiagentThreadStop (h : derefThread w.state.threads ctx = .ok (i, slot)) :
    EStateM.run (saiagentThreadStop ctx) w = .ok rcStatusOk
      (w.mapState fun a ↦ a.setThreads (a.threads.set i slot.stopped)) := by
  rw [saiagentThreadStop, EStateM.run_bind, run_clearRunning h]
  rfl

/-- What keeps `saiagent_thread_destroy` from returning: a join that never ends, and a joined thread
that left no null result. -/
def Runtime.destroyFault (rt : Runtime) : Option Fault :=
  match rt.pthreadJoin with
  | .blocked => some .blocked
  | .failed => none
  | .joined => if rt.threadResult ≠ 0 then some .invalidFree else none

/-- The thread can be destroyed: the join returns, and what it stored may be freed. -/
def Runtime.Destroys (rt : Runtime) : Prop :=
  rt.pthreadJoin ≠ .blocked ∧ (rt.pthreadJoin = .joined → rt.threadResult = 0)

instance (rt : Runtime) : Decidable rt.Destroys := inferInstanceAs (Decidable (_ ∧ (_ → _)))

/-- A join that fails keeps nothing from returning. -/
theorem Runtime.destroys_of_failed (h : rt.pthreadJoin = .failed) : rt.Destroys :=
  ⟨fun hb ↦ absurd (h.symm.trans hb) nofun, fun hj ↦ absurd (h.symm.trans hj) nofun⟩

theorem Runtime.Destroys.joined_or_failed (h : rt.Destroys) :
    rt.pthreadJoin = .joined ∨ rt.pthreadJoin = .failed := by
  rcases hjoin : rt.pthreadJoin with _ | _ | _
  · exact Or.inl rfl
  · exact Or.inr rfl
  · exact absurd hjoin h.1

theorem Runtime.destroyFault_eq_none_iff : rt.destroyFault = none ↔ rt.Destroys := by
  rw [Runtime.destroyFault, Runtime.Destroys]
  rcases rt.pthreadJoin with _ | _ | _
  · simp
  · simp
  · simp

/-- The slot `saiagent_thread_destroy` leaves when it returns. -/
def Runtime.destroyed (rt : Runtime) (slot : ThreadSlot) : ThreadSlot :=
  if rt.pthreadJoin = .joined then slot.gone else slot.stopped

/-- `saiagent_thread_destroy` from a good pointer. -/
theorem run_saiagentThreadDestroy (h : derefThread w.state.threads ctx = .ok (i, slot)) :
    EStateM.run (saiagentThreadDestroy rt ctx) w =
      match rt.destroyFault with
      | some e => .error e (w.mapState fun a ↦ a.setThreads (a.threads.set i slot.stopped))
      | none => .ok (if rt.pthreadJoin = .joined then rcStatusOk else rcStatusErr)
          (w.mapState fun a ↦ a.setThreads (a.threads.set i (rt.destroyed slot))) := by
  have hset : ∀ l : List ThreadSlot, (l.set i slot.stopped).set i slot.gone = l.set i slot.gone :=
    fun l ↦ List.set_set ..
  rw [saiagentThreadDestroy, EStateM.run_bind, run_clearRunning h, Runtime.destroyFault,
    Runtime.destroyed]
  rcases rt.pthreadJoin with _ | _ | _
  · by_cases hres : rt.threadResult ≠ 0
    · simp only [if_pos hres, run_fault]
    · simp only [if_neg hres, if_true]
      show EStateM.Result.ok rcStatusOk ((w.mapState _).mapState fun a ↦
        a.setThreads (a.threads.set i slot.gone)) = _
      rw [OracleWorld.mapState, OracleWorld.mapState, OracleWorld.mapState]
      simp only [Agent.setThreads, hset]
  · rfl
  · rfl

/-- `saiagent_thread_create`: a new slot where the three library calls succeed. -/
theorem run_saiagentThreadCreate (routine : Routine) (type : ThreadType) (timeout : Int32) :
    EStateM.run (saiagentThreadCreate rt routine type timeout) w =
      if rt.pthreadAttrInit && rt.threadCtxCalloc && rt.pthreadCreate then
        .ok (some w.state.threads.length) (w.mapState fun a ↦
          a.setThreads (a.threads ++ [⟨⟨routine, false, timeout, type⟩, false, false⟩]))
      else
        .ok none w := by
  rw [saiagentThreadCreate]
  split <;> rfl

/-! ### SWITCH_RESET -/

variable {request reply : SaiagentMsg}

/-- The world of a SWITCH_RESET when it comes to destroy the thread. -/
def beforeDestroy (E : SaiBackend σ) (w : World σ) (i : ℕ) (slot : ThreadSlot) : World σ :=
  ((w.mapState fun a ↦ a.setThreads (a.threads.set i slot.stopped)).asked E
    (.saiApiQuery .switch)).asked E (.removeSwitch w.state.swInfo.switchOid)

/-- A SWITCH_RESET of an initialised switch whose keepalive pointer is bad. -/
theorem run_switchReset_error {e : Fault} (hoid : w.state.swInfo.switchOid ≠ saiNullObjectId)
    (h : derefThread w.state.threads w.state.swInfo.keepaliveCtx = .error e) :
    EStateM.run (saiagentIpcProcessSwitchReset E rt request reply) w = .error e w := by
  have hstop : EStateM.run (saiagentThreadStop w.state.swInfo.keepaliveCtx) w = .error e w := by
    rw [saiagentThreadStop, EStateM.run_bind, run_clearRunning_error h]
  rw [saiagentIpcProcessSwitchReset, run_getState_bind, if_pos hoid, EStateM.run_bind, hstop]

/-- **A SWITCH_RESET of an initialised switch** whose keepalive pointer is good and whose query
of the switch methods succeeds. -/
theorem run_switchReset (hoid : w.state.swInfo.switchOid ≠ saiNullObjectId)
    (h : derefThread w.state.threads w.state.swInfo.keepaliveCtx = .ok (i, slot))
    (hquery : (E (.saiApiQuery .switch) w.env).1.ok = true) :
    EStateM.run (saiagentIpcProcessSwitchReset E rt request reply) w =
      match rt.destroyFault with
      | some e => .error e ((beforeDestroy E w i slot).mapState fun a ↦
          a.setThreads (a.threads.set i slot.stopped))
      | none => EStateM.run (lift (saiagentIpcPutReplyAck reply rcStatusOk))
          ((beforeDestroy E w i slot).mapState fun a ↦ (a.setThreads (a.threads.set i
            (rt.destroyed slot))).setRunning false) := by
  have hgood : derefThread (beforeDestroy E w i slot).state.threads w.state.swInfo.keepaliveCtx =
      .ok (i, slot.stopped) :=
    derefThread_set h (derefThread_eq_ok_iff.1 h).2.2
  have hdestroy := @run_saiagentThreadDestroy _ rt _ _ _ _ hgood
  rw [saiagentIpcProcessSwitchReset, run_getState_bind, if_pos hoid, EStateM.run_bind,
    run_saiagentThreadStop h]
  show EStateM.run (ask E (.saiApiQuery .switch) >>= _) _ = _
  rw [EStateM.run_bind, run_ask]
  dsimp only
  rw [if_neg (not_ne_iff.2 (SaiResp.ok_iff.1 (show (E (.saiApiQuery .switch)
    (w.mapState _).env).1.ok = true from hquery))), EStateM.run_bind, run_ask]
  dsimp only
  rw [EStateM.run_bind, show EStateM.run (saiagentThreadDestroy rt w.state.swInfo.keepaliveCtx)
    (((w.mapState _).asked E _).asked E _) = _ from hdestroy]
  rcases rt.destroyFault with _ | e
  · rfl
  · rfl

end SaiAgent
