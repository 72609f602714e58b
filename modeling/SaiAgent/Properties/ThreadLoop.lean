import SaiAgent.Model.ThreadLoop
import SaiAgent.Properties.Threads

/-!
# Stopping a thread

The owner stops a thread by clearing `running`, and the thread sets it when it starts. Over every
schedule, a stop holds exactly when the thread is not started after it (`neverUndone_iff`): a
thread that `pthread_create` made but that has not run yet overwrites the flag.
-/

namespace SaiAgent

open Effects Effects.Proc Effects.Run

namespace LoopThread

variable {s : LoopThread} {t : Turn}

/-- **A stop holds**: once the owner cleared the flag it is clear, the routine is started at most
once more, and a waiting owner waits for a thread that was told to end. -/
structure NeverUndone (s : LoopThread) : Prop where
  stopped : s.cleared = true → s.ctx.running = false ∧ s.startsSince ≤ 1
  waiting : s.owner = .joining → s.ctx.running = false

/-- The turn is not the first one of a thread that was stopped before it. -/
def StartsInTime (s : LoopThread) (t : Turn) : Prop :=
  t = .thread → s.thread = .created → s.cleared = false

/-- What carries the induction: a thread about to call its routine has not called it since the
flag was cleared, and an owner that waits has cleared the flag. -/
structure Stopping (s : LoopThread) : Prop where
  clear : s.cleared = true → s.ctx.running = false
  starts : s.startsSince ≤ 1
  calling : s.thread = .calling → s.startsSince = 0
  fresh : s.cleared = false → s.startsSince = 0
  waiting : s.owner = .joining → s.cleared = true

theorem Stopping.neverUndone (h : s.Stopping) : s.NeverUndone :=
  ⟨fun hc ↦ ⟨h.clear hc, h.starts⟩, fun ho ↦ h.clear (h.waiting ho)⟩

theorem stopping_create (routine : Routine) (timeout : Int32) :
    (create routine timeout).Stopping where
  clear h := by cases h
  starts := Nat.zero_le _
  calling h := by cases h
  fresh _ := rfl
  waiting h := by cases h

/-- **A turn of the thread**, by where it is. -/
theorem Stopping.threadLoop (h : s.Stopping) (hc : s.StartsInTime .thread) :
    s.threadLoop.Stopping := by
  obtain ⟨hclear, hstarts, hcalling, hfresh, hwaiting⟩ := h
  rcases hpc : s.thread with _ | _ | _ | _ | _ <;> simp only [LoopThread.threadLoop, hpc]
  · -- the first write: the flag is set, which no stop precedes
    have hnot : s.cleared = false := hc rfl hpc
    exact ⟨fun hcl ↦ absurd (hnot.symm.trans hcl) (by decide), hstarts, fun h ↦ (by cases h),
      hfresh, hwaiting⟩
  · refine ⟨hclear, hstarts, fun hnext ↦ ?_, hfresh, hwaiting⟩
    -- the test passes only while nobody cleared the flag
    rcases hrun : s.ctx.running with _ | _
    · simp [hrun] at hnext
    · exact hfresh (Bool.eq_false_iff.2 fun hcl ↦ absurd (hrun.symm.trans (hclear hcl)) (by decide))
  · have hzero := hcalling hpc
    rcases Bool.eq_false_or_eq_true s.cleared with hcl | hcl
    · rw [if_pos hcl, hzero]
      exact ⟨hclear, Nat.le_refl 1, fun h ↦ (by cases h), fun h ↦ absurd (hcl.symm.trans h)
        (by decide), hwaiting⟩
    · rw [if_neg (by rw [hcl]; decide)]
      exact ⟨hclear, hstarts, fun h ↦ (by cases h), fun _ ↦ hzero, hwaiting⟩
  · exact ⟨hclear, hstarts, fun h ↦ (by cases h), hfresh, hwaiting⟩
  · exact ⟨hclear, hstarts, hcalling, hfresh, hwaiting⟩

/-- A turn of the owner. -/
theorem Stopping.clear_flag (h : s.Stopping) : s.clear.Stopping where
  clear _ := rfl
  starts := h.starts
  calling := h.calling
  fresh hc := by cases hc
  waiting _ := rfl

theorem Stopping.stop (h : s.Stopping) : s.stop.Stopping := by
  rcases ho : s.owner with _ | _ | _ <;> simp only [LoopThread.stop, ho]
  · exact h.clear_flag
  · exact h
  · exact h

theorem Stopping.destroy (h : s.Stopping) : s.destroy.Stopping := by
  rcases ho : s.owner with _ | _ | _ <;> simp only [LoopThread.destroy, ho]
  · obtain ⟨hclear, hstarts, hcalling, hfresh, -⟩ := h.clear_flag
    exact ⟨hclear, hstarts, hcalling, hfresh, fun _ ↦ rfl⟩
  · split
    · exact ⟨h.clear, h.starts, h.calling, h.fresh, fun hw ↦ (by cases hw)⟩
    · exact h
  · exact h

/-- **The step of the induction.** -/
theorem Stopping.step (h : s.Stopping) (hc : s.StartsInTime t) : (s.step t).Stopping := by
  cases t with
  | thread => exact h.threadLoop hc
  | stop => exact h.stop
  | destroy => exact h.destroy

/-- A thread that starts after a stop sets the flag again. -/
theorem startsInTime_of_neverUndone (h : (s.step t).NeverUndone) : s.StartsInTime t := by
  rintro rfl hpc
  refine Bool.eq_false_iff.2 fun hcl ↦ ?_
  have hstep : s.step .thread = { s with ctx.running := true, thread := .testing } := by
    show s.threadLoop = _
    simp only [LoopThread.threadLoop, hpc]
  rw [hstep] at h
  cases (h.stopped hcl).1

/-- **When a stop holds.** In every state of a schedule it does, exactly when in no turn of it the
thread runs for the first time after the owner cleared the flag. -/
theorem neverUndone_iff (routine : Routine) (timeout : Int32) (turns : List Turn) :
    (∀ n, ((create routine timeout).run (turns.take n)).NeverUndone) ↔
      Along (fun _ ↦ True) step StartsInTime (create routine timeout) turns :=
  forall_take_iff_of_invariant (fun _ h ↦ h.neverUndone) (fun _ _ _ h hc ↦ h.step hc)
    (fun _ _ _ _ h ↦ startsInTime_of_neverUndone h) turns _ (stopping_create routine timeout)

/-- The owner destroys the thread before it runs, the thread starts, and the owner waits for a
thread that is not told to end. -/
theorem stop_overwritten : ¬∀ (routine : Routine) (timeout : Int32) (turns : List Turn) (n : ℕ),
    ((create routine timeout).run (turns.take n)).NeverUndone := by
  intro h
  have hwaiting := (h .keepaliveRoutine 1000 [.destroy, .thread] 2).waiting
  exact absurd (hwaiting (by decide)) (by decide)

/-! ### The same functions in the request handlers -/

variable {σ : Type} {rt : Runtime} {w : World σ}

/-- Where `saiagent_thread_create` returns a context, it is the one a schedule starts from. -/
theorem create_eq_created {routine : Routine} {timeout : Int32} {i : ℕ} {w' : World σ}
    (h : EStateM.run (saiagentThreadCreate rt routine .loop timeout) w = .ok (some i) w') :
    w'.state.threads[i]? = some ⟨(create routine timeout).ctx, false, false⟩ := by
  rw [run_saiagentThreadCreate] at h
  split at h
  · cases h
    exact List.getElem?_concat_length
  · cases h

/-- What `saiagent_thread_stop` and `saiagent_thread_destroy` do to the flag of a context in the
heap is the owner's first step. -/
theorem clear_eq_stopped (slot : ThreadSlot) (hs : s.ctx = slot.ctx) :
    s.clear.ctx = slot.stopped.ctx := by
  rw [LoopThread.clear, ThreadSlot.stopped, hs]

end LoopThread

end SaiAgent
