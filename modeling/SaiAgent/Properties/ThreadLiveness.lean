import SaiAgent.Library.Fairness
import SaiAgent.Properties.ThreadLoop

/-!
# What becomes of a stopped thread

Schedules that never end, in which the thread gets its turn again and again. Then a thread goes on
calling its routine for ever unless the owner cleared the flag after it had started
(`calls_forever_iff`), and an owner in `saiagent_thread_destroy` comes out of it exactly when it did
so (`destroy_returns_iff`): otherwise it waits in `pthread_join` for ever, with the thread calling
its routine.
-/

namespace SaiAgent.LoopThread

open Effects Effects.Schedule Filter

variable {s : LoopThread} {t : Turn} {ω : ℕ → Turn} {routine : Routine} {timeout : Int32} {n m : ℕ}

/-- The thread and its owner before the `n`th turn. -/
abbrev atTurn (s : LoopThread) (ω : ℕ → Turn) (n : ℕ) : LoopThread :=
  stateAt LoopThread.step ω s n

/-- The thread calls its routine. -/
def Calls (s : LoopThread) (t : Turn) : Prop := t = .thread ∧ s.thread = .calling

/-- The owner clears the flag. -/
def Clears (s : LoopThread) (t : Turn) : Prop := t ≠ .thread ∧ s.owner = .free

/-- No thread is told to end that has started. -/
def ClearsEarly (s : LoopThread) (t : Turn) : Prop := s.Clears t → s.thread = .created

/-! ### A thread that is told to end -/

/-- The thread has started, and the flag is clear. -/
structure Told (s : LoopThread) : Prop where
  clear : s.ctx.running = false
  started : s.thread ≠ .created

/-- How far the thread is from its end. -/
def toEnd : ThreadPc → ℕ
  | .created => 4
  | .calling => 3
  | .sleeping => 2
  | .testing => 1
  | .ended => 0

/-- The owner leaves the thread where it is. -/
theorem thread_step_of_ne (ht : t ≠ .thread) : (s.step t).thread = s.thread := by
  rcases t with _ | _ | _
  · exact absurd rfl ht
  · show s.stop.thread = s.thread
    rcases ho : s.owner with _ | _ | _ <;> simp only [LoopThread.stop, ho, LoopThread.clear]
  · show s.destroy.thread = s.thread
    rcases ho : s.owner with _ | _ | _ <;> simp only [LoopThread.destroy, ho, LoopThread.clear]
    split <;> rfl

/-- The owner leaves the flag as it is, or clears it. -/
theorem running_step_of_ne (ht : t ≠ .thread) :
    (s.step t).ctx.running = if s.owner = .free then false else s.ctx.running := by
  rcases t with _ | _ | _
  · exact absurd rfl ht
  · show s.stop.ctx.running = _
    rcases ho : s.owner with _ | _ | _ <;> simp [LoopThread.stop, ho, LoopThread.clear]
  · show s.destroy.ctx.running = _
    rcases ho : s.owner with _ | _ | _ <;> simp [LoopThread.destroy, ho, LoopThread.clear]
    split <;> rfl

theorem told_of_clears (hc : s.Clears t) (hs : s.thread ≠ .created) : (s.step t).Told where
  clear := by rw [running_step_of_ne hc.1, if_pos hc.2]
  started := by rwa [thread_step_of_ne hc.1]

/-- It comes nearer to its end with each of its turns. -/
theorem Told.threadLoop (h : s.Told) :
    s.threadLoop.Told ∧ (s.thread = .ended ∨ toEnd s.threadLoop.thread < toEnd s.thread) := by
  obtain ⟨hclear, hstarted⟩ := h
  rcases hpc : s.thread with _ | _ | _ | _ | _ <;> simp only [LoopThread.threadLoop, hpc]
  · exact absurd hpc hstarted
  · rw [if_neg (by rw [hclear]; decide)]
    exact ⟨⟨hclear, fun h ↦ by cases h⟩, Or.inr (by decide)⟩
  · exact ⟨⟨hclear, fun h ↦ by cases h⟩, Or.inr (by decide)⟩
  · exact ⟨⟨hclear, fun h ↦ by cases h⟩, Or.inr (by decide)⟩
  · exact ⟨⟨hclear, by rw [hpc]; decide⟩, Or.inl trivial⟩

theorem Told.step (h : s.Told) (t : Turn) :
    (s.step t).Told ∧ toEnd (s.step t).thread ≤ toEnd s.thread := by
  by_cases ht : t = .thread
  · subst ht
    refine ⟨h.threadLoop.1, ?_⟩
    rcases h.threadLoop.2 with hend | hlt
    · show toEnd s.threadLoop.thread ≤ _
      simp only [LoopThread.threadLoop, hend]
      exact Nat.le_refl _
    · exact hlt.le
  · refine ⟨⟨?_, ?_⟩, ?_⟩
    · rw [running_step_of_ne ht, h.clear, ite_self]
    · rw [thread_step_of_ne ht]
      exact h.started
    · rw [thread_step_of_ne ht]

/-- **A thread that is told to end ends.** -/
theorem Told.eventually_ended (hfair : Fair ω .thread) (h : (s.atTurn ω n).Told) :
    ∃ m, n ≤ m ∧ (s.atTurn ω m).thread = .ended :=
  eventually_of_rank (P := Told) (G := fun (s : LoopThread) _ ↦ s.thread = .ended) hfair meets_true
    (fun s : LoopThread ↦ toEnd s.thread) (fun _ u _ hs ↦ Or.inr (hs.step u))
    (fun _ _ hs ↦ hs.threadLoop.2) h

theorem thread_step_of_ended (h : s.thread = .ended) (t : Turn) : (s.step t).thread = .ended := by
  by_cases ht : t = .thread
  · subst ht
    show s.threadLoop.thread = _
    simp only [LoopThread.threadLoop, h]
  · rw [thread_step_of_ne ht, h]

/-- A thread that has ended calls no more. -/
theorem not_calls_of_ended (h : (s.atTurn ω n).thread = .ended) :
    ¬∃ᶠ m in atTop, (s.atTurn ω m).Calls (ω m) := by
  intro hcalls
  obtain ⟨m, hm, hcall⟩ := frequently_atTop.1 hcalls n
  have hend : (s.atTurn ω m).thread = .ended :=
    stays (P := fun s : LoopThread ↦ s.thread = .ended) meets_true
      (fun _ t _ hs ↦ thread_step_of_ended hs t) h hm
  rw [hcall.2] at hend
  cases hend

/-! ### A thread that is not -/

/-- The thread is in its loop, and the flag is set. -/
structure Looping (s : LoopThread) : Prop where
  set : s.ctx.running = true
  loop : s.thread = .testing ∨ s.thread = .calling ∨ s.thread = .sleeping

/-- How far the thread is from its next call. -/
def toCall : ThreadPc → ℕ
  | .sleeping => 2
  | .testing => 1
  | _ => 0

theorem Looping.threadLoop (h : s.Looping) :
    s.threadLoop.Looping ∧
      (s.thread = .calling ∨ toCall s.threadLoop.thread < toCall s.thread) := by
  obtain ⟨hset, hpc | hpc | hpc⟩ := h <;> simp only [LoopThread.threadLoop, hpc]
  · rw [if_pos hset]
    exact ⟨⟨hset, Or.inr (Or.inl rfl)⟩, Or.inr (by decide)⟩
  · exact ⟨⟨hset, Or.inr (Or.inr rfl)⟩, Or.inl trivial⟩
  · exact ⟨⟨hset, Or.inl rfl⟩, Or.inr (by decide)⟩

theorem Looping.step (h : s.Looping) (hc : s.ClearsEarly t) :
    (s.step t).Looping ∧ (s.Calls t ∨ toCall (s.step t).thread ≤ toCall s.thread) := by
  by_cases ht : t = .thread
  · subst ht
    exact ⟨h.threadLoop.1, h.threadLoop.2.imp (fun hpc ↦ ⟨rfl, hpc⟩) Nat.le_of_lt⟩
  · have hfree : s.owner ≠ .free := fun ho ↦ by
      have hcreated := hc ⟨ht, ho⟩
      rcases h.loop with hpc | hpc | hpc <;> rw [hpc] at hcreated <;> cases hcreated
    refine ⟨⟨?_, ?_⟩, Or.inr ?_⟩
    · rw [running_step_of_ne ht, if_neg hfree, h.set]
    · rw [thread_step_of_ne ht]
      exact h.loop
    · rw [thread_step_of_ne ht]

/-- **A thread that is not told to end goes on for ever.** -/
theorem Looping.frequently_calls (hfair : Fair ω .thread)
    (hC : Meets LoopThread.step ω ClearsEarly s) (h : (s.atTurn ω n).Looping) :
    ∃ᶠ m in atTop, (s.atTurn ω m).Calls (ω m) :=
  frequently_of_rank (P := Looping) hfair hC (fun s : LoopThread ↦ toCall s.thread)
    (fun _ _ hc hs ↦ (hs.step hc).1) (fun _ _ hc hs ↦ (hs.step hc).2)
    (fun _ _ hs ↦ hs.threadLoop.2.imp_left fun hpc ↦ ⟨rfl, hpc⟩) h

/-- The thread's first turn comes. -/
theorem eventually_looping (hfair : Fair ω .thread) (h : (s.atTurn ω n).thread = .created) :
    ∃ m, n ≤ m ∧ (s.atTurn ω m).Looping := by
  obtain ⟨m, hm, hcreated, hturn⟩ := eventually_of_rank
    (P := fun s : LoopThread ↦ s.thread = .created)
    (G := fun (s : LoopThread) t ↦ s.thread = .created ∧ t = .thread) hfair meets_true (fun _ ↦ 0)
    (fun s u _ hs ↦ by
      by_cases hu : u = .thread
      · exact Or.inl ⟨hs, hu⟩
      · exact Or.inr ⟨(thread_step_of_ne hu).trans hs, le_rfl⟩)
    (fun _ _ hs ↦ Or.inl ⟨hs, rfl⟩) h
  refine ⟨m + 1, by omega, ?_⟩
  show ((s.atTurn ω m).step (ω m)).Looping
  rw [hturn]
  show (s.atTurn ω m).threadLoop.Looping
  simp only [LoopThread.threadLoop, hcreated]
  exact ⟨rfl, Or.inl rfl⟩

/-! ### For ever, or not -/

/-- **The thread calls its routine for ever** exactly when the owner never clears the flag of a
thread that has started. -/
theorem calls_forever_iff (routine : Routine) (timeout : Int32) (hfair : Fair ω .thread) :
    (∃ᶠ n in atTop, ((create routine timeout).atTurn ω n).Calls (ω n)) ↔
      ∀ n, ((create routine timeout).atTurn ω n).Clears (ω n) →
        ((create routine timeout).atTurn ω n).thread = .created := by
  constructor
  · intro hcalls n hclears
    by_contra hstarted
    have htold : ((create routine timeout).atTurn ω (n + 1)).Told :=
      told_of_clears hclears hstarted
    obtain ⟨m, -, hended⟩ := htold.eventually_ended hfair
    exact not_calls_of_ended hended hcalls
  · intro hearly
    obtain ⟨m, -, hloop⟩ := eventually_looping (n := 0) (s := create routine timeout) hfair rfl
    exact hloop.frequently_calls hfair hearly

/-- How far the owner is from having destroyed the thread. -/
def toJoin : OwnerPc → ℕ
  | .free => 2
  | .joining => 1
  | .joined => 0

theorem toJoin_step (s : LoopThread) (t : Turn) : toJoin (s.step t).owner ≤ toJoin s.owner := by
  rcases t with _ | _ | _
  · show toJoin s.threadLoop.owner ≤ _
    rcases hpc : s.thread with _ | _ | _ | _ | _ <;> simp only [LoopThread.threadLoop, hpc] <;>
      exact le_rfl
  · show toJoin s.stop.owner ≤ _
    rcases hpc : s.owner with _ | _ | _ <;> simp only [LoopThread.stop, hpc, LoopThread.clear] <;>
      exact le_rfl
  · show toJoin s.destroy.owner ≤ _
    rcases hpc : s.owner with _ | _ | _ <;> simp only [LoopThread.destroy, hpc, LoopThread.clear]
    · decide
    · split
      · exact Nat.zero_le _
      · rw [hpc]
    · exact le_rfl

/-- Two turns alternating. -/
def byTurns (first second : Turn) (n : ℕ) : Turn := if n % 2 = 0 then first else second

theorem fair_byTurns_first (first second : Turn) : Fair (byTurns first second) first :=
  frequently_atTop.2 fun n ↦ ⟨2 * n, by omega, if_pos (by omega)⟩

theorem fair_byTurns_second (first second : Turn) : Fair (byTurns first second) second :=
  frequently_atTop.2 fun n ↦ ⟨2 * n + 1, by omega, if_neg (by omega)⟩

/-- Destroyed before its first turn, the thread calls its routine for ever. -/
theorem calls_forever_destroyed : ∃ᶠ n in atTop,
    ((create .keepaliveRoutine 1000).atTurn (byTurns .destroy .thread) n).Calls
      (byTurns .destroy .thread n) := by
  refine (calls_forever_iff .keepaliveRoutine 1000
    (fair_byTurns_second .destroy .thread)).2 fun n hc ↦ ?_
  rcases n with _ | n
  · rfl
  · have hbusy : toJoin ((create .keepaliveRoutine 1000).atTurn (byTurns .destroy .thread)
        (n + 1)).owner ≤ 1 :=
      stays (n := 1) (P := fun s : LoopThread ↦ toJoin s.owner ≤ 1) meets_true
        (fun s t _ hs ↦ (toJoin_step s t).trans hs) (by decide) (by omega)
    rw [hc.2] at hbusy
    exact absurd hbusy (by decide)

/-- The owner comes out of `pthread_join` only where the thread has ended. -/
theorem ended_of_joined (hs : s.owner = .joined → s.thread = .ended) (t : Turn) :
    (s.step t).owner = .joined → (s.step t).thread = .ended := by
  intro hjoined
  by_cases ho : s.owner = .joined
  · exact thread_step_of_ended (hs ho) t
  rcases t with _ | _ | _
  · have hkeep : s.threadLoop.owner = s.owner := by
      rcases hpc : s.thread with _ | _ | _ | _ | _ <;> simp only [LoopThread.threadLoop, hpc]
    exact absurd (hkeep.symm.trans hjoined) ho
  · have hkeep : s.stop.owner = s.owner := by
      rcases hpc : s.owner with _ | _ | _ <;> simp only [LoopThread.stop, hpc, LoopThread.clear]
    exact absurd (hkeep.symm.trans hjoined) ho
  · change s.destroy.owner = _ at hjoined
    show s.destroy.thread = _
    rcases hpc : s.owner with _ | _ | _
    · simp only [LoopThread.destroy, hpc] at hjoined
      cases hjoined
    · simp only [LoopThread.destroy, hpc] at hjoined ⊢
      split at hjoined
      · next hend => rw [if_pos hend, hend]
      · exact absurd hjoined ho
    · exact absurd hpc ho

/-- With the thread at its end, each turn in `saiagent_thread_destroy` gets on. -/
theorem toJoin_destroy (h : s.thread = .ended) :
    s.owner = .joined ∨ toJoin (s.step .destroy).owner < toJoin s.owner := by
  show _ ∨ toJoin s.destroy.owner < _
  rcases hpc : s.owner with _ | _ | _ <;> simp only [LoopThread.destroy, hpc]
  · exact Or.inr (by decide)
  · rw [if_pos h]
    exact Or.inr Nat.zero_lt_one
  · exact Or.inl trivial

/-- **`saiagent_thread_destroy` returns** exactly when the owner clears the flag of a thread that
has started. -/
theorem destroy_returns_iff (routine : Routine) (timeout : Int32) (hthread : Fair ω .thread)
    (howner : Fair ω .destroy) :
    (∃ n, ((create routine timeout).atTurn ω n).owner = .joined) ↔
      ∃ n, ((create routine timeout).atTurn ω n).Clears (ω n) ∧
        ((create routine timeout).atTurn ω n).thread ≠ .created := by
  constructor
  · rintro ⟨n, hjoined⟩
    by_contra hnot
    have hearly : ∀ n, ((create routine timeout).atTurn ω n).Clears (ω n) →
        ((create routine timeout).atTurn ω n).thread = .created := fun n hc ↦
      not_not.1 fun hstarted ↦ hnot ⟨n, hc, hstarted⟩
    have hended := stays (n := 0) (m := n) (ω := ω) (s := create routine timeout)
      (P := fun s : LoopThread ↦ s.owner = .joined → s.thread = .ended) meets_true
      (fun _ t _ hs ↦ ended_of_joined hs t) (fun h ↦ by cases h) (Nat.zero_le n)
    exact not_calls_of_ended (hended hjoined) ((calls_forever_iff routine timeout hthread).2 hearly)
  · rintro ⟨n, hclears, hstarted⟩
    have htold : ((create routine timeout).atTurn ω (n + 1)).Told :=
      told_of_clears hclears hstarted
    obtain ⟨m, -, hended⟩ := htold.eventually_ended hthread
    obtain ⟨k, -, hjoined⟩ := eventually_of_rank (P := fun s : LoopThread ↦ s.thread = .ended)
      (G := fun (s : LoopThread) _ ↦ s.owner = .joined) howner meets_true
      (fun s : LoopThread ↦ toJoin s.owner)
      (fun s u _ hs ↦ Or.inr ⟨thread_step_of_ended hs u, toJoin_step s u⟩)
      (fun _ _ hs ↦ toJoin_destroy hs) hended
    exact ⟨k, hjoined⟩

/-- Destroyed after its first turn, the thread is joined. -/
theorem destroy_returns_started :
    ∃ n, ((create .keepaliveRoutine 1000).atTurn (byTurns .thread .destroy) n).owner = .joined :=
  (destroy_returns_iff .keepaliveRoutine 1000 (fair_byTurns_first .thread .destroy)
    (fair_byTurns_second .thread .destroy)).2 ⟨1, ⟨by decide, rfl⟩, by decide⟩

end SaiAgent.LoopThread
