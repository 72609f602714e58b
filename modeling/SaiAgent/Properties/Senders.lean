import SaiAgent.Library.Refinement
import SaiAgent.Model.Senders

/-!
# Sends of several threads

However the library calls of several threads in `saiagent_ipc_send` are interleaved, no thread
notices the others: the whole is a run of the machine in which a call is made in one step
(`linearization`), the step that decides it. No library looks at memory that is not in use, and no
message is left behind (`sends_linearize`).
-/

namespace SaiAgent

open Effects Effects.Run

/-! ### Sends in one step -/

/-- The call, when its library calls end like this. -/
def SendCall.send (c : SendCall) (o : SendOutcome) : Rc × Option NlSent :=
  saiagentIpcSend o c.msg c.msgSize c.type c.pid c.seq

/-- The message of a call before its attribute. -/
def SendCall.header (c : SendCall) : NlSent := ⟨c.type, c.pid, c.seq, none⟩

/-- The message of a call. -/
def SendCall.message (c : SendCall) : NlSent := ⟨c.type, c.pid, c.seq, c.tlv⟩

theorem SendCall.send_eq (c : SendCall) (o : SendOutcome) :
    c.send o =
      if !o.nlmsgAlloc then
        (rcStatusErr, none)
      else if !o.genlmsgPut then
        (rcStatusErr, none)
      else if c.tlv.isSome ∧ 0 ≠ o.nlaPut then
        (rcStatusErr, none)
      else if o.nlSendAuto < 0 then
        (rcStatusErr, none)
      else
        (rcStatusOk, some c.message) := rfl

/-- What a call sends is its message. -/
theorem SendCall.send_eq_message {c : SendCall} {o : SendOutcome} {m : NlSent}
    (h : m ∈ (c.send o).2) : m = c.message := by
  rw [SendCall.send_eq] at h
  split at h
  · cases h
  · split at h
    · cases h
    · split at h
      · cases h
      · split at h
        · cases h
        · cases h
          rfl

/-- The calls still to be decided, and what was decided. -/
@[ext] structure Atomic (ι : Type) where
  calls : ι → List SendCall
  returned : ι → List Rc
  wire : List (ι × NlSent)

variable {ι : Type} [DecidableEq ι]

namespace Atomic

/-- Before the first call. -/
def start (calls : ι → List SendCall) : Atomic ι := ⟨calls, fun _ ↦ [], []⟩

/-- A thread makes its next call. -/
def step (a : Atomic ι) (k : ι × SendOutcome) : Atomic ι :=
  match a.calls k.1 with
  | [] => a
  | call :: rest =>
    { calls := Function.update a.calls k.1 rest
      returned := Function.update a.returned k.1 (a.returned k.1 ++ [(call.send k.2).1])
      wire := a.wire ++ (call.send k.2).2.toList.map fun m ↦ (k.1, m) }

theorem step_of_calls {a : Atomic ι} {i : ι} {call : SendCall} {rest : List SendCall}
    (h : a.calls i = call :: rest) (o : SendOutcome) :
    a.step (i, o) =
      { calls := Function.update a.calls i rest
        returned := Function.update a.returned i (a.returned i ++ [(call.send o).1])
        wire := a.wire ++ (call.send o).2.toList.map fun m ↦ (i, m) } := by
  rw [step, h]

end Atomic

/-! ### What a state of the threads amounts to -/

/-- The calls that are not decided. -/
def Sender.pending (me : Sender) : List SendCall :=
  match me.pc with
  | .nlmsgFree _ _ => me.calls.tail
  | _ => me.calls

/-- What is decided. -/
def Sender.answered (me : Sender) : List Rc :=
  match me.pc with
  | .nlmsgFree _ status => me.returned ++ [status]
  | _ => me.returned

namespace Channel

variable {s : Channel ι} {t : SendTurn ι} {i j : ι} {me : Sender} {call : SendCall}
  {rest : List SendCall} {returned : List Rc} {h : Handle}

/-- What the threads have decided. -/
def abs (s : Channel ι) : Atomic ι where
  calls := Sender.pending ∘ s.senders
  returned := Sender.answered ∘ s.senders
  wire := s.wire

omit [DecidableEq ι] in
theorem abs_start (calls : ι → List SendCall) : (start calls).abs = Atomic.start calls := rfl

/-- A thread goes on without a decision. -/
theorem abs_become (hme : me.pending = (s.senders i).pending)
    (hret : me.answered = (s.senders i).answered) : (s.become i me).abs = s.abs := by
  have hcalls : Function.update (Sender.pending ∘ s.senders) i me.pending =
      Sender.pending ∘ s.senders := by
    rw [hme]
    exact Function.update_eq_self i _
  have hreturned : Function.update (Sender.answered ∘ s.senders) i me.answered =
      Sender.answered ∘ s.senders := by
    rw [hret]
    exact Function.update_eq_self i _
  ext1
  · exact (Function.comp_update ..).trans hcalls
  · exact (Function.comp_update ..).trans hreturned
  · rfl

/-- A thread goes on with a decision. -/
theorem abs_become_step {o : SendOutcome} {s' : Channel ι} (hs : s'.senders = s.senders)
    (hcalls : (s.senders i).pending = call :: rest) (hme : me.pending = rest)
    (hret : me.answered = (s.senders i).answered ++ [(call.send o).1])
    (hwire : s'.wire = s.wire ++ (call.send o).2.toList.map fun m ↦ (i, m)) :
    (s'.become i me).abs = s.abs.step (i, o) := by
  rw [Atomic.step_of_calls (a := s.abs) hcalls]
  ext1
  · show Sender.pending ∘ Function.update s'.senders i me = _
    rw [Function.comp_update, hs, hme]
    rfl
  · show Sender.answered ∘ Function.update s'.senders i me = _
    rw [Function.comp_update, hs, hret]
    rfl
  · exact hwire

end Channel

/-! ### The memory -/

/-- The message a thread is at. -/
def SendPc.handle : SendPc → Option Handle
  | .nlmsgAlloc => none
  | .genlmsgPut h => some h
  | .nlaPut h _ => some h
  | .nlSendAuto h => some h
  | .nlmsgFree h _ => some h

/-- The message of the call is in memory as far as the thread has composed it. -/
def SendPc.Composed (heap : Handle → Option (Option NlSent)) (call : SendCall) : SendPc → Prop
  | .nlmsgAlloc => True
  | .genlmsgPut h => heap h = some none
  | .nlaPut h data => heap h = some (some call.header) ∧ call.tlv = some data
  | .nlSendAuto h => heap h = some (some call.message)
  | .nlmsgFree h _ => heap h ≠ none

variable {heap heap' : Handle → Option (Option NlSent)} {call : SendCall} {pc : SendPc} {h : Handle}

theorem SendPc.Composed.ne_none (hc : pc.Composed heap call) (hh : pc.handle = some h) :
    heap h ≠ none := by
  cases pc with
  | nlmsgAlloc => cases hh
  | genlmsgPut h' =>
    cases hh
    rw [show heap h = _ from hc]
    exact Option.some_ne_none _
  | nlaPut h' data =>
    cases hh
    rw [hc.1]
    exact Option.some_ne_none _
  | nlSendAuto h' =>
    cases hh
    rw [show heap h = _ from hc]
    exact Option.some_ne_none _
  | nlmsgFree h' status =>
    cases hh
    exact hc

/-- It depends on the thread's own message only. -/
theorem SendPc.Composed.congr (hc : pc.Composed heap call)
    (hh : ∀ h, pc.handle = some h → heap' h = heap h) : pc.Composed heap' call := by
  cases pc with
  | nlmsgAlloc => trivial
  | genlmsgPut h => exact (hh h rfl).trans hc
  | nlaPut h data => exact ⟨(hh h rfl).trans hc.1, hc.2⟩
  | nlSendAuto h => exact (hh h rfl).trans hc
  | nlmsgFree h status =>
    show heap' h ≠ none
    rw [hh h rfl]
    exact hc

namespace Channel

variable {s : Channel ι} {t : SendTurn ι} {i j : ι} {me : Sender} {rest : List SendCall}
  {returned : List Rc}

/-- The memory in use is the messages the threads are at, each thread's its own. -/
structure Sound (s : Channel ι) : Prop where
  tame : s.wild = false
  composed : ∀ i call rest, (s.senders i).calls = call :: rest →
    (s.senders i).pc.Composed s.heap call
  between : ∀ i, (s.senders i).calls = [] → (s.senders i).pc = .nlmsgAlloc
  used : ∀ h, s.heap h ≠ none → ∃ i, (s.senders i).pc.handle = some h
  apart : ∀ i j h, (s.senders i).pc.handle = some h → (s.senders j).pc.handle = some h → i = j

omit [DecidableEq ι] in
theorem sound_start (calls : ι → List SendCall) : (start calls).Sound where
  tame := rfl
  composed _ _ _ _ := trivial
  between _ _ := rfl
  used _ hne := absurd rfl hne
  apart _ _ _ hi := by cases hi

omit [DecidableEq ι] in
/-- What a thread is at is in use. -/
theorem Sound.ne_none (hs : s.Sound) (hh : (s.senders i).pc.handle = some h) : s.heap h ≠ none := by
  rcases hcalls : (s.senders i).calls with _ | ⟨call, rest⟩
  · rw [hs.between i hcalls] at hh
    cases hh
  · exact (hs.composed i call rest hcalls).ne_none hh

omit [DecidableEq ι] in
/-- A library that looks behind a thread's pointer finds memory in use. -/
theorem Sound.touch_eq (hs : s.Sound) (hh : (s.senders i).pc.handle = some h) : s.touch h = s := by
  have hsome : (s.heap h).isNone = false := by
    rw [Option.isNone_eq_false_iff, Option.isSome_iff_ne_none]
    exact hs.ne_none hh
  rw [touch, hsome, Bool.or_false]

/-- **A thread's turn**, which may change its own message and take one that is not in use. -/
theorem Sound.update (hs : s.Sound) {me : Sender} {wire : List (ι × NlSent)}
    (hcomposed : ∀ call rest, me.calls = call :: rest → me.pc.Composed heap call)
    (hbetween : me.calls = [] → me.pc = .nlmsgAlloc)
    (hheap : ∀ h, heap h ≠ s.heap h → (s.senders i).pc.handle = some h ∨ s.heap h = none)
    (hhandle : ∀ h, me.pc.handle = some h → (s.senders i).pc.handle = some h ∨ s.heap h = none)
    (hused : ∀ h, heap h ≠ none → me.pc.handle = some h ∨
      (s.senders i).pc.handle ≠ some h ∧ heap h = s.heap h) :
    Sound ⟨Function.update s.senders i me, heap, wire, s.wild⟩ := by
  -- What another thread is at is neither this thread's nor free.
  have hother : ∀ j h, j ≠ i → (s.senders j).pc.handle = some h →
      ¬((s.senders i).pc.handle = some h ∨ s.heap h = none) := by
    rintro j h hj hh (hi | hnone)
    · exact hj (hs.apart j i h hh hi)
    · exact hs.ne_none hh hnone
  refine ⟨hs.tame, ?_, ?_, ?_, ?_⟩
  · intro j call rest hcalls
    by_cases hj : j = i
    · subst hj
      simp only [Function.update_self] at hcalls ⊢
      exact hcomposed call rest hcalls
    · simp only [Function.update_of_ne hj] at hcalls ⊢
      exact (hs.composed j call rest hcalls).congr fun h hh ↦
        not_not.1 fun hne ↦ hother j h hj hh (hheap h hne)
  · intro j hcalls
    by_cases hj : j = i
    · subst hj
      simp only [Function.update_self] at hcalls ⊢
      exact hbetween hcalls
    · simp only [Function.update_of_ne hj] at hcalls ⊢
      exact hs.between j hcalls
  · intro h hne
    rcases hused h hne with hme | ⟨hnot, heq⟩
    · exact ⟨i, by simpa using hme⟩
    · obtain ⟨j, hj⟩ := hs.used h (heq ▸ hne)
      have hji : j ≠ i := fun hji ↦ hnot (hji ▸ hj)
      exact ⟨j, by simpa [Function.update_of_ne hji] using hj⟩
  · intro j k h hj hk
    by_cases hji : j = i
    · subst hji
      by_cases hki : k = j
      · exact hki.symm
      · simp only [Function.update_self] at hj
        simp only [Function.update_of_ne hki] at hk
        exact absurd (hhandle h hj) (hother k h hki hk)
    · simp only [Function.update_of_ne hji] at hj
      by_cases hki : k = i
      · subst hki
        simp only [Function.update_self] at hk
        exact absurd (hhandle h hk) (hother j h hji hj)
      · simp only [Function.update_of_ne hki] at hk
        exact hs.apart j k h hj hk

/-- A thread that stays at its message and changes that only. -/
theorem Sound.compose (hs : s.Sound) {pc : SendPc} {v : Option (Option NlSent)}
    {wire : List (ι × NlSent)} (hh : (s.senders i).pc.handle = some h) (hpc : pc.handle = some h)
    (hcomposed : pc.Composed (Function.update s.heap h v) call) :
    Sound ⟨Function.update s.senders i ⟨pc, call :: rest, returned⟩, Function.update s.heap h v,
      wire, s.wild⟩ := by
  refine hs.update (fun call' rest' hcalls ↦ ?_) (fun hnil ↦ by cases hnil) (fun h' hne ↦ ?_)
    (fun h' hh' ↦ Or.inl (hh.trans (hpc.symm.trans hh'))) fun h' _ ↦ ?_
  · cases hcalls
    exact hcomposed
  · by_cases hh' : h' = h
    · exact Or.inl (hh' ▸ hh)
    · exact absurd (Function.update_of_ne hh' ..) hne
  · by_cases hh' : h' = h
    · exact Or.inl (hh' ▸ hpc)
    · refine Or.inr ⟨fun hi ↦ hh' ?_, Function.update_of_ne hh' ..⟩
      exact Option.some.inj (hi.symm.trans hh)

/-- A thread that stays at its message and leaves it as it is. -/
theorem Sound.advance (hs : s.Sound) {pc : SendPc} {wire : List (ι × NlSent)}
    (hh : (s.senders i).pc.handle = some h) (hpc : pc.handle = some h)
    (hcomposed : pc.Composed s.heap call) :
    Sound ⟨Function.update s.senders i ⟨pc, call :: rest, returned⟩, s.heap, wire, s.wild⟩ := by
  have hsame := Function.update_eq_self h s.heap
  have hsound := @Sound.compose ι _ call h s i rest returned hs pc (s.heap h) wire hh hpc
    (by rwa [hsame])
  rwa [hsame] at hsound

/-! ### One turn -/

/-- What a turn decides. -/
def decided (s : Channel ι) (t : SendTurn ι) : SendPc → Option SendOutcome
  | .nlmsgAlloc => if s.available t.ptr = none then some ⟨false, true, 0, 0⟩ else none
  | .genlmsgPut _ => if t.ptr = none then some ⟨true, false, 0, 0⟩ else none
  | .nlaPut _ _ => if 0 ≠ t.rc then some ⟨true, true, t.rc, 0⟩ else none
  | .nlSendAuto _ => some ⟨true, true, 0, t.rc⟩
  | .nlmsgFree _ _ => none

/-- The calls a turn decides. -/
def decides (s : Channel ι) (t : SendTurn ι) : List (ι × SendOutcome) :=
  match (s.senders t.thread).calls with
  | [] => []
  | _ :: _ => (s.decided t (s.senders t.thread).pc).toList.map fun o ↦ (t.thread, o)

/-- The state is sound, and it is what the decided calls lead to. -/
def Follows (s : Channel ι) (ks : List (ι × SendOutcome)) (s' : Channel ι) : Prop :=
  s'.Sound ∧ s'.abs = exec (fun _ ↦ True) Atomic.step s.abs ks

/-- A turn that decides nothing. -/
theorem follows_nil {s' : Channel ι} (hsound : s'.Sound) (habs : s'.abs = s.abs) :
    s.Follows [] s' :=
  ⟨hsound, habs⟩

/-- A turn that decides a call. -/
theorem follows_singleton {s' : Channel ι} {o : SendOutcome} (hsound : s'.Sound)
    (habs : s'.abs = s.abs.step (i, o)) : s.Follows [(i, o)] s' :=
  ⟨hsound, by rw [exec_cons_of_live trivial, exec_nil, habs]⟩

/-- The thread whose turn it is. -/
structure At (s : Channel ι) (i : ι) (call : SendCall) (rest : List SendCall) (returned : List Rc)
    (pc : SendPc) : Prop where
  sound : s.Sound
  sender : s.senders i = ⟨pc, call :: rest, returned⟩

omit [DecidableEq ι] in
theorem At.composed (hat : s.At i call rest returned pc) : pc.Composed s.heap call := by
  have hcomposed := hat.sound.composed i call rest (by rw [hat.sender])
  rwa [hat.sender] at hcomposed

omit [DecidableEq ι] in
theorem At.handle (hat : s.At i call rest returned pc) (hh : pc.handle = some h) :
    (s.senders i).pc.handle = some h := by
  rw [hat.sender]
  exact hh

omit [DecidableEq ι] in
theorem At.touch_eq (hat : s.At i call rest returned pc) (hh : pc.handle = some h) :
    s.touch h = s :=
  hat.sound.touch_eq (hat.handle hh)

/-- A call that fails is over but for the message. -/
theorem At.fail (hat : s.At i call rest returned pc) (hh : pc.handle = some h) {o : SendOutcome}
    (hpending : (s.senders i).pending = call :: rest)
    (hanswered : (s.senders i).answered = returned) (ho : call.send o = (rcStatusErr, none)) :
    s.Follows [(i, o)] (s.become i ⟨.nlmsgFree h rcStatusErr, call :: rest, returned⟩) := by
  refine follows_singleton (hat.sound.advance (hat.handle hh) rfl ?_)
    (abs_become_step rfl hpending rfl ?_ ?_)
  · exact hat.composed.ne_none hh
  · rw [hanswered, ho]
    rfl
  · rw [ho]
    exact (List.append_nil _).symm

theorem follows_nlmsgAlloc (hat : s.At t.thread call rest returned .nlmsgAlloc) :
    s.Follows ((s.decided t .nlmsgAlloc).toList.map fun o ↦ (t.thread, o))
      (s.sendStep t call rest returned .nlmsgAlloc) := by
  rw [decided, sendStep]
  rcases hav : s.available t.ptr with _ | h
  · rw [if_pos rfl]
    refine follows_singleton ?_ (abs_become_step rfl (congrArg Sender.pending hat.sender) rfl ?_
      (List.append_nil _).symm)
    · refine hat.sound.update (fun _ _ _ ↦ trivial) (fun _ ↦ rfl) (fun h hne ↦ absurd rfl hne)
        (fun h hh ↦ by cases hh) fun h _ ↦ Or.inr ⟨?_, rfl⟩
      rw [hat.sender]
      exact (Option.some_ne_none h).symm
    · rw [hat.sender]
      rfl
  · rw [if_neg (Option.some_ne_none h)]
    have hfree : s.heap h = none := by
      have := (Option.filter_eq_some_iff.1 hav).2
      simpa using this
    refine follows_nil ?_ ?_
    · refine hat.sound.update (fun _ _ _ ↦ Function.update_self ..) (fun hnil ↦ by cases hnil)
        (fun h' hne ↦ ?_) (fun h' hh' ↦ ?_) fun h' hne ↦ ?_
      · by_cases hh' : h' = h
        · exact Or.inr (hh' ▸ hfree)
        · exact absurd (Function.update_of_ne hh' ..) hne
      · cases hh'
        exact Or.inr hfree
      · by_cases hh' : h' = h
        · exact Or.inl (hh' ▸ rfl)
        · refine Or.inr ⟨?_, Function.update_of_ne hh' ..⟩
          rw [hat.sender]
          exact (Option.some_ne_none h').symm
    · exact abs_become (s := s.store h (some none))
        (congrArg Sender.pending hat.sender).symm (congrArg Sender.answered hat.sender).symm

theorem follows_genlmsgPut (hat : s.At t.thread call rest returned (.genlmsgPut h)) :
    s.Follows ((s.decided t (.genlmsgPut h)).toList.map fun o ↦ (t.thread, o))
      (s.sendStep t call rest returned (.genlmsgPut h)) := by
  have hpending := congrArg Sender.pending hat.sender
  have hanswered := congrArg Sender.answered hat.sender
  rw [decided, sendStep, hat.touch_eq rfl]
  by_cases hptr : t.ptr = none
  · rw [if_pos hptr, if_pos hptr]
    exact hat.fail rfl hpending hanswered rfl
  · rw [if_neg hptr, if_neg hptr]
    rcases htlv : call.tlv with _ | data
    · refine follows_nil (hat.sound.compose (hat.handle rfl) rfl ?_)
        (abs_become (s := s.store h _) hpending.symm hanswered.symm)
      show Function.update s.heap h _ h = _
      rw [Function.update_self, SendCall.message, htlv]
    · refine follows_nil (hat.sound.compose (hat.handle rfl) rfl ?_)
        (abs_become (s := s.store h _) hpending.symm hanswered.symm)
      exact ⟨Function.update_self .., htlv⟩

theorem follows_nlaPut {data : List UInt8}
    (hat : s.At t.thread call rest returned (.nlaPut h data)) :
    s.Follows ((s.decided t (.nlaPut h data)).toList.map fun o ↦ (t.thread, o))
      (s.sendStep t call rest returned (.nlaPut h data)) := by
  have hpending := congrArg Sender.pending hat.sender
  have hanswered := congrArg Sender.answered hat.sender
  obtain ⟨hheader, htlv⟩ := hat.composed
  rw [decided, sendStep, hat.touch_eq rfl]
  by_cases hrc : 0 ≠ t.rc
  · rw [if_pos hrc, if_pos hrc]
    have hnla : call.tlv.isSome ∧ 0 ≠ t.rc := ⟨by rw [htlv]; rfl, hrc⟩
    refine hat.fail rfl hpending hanswered ?_
    rw [SendCall.send_eq]
    exact if_pos hnla
  · rw [if_neg hrc, if_neg hrc]
    refine follows_nil (hat.sound.compose (hat.handle rfl) rfl ?_)
      (abs_become (s := s.store h _) hpending.symm hanswered.symm)
    show Function.update s.heap h _ h = _
    rw [Function.update_self, hheader, SendCall.message, htlv]
    rfl

theorem follows_nlSendAuto (hat : s.At t.thread call rest returned (.nlSendAuto h)) :
    s.Follows ((s.decided t (.nlSendAuto h)).toList.map fun o ↦ (t.thread, o))
      (s.sendStep t call rest returned (.nlSendAuto h)) := by
  have hpending := congrArg Sender.pending hat.sender
  have hanswered := congrArg Sender.answered hat.sender
  have hmessage : s.heap h = some (some call.message) := hat.composed
  have hnla : ¬(call.tlv.isSome ∧ (0 : Int32) ≠ 0) := fun hne ↦ hne.2 rfl
  rw [decided, sendStep, hat.touch_eq rfl]
  by_cases hrc : t.rc < 0
  · rw [if_pos hrc]
    refine hat.fail rfl hpending hanswered ?_
    rw [SendCall.send_eq]
    exact (if_neg hnla).trans (if_pos hrc)
  · rw [if_neg hrc]
    have hsend : call.send ⟨true, true, 0, t.rc⟩ = (rcStatusOk, some call.message) := by
      rw [SendCall.send_eq]
      exact (if_neg hnla).trans (if_neg hrc)
    refine follows_singleton (hat.sound.advance (hat.handle rfl) rfl ?_)
      (abs_become_step rfl hpending rfl ?_ ?_)
    · exact hat.composed.ne_none rfl
    · rw [hanswered, hsend]
      rfl
    · rw [hsend, emit, hmessage]
      rfl

theorem follows_nlmsgFree {status : Rc}
    (hat : s.At t.thread call rest returned (.nlmsgFree h status)) :
    s.Follows ((s.decided t (.nlmsgFree h status)).toList.map fun o ↦ (t.thread, o))
      (s.sendStep t call rest returned (.nlmsgFree h status)) := by
  rw [decided, sendStep, hat.touch_eq rfl]
  refine follows_nil ?_ (abs_become (s := s.store h none)
    (congrArg Sender.pending hat.sender).symm (congrArg Sender.answered hat.sender).symm)
  have hhandle := hat.handle rfl
  refine hat.sound.update (fun _ _ _ ↦ trivial) (fun _ ↦ rfl) (fun h' hne ↦ ?_)
    (fun h' hh' ↦ by cases hh') fun h' hne ↦ ?_
  · by_cases hh' : h' = h
    · exact Or.inl (hh' ▸ hhandle)
    · exact absurd (Function.update_of_ne hh' ..) hne
  · by_cases hh' : h' = h
    · subst hh'
      exact absurd (Function.update_self ..) hne
    · refine Or.inr ⟨fun hi ↦ hh' ?_, Function.update_of_ne hh' ..⟩
      exact Option.some.inj (hi.symm.trans hhandle)

/-- **One turn** is what it decides. -/
theorem follows_step (hs : s.Sound) (t : SendTurn ι) : s.Follows (s.decides t) (s.step t) := by
  rw [decides, step]
  rcases hcalls : (s.senders t.thread).calls with _ | ⟨call, rest⟩
  · exact follows_nil hs rfl
  have hat : s.At t.thread call rest (s.senders t.thread).returned (s.senders t.thread).pc :=
    ⟨hs, by rw [← hcalls]⟩
  dsimp only
  generalize (s.senders t.thread).returned = returned at hat
  generalize (s.senders t.thread).pc = pc at hat
  cases pc with
  | nlmsgAlloc => exact follows_nlmsgAlloc hat
  | genlmsgPut h => exact follows_genlmsgPut hat
  | nlaPut h data => exact follows_nlaPut hat
  | nlSendAuto h => exact follows_nlSendAuto hat
  | nlmsgFree h status => exact follows_nlmsgFree hat

/-- **The threads refine the machine that sends in one step.** -/
def linearization (ι : Type) [DecidableEq ι] :
    Refinement (fun _ : Channel ι ↦ True) step (fun _ : Atomic ι ↦ True) Atomic.step where
  inv := Sound
  abs := abs
  pass := decides
  inv_step _ t _ hs := (follows_step hs t).1
  abs_step _ t _ hs := (follows_step hs t).2

/-- **Sends do not disturb each other.** Whatever the threads send and however their library calls
are interleaved, what was sent and what was returned is as if each call had been made in one step,
in some order; and the memory in use is the message each thread in the midst of a call is at. -/
theorem sends_linearize (calls : ι → List SendCall) (turns : List (SendTurn ι)) :
    (run (start calls) turns).Sound ∧ ∃ ks : List (ι × SendOutcome),
      (run (start calls) turns).abs = exec (fun _ ↦ True) Atomic.step (Atomic.start calls) ks :=
  ⟨(linearization ι).inv_exec (sound_start calls) turns, _,
    (linearization ι).exec (sound_start calls) turns⟩

end Channel

end SaiAgent
