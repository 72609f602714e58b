import SaiAgent.Properties.LoopRefinement
import SaiAgent.Properties.Returning

/-!
# Messages the agent cannot use

A message that does not parse, has no TLV attribute, or one that does not fit the receive buffer is
refused, and so is all that a failing receive call hands over. Where a receive call that succeeds
always hands over a message, an iteration that hears nothing usable leaves no trace but the error in
the receive record, which the next message overwrites: without these iterations the loop does and
sends the same (`unusable_ignored`). A call that succeeds without a message is different: it makes
the loop look at that error.
-/

namespace SaiAgent

open Effects Effects.Run

variable {σ : Type} {E : SaiBackend σ} {st st' : LoopState σ} {i : LoopInput}

/-- The iteration is handed a message it can use. -/
def LoopInput.Usable (i : LoopInput) : Prop :=
  accepted (UInt64.ofNat saiagentMsgMaxSize) i.recv.batch ≠ []

instance : DecidablePred LoopInput.Usable := fun i ↦
  decidable_of_iff (¬(accepted (UInt64.ofNat saiagentMsgMaxSize) i.recv.batch).isEmpty = true)
    (not_congr List.isEmpty_iff)

/-- A receive call that succeeds has handed over a message. -/
def LoopInput.Delivers (i : LoopInput) : Prop := i.recv.batch = [] → i.recv.rc ≠ 0

/-! ### The receive record -/

/-- The record with no error in it. -/
def SaiagentNlRecvMsg.cleared (m : SaiagentNlRecvMsg) : SaiagentNlRecvMsg :=
  { m with err := rcStatusOk }

/-- The callback does not look at the error. -/
theorem nlIpcHandleRecvMsgCb_cleared (recv : SaiagentNlRecvMsg) (m : NlMsg) :
    nlIpcHandleRecvMsgCb recv.cleared m = nlIpcHandleRecvMsgCb recv m := rfl

/-- Records that differ in the error only become one with the first message. -/
theorem foldl_nlIpcHandleRecvMsgCb_congr {recv recv' : SaiagentNlRecvMsg}
    (h : recv.cleared = recv'.cleared) {batch : List NlMsg} (hne : batch ≠ []) :
    batch.foldl nlIpcHandleRecvMsgCb recv = batch.foldl nlIpcHandleRecvMsgCb recv' := by
  obtain ⟨m, batch, rfl⟩ := List.exists_cons_of_ne_nil hne
  rw [List.foldl_cons, List.foldl_cons, ← nlIpcHandleRecvMsgCb_cleared recv, h,
    nlIpcHandleRecvMsgCb_cleared]

/-- Messages that are all refused leave the record as it was, but for the error. -/
theorem foldl_nlIpcHandleRecvMsgCb_of_refused {batch : List NlMsg} (recv : SaiagentNlRecvMsg)
    (h : accepted recv.size batch = []) :
    (batch.foldl nlIpcHandleRecvMsgCb recv).cleared = recv.cleared := by
  induction batch generalizing recv with
  | nil => rfl
  | cons m batch ih =>
    rw [accepted, List.filterMap_cons] at h
    cases hm : acceptedRequest recv.size m with
    | some r =>
      rw [hm] at h
      cases h
    | none =>
      rw [hm] at h
      rw [List.foldl_cons, nlIpcHandleRecvMsgCb_of_refused hm]
      exact ih { recv with err := rcStatusErr } h

/-! ### Iterations -/

/-- The loops differ in the error of the record and in their logs only. -/
structure AlikeBut (st st' : LoopState σ) : Prop where
  sound : st.Sound
  inMsg : st.inMsg.cleared = st'.inMsg.cleared
  outBuf : st.outBuf = st'.outBuf
  world : st.world = st'.world
  crashed : st.crashed = st'.crashed

theorem AlikeBut.live_iff (h : AlikeBut st st') : st.Live ↔ st'.Live := by
  rw [LoopState.Live, LoopState.Live, h.world, h.crashed]

/-- An iteration that is handed nothing usable dispatches nothing. -/
theorem LoopState.Sound.not_received (h : st.Sound) (hi : i.Delivers) (hu : ¬i.Usable) :
    ¬Received st i := by
  intro hrecv
  obtain ⟨hnil, -⟩ | ⟨batch, m, hcons, hm⟩ := h.received_cases hrecv
  · exact hi hnil hrecv.1
  · refine hu fun hnone ↦ ?_
    have hmem : (stored st i).request ∈
        accepted (UInt64.ofNat saiagentMsgMaxSize) i.recv.batch := by
      rw [accepted, hcons]
      exact List.mem_filterMap.2 ⟨m, List.mem_append_right _ List.mem_cons_self, hm⟩
    rw [hnone] at hmem
    cases hmem

/-- It leaves the loop alike. -/
theorem AlikeBut.hidden (h : AlikeBut st st') (hi : i.Delivers) (hu : ¬i.Usable) :
    AlikeBut (loopBody E st i) st' := by
  have hbody := loopBody_of_not_received (E := E) (h.sound.not_received hi hu)
  have hstored : (stored st i).cleared = st.inMsg.cleared := by
    refine foldl_nlIpcHandleRecvMsgCb_of_refused st.inMsg ?_
    rw [h.sound.size]
    exact not_not.1 hu
  refine ⟨h.sound.step, ?_, ?_, ?_, ?_⟩
  · rw [hbody]
    exact hstored.trans h.inMsg
  · rw [hbody]
    exact h.outBuf
  · rw [hbody]
    exact h.world
  · rw [hbody]
    exact h.crashed

/-- A usable message is stored in the same way, whatever the error was. -/
theorem AlikeBut.stored_eq (h : AlikeBut st st') (hu : i.Usable) : stored st i = stored st' i :=
  foldl_nlIpcHandleRecvMsgCb_congr h.inMsg fun hnil ↦ hu (by rw [hnil]; rfl)

theorem AlikeBut.received_iff (h : AlikeBut st st') (hu : i.Usable) :
    Received st i ↔ Received st' i := by
  rw [Received, Received, h.stored_eq hu]

theorem AlikeBut.processed_eq (h : AlikeBut st st') (hu : i.Usable) :
    processed E st i = processed E st' i := by
  rw [processed, processed, h.stored_eq hu, h.outBuf, h.world]

/-- Loops that are alike stay alike when they hear the same. -/
theorem AlikeBut.kept (h : AlikeBut st st') (hu : i.Usable) :
    AlikeBut (loopBody E st i) (loopBody E st' i) := by
  have hsound : (loopBody E st i).Sound := h.sound.step
  have hstored := congrArg SaiagentNlRecvMsg.cleared (h.stored_eq hu)
  by_cases hrecv : Received st i
  · have hrecv' := (h.received_iff hu).1 hrecv
    cases hrun : processed E st i with
    | error f w =>
      rw [loopBody_of_fault hrecv' (h.processed_eq hu ▸ hrun)]
      rw [loopBody_of_fault hrecv hrun] at hsound ⊢
      exact ⟨hsound, hstored, h.outBuf, rfl, rfl⟩
    | ok reply w =>
      rw [loopBody_of_reply hrecv' (h.processed_eq hu ▸ hrun)]
      rw [loopBody_of_reply hrecv hrun] at hsound ⊢
      exact ⟨hsound, hstored, rfl, rfl, h.crashed⟩
  · rw [loopBody_of_not_received fun hrecv' ↦ hrecv ((h.received_iff hu).2 hrecv')]
    rw [loopBody_of_not_received hrecv] at hsound ⊢
    exact ⟨hsound, hstored, h.outBuf, h.world, h.crashed⟩

/-- What an iteration does with a usable message. -/
theorem AlikeBut.iterationLog_eq (h : AlikeBut st st') (hu : i.Usable) :
    iterationLog E st i = iterationLog E st' i := by
  rw [iterationLog, iterationLog, h.stored_eq hu, h.processed_eq hu]
  exact if_congr (h.received_iff hu) rfl rfl

/-! ### Runs -/

/-- The iterations without a usable message are hidden. -/
theorem hides_unusable (E : SaiBackend σ) :
    Hides LoopState.Live (loopBody E) LoopInput.Usable LoopInput.Delivers AlikeBut where
  live_iff _ _ h := h.live_iff
  hidden _ _ _ _ h hi hu := h.hidden hi hu
  kept _ _ _ _ h _ hu := h.kept hu

/-- What is read off the log of a run, if a hidden iteration does not show in it. -/
theorem log_unusable {O : Type} (f : IterationLog → List O)
    (hf : ∀ batch, f ⟨batch, [], []⟩ = []) (h : AlikeBut st st) (hlog : st.log = [])
    {is : List LoopInput} (hi : ∀ i ∈ is, i.Delivers) :
    (saiagentIpcEnterLoop E st is).log.flatMap f =
      (saiagentIpcEnterLoop E st (is.filter fun i ↦ i.Usable)).log.flatMap f := by
  rw [log_enterLoop hlog, log_enterLoop hlog, flatMap_outputs, flatMap_outputs]
  refine (hides_unusable E).outputs_filter ?_ ?_ h hi
  · intro st st' i _ h hi hu
    rw [List.flatMap_singleton, iterationLog, if_neg (h.sound.not_received hi hu)]
    exact hf _
  · intro st st' i _ h _ hu
    rw [h.iterationLog_eq hu]

/-- **Unusable messages are ignored.** If every receive call that succeeds hands over a message, the
loop reaches the same agent, dispatches the same requests and sends the same replies without the
iterations that are handed nothing it can use. -/
theorem unusable_ignored (E : SaiBackend σ) (inBuf outBuf : MsgBuffer) (stack : StackRecord)
    (w : World σ) {is : List LoopInput} (hi : ∀ i ∈ is, i.Delivers) :
    (saiagentIpcEnterLoop E (loopStart inBuf outBuf stack w) is).session =
      (saiagentIpcEnterLoop E (loopStart inBuf outBuf stack w)
        (is.filter fun i ↦ i.Usable)).session ∧
    (saiagentIpcEnterLoop E (loopStart inBuf outBuf stack w) is).log.flatMap (·.dispatched) =
      (saiagentIpcEnterLoop E (loopStart inBuf outBuf stack w)
        (is.filter fun i ↦ i.Usable)).log.flatMap (·.dispatched) ∧
    (saiagentIpcEnterLoop E (loopStart inBuf outBuf stack w) is).log.flatMap (·.sent) =
      (saiagentIpcEnterLoop E (loopStart inBuf outBuf stack w)
        (is.filter fun i ↦ i.Usable)).log.flatMap (·.sent) := by
  have hstart : AlikeBut (loopStart inBuf outBuf stack w) (loopStart inBuf outBuf stack w) :=
    ⟨sound_loopStart .., rfl, rfl, rfl, rfl⟩
  have hend := (hides_unusable E).exec_filter hstart hi
  refine ⟨congrArg₂ Session.mk hend.world hend.crashed, ?_, ?_⟩
  · exact log_unusable _ (fun _ ↦ rfl) hstart rfl hi
  · exact log_unusable _ (fun _ ↦ rfl) hstart rfl hi

/-- A message without the attribute. -/
def bareMsg : NlMsg := ⟨0, none, 9, 0⟩

/-- A message with one word, that no handler is registered for. -/
def wordMsg : NlMsg := ⟨0, some ⟨[0, 0, 0, 0], by decide⟩, 9, 1⟩

/-- The iteration that receives a message and can send. -/
def hearing (m : NlMsg) : LoopInput := ⟨⟨[m], 0⟩, Runtime.calm 0, ⟨true, true, 0, 0⟩⟩

/-- The message without the attribute is ignored, whatever comes before and after it. -/
theorem unusable_ignored_bareMsg :
    (saiagentIpcEnterLoop calmSai (loopStart ⟨zeroBuffer, length_zeroBuffer⟩
      ⟨zeroBuffer, length_zeroBuffer⟩ ⟨0, 0, 0, 0⟩ (Session.start ()).world)
        [hearing wordMsg, hearing bareMsg, hearing wordMsg]).log.flatMap (·.sent) =
      (saiagentIpcEnterLoop calmSai (loopStart ⟨zeroBuffer, length_zeroBuffer⟩
        ⟨zeroBuffer, length_zeroBuffer⟩ ⟨0, 0, 0, 0⟩ (Session.start ()).world)
          ([hearing wordMsg, hearing bareMsg, hearing wordMsg].filter
            fun i ↦ i.Usable)).log.flatMap (·.sent) :=
  (unusable_ignored calmSai ⟨zeroBuffer, length_zeroBuffer⟩ ⟨zeroBuffer, length_zeroBuffer⟩
    ⟨0, 0, 0, 0⟩ (Session.start ()).world (by simp [hearing, LoopInput.Delivers])).2.2

end SaiAgent
