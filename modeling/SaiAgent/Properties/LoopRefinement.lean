import SaiAgent.Library.Refinement
import SaiAgent.Model.Session
import SaiAgent.Properties.Delivery

/-!
# The receive loop as a session

What the agent does to the switch does not depend on how requests arrive: an iteration of the
receive loop either handles one request as a session does, or leaves the session alone
(`loopRefinement`). So the state a run of the loop reaches is the state of a session on the requests
that were dispatched, and what it sends are that session's replies under the headers of their
requests, as far as sending worked (`enterLoop_refines`). Every invariant of sessions is one of the
loop.
-/

namespace SaiAgent

open Effects Effects.Run

variable {σ : Type} {E : SaiBackend σ} {st : LoopState σ} {i : LoopInput}

/-! ### Serving requests -/

/-- A request that is handled: as the session sees it, whose it is, and how sending its reply
goes. -/
structure Served where
  input : SessionInput
  pid : UInt32
  seq : UInt32
  send : SendOutcome

/-- The request as it was received. -/
def Served.request (k : Served) : Request :=
  ⟨k.pid, k.seq, k.input.buf.bytes.take k.input.size.toNat⟩

/-- A session that serves a request. -/
def serve (E : SaiBackend σ) (s : Session σ) (k : Served) : Session σ := s.step E k.input

/-- What leaves the agent for a request: the reply, if there is one and it can be sent. -/
def answers (E : SaiBackend σ) (s : Session σ) (k : Served) : List NlSent :=
  match Session.handle E s.world k.input with
  | .ok reply _ => if k.send.Works then [⟨.reply, k.pid, k.seq, some reply.payload⟩] else []
  | .error _ _ => []

/-! ### Buffers -/

/-- A buffer that starts with these bytes. -/
def MsgBuffer.fit (b : List UInt8) : MsgBuffer where
  bytes := (b ++ List.replicate saiagentMsgMaxSize 0).take saiagentMsgMaxSize
  length_eq := by simp

theorem MsgBuffer.bytes_fit {b : List UInt8} (h : b.length = saiagentMsgMaxSize) :
    (MsgBuffer.fit b).bytes = b :=
  List.take_left' h

theorem length_nlIpcHandleRecvMsgCb (recv : SaiagentNlRecvMsg) (m : NlMsg) :
    (nlIpcHandleRecvMsgCb recv m).buf.length = recv.buf.length := by
  unfold nlIpcHandleRecvMsgCb
  split
  · rfl
  · split
    · rfl
    · next tlv _ =>
      split
      · rfl
      · next hle =>
        -- A message that is taken is shorter than the buffer.
        have hlt := UInt64.lt_iff_toNat_lt.1 (UInt64.not_le.1 hle)
        have htlv := tlv.length_lt
        have hsize := recv.size_le
        rw [UInt64.toNat_ofNat'] at hlt
        rw [List.length_append, List.length_drop]
        omega

theorem length_stored : (stored st i).buf.length = st.inMsg.buf.length := by
  rw [stored]
  generalize st.inMsg = recv
  induction i.recv.batch generalizing recv with
  | nil => rfl
  | cons m batch ih => rw [List.foldl_cons, ih, length_nlIpcHandleRecvMsgCb]

/-- The loop's buffers are whole. -/
structure LoopState.Whole (st : LoopState σ) : Prop extends st.Sound where
  inBuf : st.inMsg.buf.length = saiagentMsgMaxSize

theorem whole_loopStart (inBuf outBuf : MsgBuffer) (stack : StackRecord) (w : World σ) :
    (loopStart inBuf outBuf stack w).Whole :=
  ⟨sound_loopStart inBuf outBuf stack w, inBuf.length_eq⟩

theorem LoopState.Whole.step (h : st.Whole) : (loopBody E st i).Whole := by
  refine ⟨h.toSound.step, ?_⟩
  have hstored : (stored st i).buf.length = saiagentMsgMaxSize := length_stored.trans h.inBuf
  by_cases hrecv : Received st i
  · cases hrun : processed E st i with
    | error f w =>
      rw [loopBody_of_fault hrecv hrun]
      exact hstored
    | ok reply w =>
      rw [loopBody_of_reply hrecv hrun]
      exact hstored
  · rw [loopBody_of_not_received hrecv]
    exact hstored

/-! ### One iteration -/

instance (st : LoopState σ) (i : LoopInput) : Decidable (Received st i) :=
  inferInstanceAs (Decidable (_ ∧ _))

/-- The session inside the loop. -/
def LoopState.session (st : LoopState σ) : Session σ := ⟨st.world, st.crashed⟩

/-- The request an iteration hands over. -/
def servedBy (st : LoopState σ) (i : LoopInput) : Served where
  input :=
    { buf := MsgBuffer.fit (stored st i).buf
      size := (stored st i).payloadSize
      out := MsgBuffer.fit (st.outBuf.getD [])
      rt := i.rt }
  pid := (stored st i).pid
  seq := (stored st i).seq
  send := i.send

/-- What an iteration hands over. -/
def handsOver (st : LoopState σ) (i : LoopInput) : List Served :=
  if Received st i then [servedBy st i] else []

/-- It is handled as in the session. -/
theorem LoopState.Whole.handle_servedBy (h : st.Whole) :
    Session.handle E st.session.world (servedBy st i).input = processed E st i := by
  obtain ⟨b, hb, hlen⟩ := h.out
  rw [Session.handle, processed, servedBy, hb, Option.getD_some]
  simp only [MsgBuffer.bytes_fit hlen, MsgBuffer.bytes_fit (length_stored.trans h.inBuf)]
  rfl

theorem LoopState.Whole.request_servedBy (h : st.Whole) :
    (servedBy st i).request = (stored st i).request := by
  rw [Served.request, servedBy, MsgBuffer.bytes_fit (length_stored.trans h.inBuf)]
  rfl

/-- **The loop refines the session that serves what it hands over.** -/
def loopRefinement (E : SaiBackend σ) :
    Refinement LoopState.Live (loopBody E) Session.Live (serve E) where
  inv := LoopState.Whole
  abs := LoopState.session
  pass := handsOver
  inv_step _ _ _ h := h.step
  abs_step st i hl h := by
    have hlive : st.session.Live := hl
    by_cases hrecv : Received st i
    · rw [handsOver, if_pos hrecv, exec_cons_of_live hlive, exec_nil, serve]
      cases hrun : processed E st i with
      | error f w =>
        rw [loopBody_of_fault hrecv hrun, Session.step, h.handle_servedBy, hrun]
        rfl
      | ok reply w =>
        rw [loopBody_of_reply hrecv hrun, Session.step, h.handle_servedBy, hrun]
        exact congrArg (Session.mk w) hl.2
    · rw [handsOver, if_neg hrecv, exec_nil, loopBody_of_not_received hrecv]
      rfl

/-! ### The log -/

/-- What an iteration logs. -/
def iterationLog (E : SaiBackend σ) (st : LoopState σ) (i : LoopInput) : IterationLog :=
  if Received st i then
    ⟨i.recv.batch, [(stored st i).request],
      match processed E st i with
      | .ok reply _ => (saiagentIpcSend i.send reply.buff reply.payloadSize .reply
          (stored st i).request.pid (stored st i).request.seq).2.toList
      | .error _ _ => []⟩
  else
    ⟨i.recv.batch, [], []⟩

theorem log_loopBody : (loopBody E st i).log = st.log ++ [iterationLog E st i] := by
  rw [iterationLog]
  by_cases hrecv : Received st i
  · rw [if_pos hrecv]
    cases hrun : processed E st i with
    | error f w => rw [loopBody_of_fault hrecv hrun]
    | ok reply w => rw [loopBody_of_reply hrecv hrun]
  · rw [if_neg hrecv, loopBody_of_not_received hrecv]

/-- The log of a run, from the start of the loop. -/
theorem log_enterLoop (h : st.log = []) (is : List LoopInput) :
    (saiagentIpcEnterLoop E st is).log =
      outputs LoopState.Live (loopBody E) (fun st i ↦ [iterationLog E st i]) st is := by
  have hlog : (saiagentIpcEnterLoop E st is).log = st.log ++ _ :=
    log_exec is fun st i _ ↦ log_loopBody
  rwa [h] at hlog

theorem dispatched_iterationLog (h : st.Whole) :
    (iterationLog E st i).dispatched = (handsOver st i).map Served.request := by
  rw [iterationLog, handsOver]
  by_cases hrecv : Received st i
  · rw [if_pos hrecv, if_pos hrecv, List.map_cons, List.map_nil, h.request_servedBy]
  · rw [if_neg hrecv, if_neg hrecv, List.map_nil]

/-- A message with a payload is sent whole, exactly when the library calls succeed. -/
theorem saiagentIpcSend_eq {o : SendOutcome} {msg : List UInt8} {size : UInt64}
    {type : SaiagentNlType} {pid seq : UInt32} (hsize : size > 0) :
    (saiagentIpcSend o (some msg) size type pid seq).2 =
      if o.Works then some ⟨type, pid, seq, some (msg.take size.toNat)⟩ else none := by
  by_cases hw : o.Works
  · obtain ⟨halloc, hput, hnla, hsend⟩ := hw
    rw [if_pos ⟨halloc, hput, hnla, hsend⟩]
    simp [saiagentIpcSend, halloc, hput, hnla, hsend, hsize]
  · rw [if_neg hw, ← Option.not_isSome_iff_eq_none, isSome_saiagentIpcSend_iff hsize]
    exact hw

theorem LoopState.Whole.sent_iterationLog (h : st.Whole) (hl : st.Live) :
    (iterationLog E st i).sent =
      outputs Session.Live (serve E) (answers E) st.session (handsOver st i) := by
  have hlive : st.session.Live := hl
  rw [iterationLog, handsOver]
  by_cases hrecv : Received st i
  · rw [if_pos hrecv, if_pos hrecv, outputs_singleton hlive, answers, h.handle_servedBy]
    cases hrun : processed E st i with
    | error f w => rfl
    | ok reply w =>
      obtain ⟨hreply, hlen⟩ := h.reply hrun
      obtain ⟨b, hb, -⟩ := hreply.buff
      have hsize : reply.payloadSize > 0 := by
        rw [hreply.length_payload] at hlen
        rw [gt_iff_lt, UInt64.lt_iff_toNat_lt]
        exact Nat.lt_of_lt_of_le (by decide) hlen
      dsimp only
      rw [hb, saiagentIpcSend_eq hsize, SaiagentMsg.payload, hb, Option.getD_some]
      by_cases hw : i.send.Works
      · rw [if_pos hw]
        exact (if_pos hw).symm
      · rw [if_neg hw]
        exact (if_neg hw).symm
  · rw [if_neg hrecv, if_neg hrecv, outputs_nil]

/-! ### Runs -/

/-- **A run of the receive loop is a session.** The state it reaches is the session's on the
requests it dispatched, in that order; what it sent are the session's replies, each under the
header of its request, as far as the sends worked. -/
theorem enterLoop_refines (E : SaiBackend σ) (inBuf outBuf : MsgBuffer) (stack : StackRecord)
    (w : World σ) (is : List LoopInput) :
    ∃ ks : List Served,
      (saiagentIpcEnterLoop E (loopStart inBuf outBuf stack w) is).session =
        Session.exec E ⟨w.mapState fun a ↦ a.setRunning true, false⟩ (ks.map Served.input) ∧
      (saiagentIpcEnterLoop E (loopStart inBuf outBuf stack w) is).log.flatMap (·.dispatched) =
        ks.map Served.request ∧
      (saiagentIpcEnterLoop E (loopStart inBuf outBuf stack w) is).log.flatMap (·.sent) =
        outputs Session.Live (serve E) (answers E) ⟨w.mapState fun a ↦ a.setRunning true, false⟩
          ks ∧
      (ks.map fun k ↦ (k.input.rt, k.send)).Sublist (is.map fun i ↦ (i.rt, i.send)) := by
  have hstart := whole_loopStart inBuf outBuf stack w
  have hlog := @log_enterLoop σ E (loopStart inBuf outBuf stack w) rfl is
  refine ⟨(loopRefinement E).passed (loopStart inBuf outBuf stack w) is, ?_, ?_, ?_, ?_⟩
  · rw [Session.exec, ← exec_map]
    exact (loopRefinement E).exec hstart is
  · rw [hlog, flatMap_outputs, Refinement.passed, map_outputs]
    refine outputs_congr (J := LoopState.Whole) (fun _ _ _ h ↦ h.step) (fun st i _ h ↦ ?_) hstart is
    rw [List.flatMap_singleton]
    exact dispatched_iterationLog h
  · rw [hlog, flatMap_outputs]
    refine (loopRefinement E).outputs_eq hstart (fun st i hl h ↦ ?_) is
    rw [List.flatMap_singleton]
    exact h.sent_iterationLog hl
  · rw [Refinement.passed, map_outputs]
    refine outputs_sublist (fun st i ↦ ?_) _ is
    show List.Sublist ((handsOver st i).map _) _
    rw [handsOver]
    split
    · exact List.Sublist.refl _
    · exact List.nil_sublist _

end SaiAgent
