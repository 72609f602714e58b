import SaiAgent.Model.Loop
import SaiAgent.Properties.ReplyLayout
import Mathlib.Data.List.Flatten

/-!
# Delivery

The receive record is written by the callback alone and read by every iteration of the loop. Two
questions about whole runs come out of that, both settled by one inversion of the loop's body
(`loopBody_of_not_received`, `loopBody_of_fault`, `loopBody_of_reply`):

* is a request dispatched or answered more often than it was delivered? `atMostOnce_iff`: in a run
  none is exactly when no iteration's receive call succeeds without invoking the callback while the
  record holds a request from before;
* is every accepted request answered? `noneLost_iff`: iteration by iteration, exactly when the
  iteration accepted nothing, or accepted one request, with its last message, received, handled and
  sent without an error.
-/

namespace SaiAgent

open Effects Effects.Run Effects.Bytes
open scoped List

variable {σ : Type} {E : SaiBackend σ} {st : LoopState σ} {i : LoopInput}

/-! ### What the callback accepts -/

/-- The request in a message the callback accepts: it parses, has the attribute, and the
attribute fits the receive buffer. -/
def acceptedRequest (size : UInt64) (m : NlMsg) : Option Request :=
  if m.genlmsgParse < 0 then
    none
  else
    match m.tlv with
    | none => none
    | some tlv =>
      if UInt64.ofNat tlv.bytes.length ≥ size then none else some ⟨m.pid, m.seq, tlv.bytes⟩

/-- The requests a receive call accepts, in delivery order. -/
def accepted (size : UInt64) (batch : List NlMsg) : List Request :=
  batch.filterMap (acceptedRequest size)

/-- A refused message leaves the record as it was, but for the error. -/
theorem nlIpcHandleRecvMsgCb_of_refused {recv : SaiagentNlRecvMsg} {m : NlMsg}
    (h : acceptedRequest recv.size m = none) :
    nlIpcHandleRecvMsgCb recv m = { recv with err := rcStatusErr } := by
  rw [nlIpcHandleRecvMsgCb]
  by_cases hparse : m.genlmsgParse < 0
  · rw [if_pos hparse]
  · rw [acceptedRequest, if_neg hparse] at h
    rw [if_neg hparse]
    rcases htlv : m.tlv with _ | tlv
    · rfl
    · rw [htlv] at h
      by_cases hlen : UInt64.ofNat tlv.bytes.length ≥ recv.size
      · exact if_pos hlen
      · cases (if_neg hlen).symm.trans h

/-- An accepted message is what the record holds, without an error. -/
theorem nlIpcHandleRecvMsgCb_of_accepted {recv : SaiagentNlRecvMsg} {m : NlMsg} {r : Request}
    (h : acceptedRequest recv.size m = some r) :
    (nlIpcHandleRecvMsgCb recv m).request = r ∧ (nlIpcHandleRecvMsgCb recv m).err = rcStatusOk := by
  rw [nlIpcHandleRecvMsgCb]
  by_cases hparse : m.genlmsgParse < 0
  · rw [acceptedRequest, if_pos hparse] at h
    cases h
  · rw [acceptedRequest, if_neg hparse] at h
    rw [if_neg hparse]
    rcases htlv : m.tlv with _ | tlv
    · rw [htlv] at h
      cases h
    · rw [htlv] at h
      by_cases hle : UInt64.ofNat tlv.bytes.length ≥ recv.size
      · cases (if_pos hle).symm.trans h
      · obtain rfl := Option.some.inj ((if_neg hle).symm.trans h)
        have hlen : (UInt64.ofNat tlv.bytes.length).toNat = tlv.bytes.length := by
          have := tlv.length_lt
          rw [UInt64.toNat_ofNat']
          omega
        simp only [if_neg hle, SaiagentNlRecvMsg.request, hlen, List.take_left', and_self]

@[simp] theorem nlIpcHandleRecvMsgCb_size (recv : SaiagentNlRecvMsg) (m : NlMsg) :
    (nlIpcHandleRecvMsgCb recv m).size = recv.size := by
  unfold nlIpcHandleRecvMsgCb
  split
  · rfl
  · split
    · rfl
    · split <;> rfl

@[simp] theorem foldl_nlIpcHandleRecvMsgCb_size (batch : List NlMsg) (recv : SaiagentNlRecvMsg) :
    (batch.foldl nlIpcHandleRecvMsgCb recv).size = recv.size := by
  induction batch generalizing recv with
  | nil => rfl
  | cons m batch ih => rw [List.foldl_cons, ih, nlIpcHandleRecvMsgCb_size]

/-- **What a receive call leaves in the record** is decided by its last message alone. -/
theorem foldl_nlIpcHandleRecvMsgCb_concat (batch : List NlMsg) (m : NlMsg)
    (recv : SaiagentNlRecvMsg) :
    match acceptedRequest recv.size m with
    | none => ((batch ++ [m]).foldl nlIpcHandleRecvMsgCb recv).err = rcStatusErr
    | some r => ((batch ++ [m]).foldl nlIpcHandleRecvMsgCb recv).request = r ∧
        ((batch ++ [m]).foldl nlIpcHandleRecvMsgCb recv).err = rcStatusOk := by
  have hsize := foldl_nlIpcHandleRecvMsgCb_size batch recv
  rw [List.foldl_append, List.foldl_cons, List.foldl_nil]
  cases h : acceptedRequest recv.size m with
  | none => rw [nlIpcHandleRecvMsgCb_of_refused (by rw [hsize, h])]
  | some r => exact nlIpcHandleRecvMsgCb_of_accepted (by rw [hsize, h])

/-! ### One iteration -/

/-- The record after the iteration's receive call. -/
def stored (st : LoopState σ) (i : LoopInput) : SaiagentNlRecvMsg :=
  i.recv.batch.foldl nlIpcHandleRecvMsgCb st.inMsg

/-- The iteration's receive call is taken for a success. -/
def Received (st : LoopState σ) (i : LoopInput) : Prop :=
  i.recv.rc = 0 ∧ (stored st i).err = rcStatusOk

/-- What `saiagent_ipc_process_req` makes of the record. -/
def processed (E : SaiBackend σ) (st : LoopState σ) (i : LoopInput) :
    EStateM.Result Fault (World σ) SaiagentMsg :=
  EStateM.run (saiagentIpcProcessReq E i.rt (stored st i).buf (stored st i).payloadSize st.outBuf
    (UInt64.ofNat saiagentMsgMaxSize)) st.world

theorem saiagentIpcRecv_of_received (h : Received st i) :
    saiagentIpcRecv i.recv st.inMsg = (rcStatusOk, stored st i) := by
  have hok : ¬(0 ≠ i.recv.rc ∨ 0 ≠ (stored st i).err) := by
    rintro (h₁ | h₁)
    · exact h₁ h.1.symm
    · exact h₁ h.2.symm
  exact congrArg (·, stored st i) (if_neg hok)

theorem saiagentIpcRecv_of_not_received (h : ¬Received st i) :
    saiagentIpcRecv i.recv st.inMsg = (rcStatusErr, stored st i) := by
  have herr : 0 ≠ i.recv.rc ∨ 0 ≠ (stored st i).err := by
    by_cases hrc : i.recv.rc = 0
    · exact Or.inr fun e ↦ h ⟨hrc, e.symm⟩
    · exact Or.inl fun e ↦ hrc e.symm
  exact congrArg (·, stored st i) (if_pos herr)

theorem loopBody_of_not_received (h : ¬Received st i) :
    loopBody E st i =
      { st with inMsg := stored st i, log := st.log ++ [⟨i.recv.batch, [], []⟩] } := by
  have hne : rcStatusOk ≠ rcStatusErr := by decide
  rw [loopBody, saiagentIpcRecv_of_not_received h]
  exact if_pos hne

theorem loopBody_of_fault {f : Fault} {w : World σ} (h : Received st i)
    (hrun : processed E st i = .error f w) :
    loopBody E st i =
      { st with
        inMsg := stored st i
        world := w
        crashed := true
        log := st.log ++ [⟨i.recv.batch, [(stored st i).request], []⟩] } := by
  rw [processed] at hrun
  rw [loopBody, saiagentIpcRecv_of_received h]
  simp only [ne_eq, not_true_eq_false, if_false, hrun]

theorem loopBody_of_reply {reply : SaiagentMsg} {w : World σ} (h : Received st i)
    (hrun : processed E st i = .ok reply w) :
    loopBody E st i =
      { st with
        inMsg := stored st i
        outBuf := reply.buff
        world := w
        log := st.log ++ [⟨i.recv.batch, [(stored st i).request],
          (saiagentIpcSend i.send reply.buff reply.payloadSize .reply (stored st i).request.pid
            (stored st i).request.seq).2.toList⟩] } := by
  rw [processed] at hrun
  rw [loopBody, saiagentIpcRecv_of_received h]
  simp only [ne_eq, not_true_eq_false, if_false, hrun]
  rfl

/-- Whatever the iteration comes to, it goes on with this record. -/
theorem inMsg_loopBody (st : LoopState σ) (i : LoopInput) :
    (loopBody E st i).inMsg = stored st i := by
  by_cases h : Received st i
  · rcases hrun : processed E st i with ⟨reply, w⟩ | ⟨f, w⟩
    · rw [loopBody_of_reply h hrun]
    · rw [loopBody_of_fault h hrun]
  · rw [loopBody_of_not_received h]

/-- All library calls of a send succeed. -/
def SendOutcome.Works (o : SendOutcome) : Prop :=
  o.nlmsgAlloc = true ∧ o.genlmsgPut = true ∧ o.nlaPut = 0 ∧ ¬o.nlSendAuto < 0

instance (o : SendOutcome) : Decidable o.Works := inferInstanceAs (Decidable (_ ∧ _ ∧ _ ∧ _))

/-- What is sent carries the type and the header it was given. -/
theorem saiagentIpcSend_header {o : SendOutcome} {msg : Option (List UInt8)} {size : UInt64}
    {type : SaiagentNlType} {pid seq : UInt32} {s : NlSent}
    (h : (saiagentIpcSend o msg size type pid seq).2 = some s) :
    s.type = type ∧ s.pid = pid ∧ s.seq = seq := by
  unfold saiagentIpcSend at h
  generalize (if size > 0 then msg.map (List.take size.toNat) else none) = tlv at h
  split at h
  · cases h
  · split at h
    · cases h
    · dsimp only at h
      split at h
      · cases h
      · split at h
        · cases h
        · cases h
          exact ⟨rfl, rfl, rfl⟩

/-- A message with a payload is sent exactly when the library calls succeed. -/
theorem isSome_saiagentIpcSend_iff {o : SendOutcome} {msg : List UInt8} {size : UInt64}
    {type : SaiagentNlType} {pid seq : UInt32} (hsize : size > 0) :
    (saiagentIpcSend o (some msg) size type pid seq).2.isSome = true ↔ o.Works := by
  unfold saiagentIpcSend SendOutcome.Works
  simp only [hsize, if_true, Option.map_some, Option.isSome_some, true_and]
  cases o.nlmsgAlloc
  · simp
  · cases o.genlmsgPut
    · simp
    · by_cases hput : o.nlaPut = 0
      · by_cases hsend : o.nlSendAuto < 0
        · simp [hput, hsend]
        · simp [hput, hsend]
      · have hput' : ¬0 = o.nlaPut := fun e ↦ hput e.symm
        simp [hput, hput']

/-! ### The loop's buffers -/

/-- What every iteration finds: the record claims the size the loop gave it, and the reply buffer is
there. -/
structure LoopState.Sound (st : LoopState σ) : Prop where
  size : st.inMsg.size = UInt64.ofNat saiagentMsgMaxSize
  out : ∃ b, st.outBuf = some b ∧ b.length = saiagentMsgMaxSize

theorem sound_loopStart (inBuf outBuf : MsgBuffer) (stack : StackRecord) (w : World σ) :
    (loopStart inBuf outBuf stack w).Sound :=
  ⟨rfl, _, rfl, outBuf.length_eq⟩

theorem LoopState.Sound.stored_size (h : st.Sound) :
    (stored st i).size = UInt64.ofNat saiagentMsgMaxSize :=
  (foldl_nlIpcHandleRecvMsgCb_size _ _).trans h.size

/-- A request that is answered at all is answered in the loop's buffer, with a header at least. -/
theorem LoopState.Sound.reply (h : st.Sound) {reply : SaiagentMsg} {w : World σ}
    (hrun : processed E st i = .ok reply w) : IsReply reply ∧ 8 ≤ reply.payload.length := by
  obtain ⟨b, hb, hlen⟩ := h.out
  have hin : 4 ≤ (stored st i).buf.length := by
    have hle := (stored st i).size_le
    have hmax : (UInt64.ofNat saiagentMsgMaxSize).toNat = 1500 := by decide
    rw [h.stored_size] at hle
    omega
  rw [processed, hb] at hrun
  exact processReq_reply hin hlen hrun

/-- The step lemma of the buffers. -/
theorem LoopState.Sound.step (h : st.Sound) : (loopBody E st i).Sound := by
  by_cases hrecv : Received st i
  · cases hrun : processed E st i with
    | error f w =>
      rw [loopBody_of_fault hrecv hrun]
      exact ⟨h.stored_size, h.out⟩
    | ok reply w =>
      rw [loopBody_of_reply hrecv hrun]
      exact ⟨h.stored_size, (h.reply hrun).1.buff⟩
  · rw [loopBody_of_not_received hrecv]
    exact ⟨h.stored_size, h.out⟩

/-- **Where a dispatched request comes from**: nothing was delivered and the record was free of
errors before, or the last message delivered is the one the record holds. -/
theorem LoopState.Sound.received_cases (h : st.Sound) (hrecv : Received st i) :
    (i.recv.batch = [] ∧ st.inMsg.err = rcStatusOk) ∨
      ∃ batch m, i.recv.batch = batch ++ [m] ∧
        acceptedRequest (UInt64.ofNat saiagentMsgMaxSize) m = some (stored st i).request := by
  obtain ⟨-, herr⟩ := hrecv
  rw [stored] at herr
  rcases i.recv.batch.eq_nil_or_concat with hnil | ⟨batch, m, hcons⟩
  · rw [hnil] at herr
    exact Or.inl ⟨hnil, herr⟩
  · rw [List.concat_eq_append] at hcons
    have hlast := foldl_nlIpcHandleRecvMsgCb_concat batch m st.inMsg
    refine Or.inr ⟨batch, m, hcons, ?_⟩
    rw [h.size, ← hcons] at hlast
    cases hm : acceptedRequest (UInt64.ofNat saiagentMsgMaxSize) m with
    | none =>
      rw [hm] at hlast
      exact absurd (hlast.symm.trans herr) (by decide)
    | some r =>
      rw [hm] at hlast
      rw [stored, hlast.1]

/-! ### No request is executed or answered twice -/

/-- What a reply is matched to its request by. -/
def Request.header (r : Request) : UInt32 × UInt32 := (r.pid, r.seq)

/-- The header of a sent message. -/
def NlSent.header (s : NlSent) : UInt32 × UInt32 := (s.pid, s.seq)

/-- The requests an iteration's own receive call accepted. -/
def IterationLog.accepted (e : IterationLog) : List Request :=
  SaiAgent.accepted (UInt64.ofNat saiagentMsgMaxSize) e.delivered

/-- The iteration works on what it received itself. -/
structure IterationLog.Fresh (e : IterationLog) : Prop where
  /-- What it dispatched, the callback stored during the same iteration. -/
  dispatched : e.dispatched <+ e.accepted
  /-- What it sent answers what it dispatched. -/
  sent : e.sent.map NlSent.header <+ e.dispatched.map Request.header
  /-- Having received nothing, it sends nothing. -/
  silent : e.delivered = [] → e.sent = []

/-- Every iteration is fresh, and over the run no request is dispatched or answered more often
than it was delivered. -/
structure AtMostOnce (log : List IterationLog) : Prop where
  fresh : ∀ e ∈ log, e.Fresh
  dispatches : ∀ header, ((log.flatMap (·.dispatched)).map Request.header).count header ≤
    ((log.flatMap (·.accepted)).map Request.header).count header
  replies : ∀ header, ((log.flatMap (·.sent)).map NlSent.header).count header ≤
    ((log.flatMap (·.accepted)).map Request.header).count header

/-- The counts over a run follow from its iterations. -/
theorem atMostOnce_iff_fresh {log : List IterationLog} :
    AtMostOnce log ↔ ∀ e ∈ log, e.Fresh := by
  refine ⟨AtMostOnce.fresh, fun h ↦ ⟨h, fun header ↦ ?_, fun header ↦ ?_⟩⟩
  · have hsub := List.Sublist.flatMap_right log fun e he ↦ (h e he).dispatched
    exact (hsub.map _).count_le _
  · have hsub := List.Sublist.flatMap_right log fun e he ↦
      (h e he).sent.trans ((h e he).dispatched.map _)
    rw [List.map_flatMap, List.map_flatMap]
    exact hsub.count_le _

/-- The receive call failed, or ran the callback, or the record held an error. -/
def NotStale (st : LoopState σ) (i : LoopInput) : Prop :=
  i.recv.rc ≠ 0 ∨ i.recv.batch ≠ [] ∨ st.inMsg.err ≠ rcStatusOk

/-- An iteration that dispatched what its record holds is fresh exactly when it is not stale. -/
theorem LoopState.Sound.fresh_iff (h : st.Sound) (hrecv : Received st i) {sent : List NlSent}
    (hsent : sent.map NlSent.header <+ [(stored st i).request.header]) :
    (⟨i.recv.batch, [(stored st i).request], sent⟩ : IterationLog).Fresh ↔ NotStale st i := by
  constructor
  · intro hf
    have hmem := List.singleton_sublist.1 hf.dispatched
    refine Or.inr (Or.inl ?_)
    rintro hnil
    rw [IterationLog.accepted, hnil] at hmem
    cases hmem
  · intro hstale
    rcases h.received_cases hrecv with ⟨hnil, herr⟩ | ⟨batch, m, hcons, hm⟩
    · rcases hstale with hrc | hne | he
      · exact absurd hrecv.1 hrc
      · exact absurd hnil hne
      · exact absurd herr he
    · refine ⟨List.singleton_sublist.2 ?_, hsent, ?_⟩
      · refine List.mem_filterMap.2 ⟨m, ?_, hm⟩
        rw [hcons]
        exact List.mem_concat_self
      · intro hnil
        rw [hcons] at hnil
        exact absurd hnil (by simp)

/-- The header of what an iteration sent is its request's. -/
theorem headers_sent {o : SendOutcome} {msg : Option (List UInt8)} {size : UInt64}
    {type : SaiagentNlType} {r : Request} :
    ((saiagentIpcSend o msg size type r.pid r.seq).2.toList).map NlSent.header <+ [r.header] := by
  cases hs : (saiagentIpcSend o msg size type r.pid r.seq).2 with
  | none => exact List.nil_sublist _
  | some s =>
    obtain ⟨-, hpid, hseq⟩ := saiagentIpcSend_header hs
    rw [Option.toList_some, List.map_cons, List.map_nil, NlSent.header, hpid, hseq]
    exact List.Sublist.refl _

/-- The step lemma of freshness. -/
theorem LoopState.Sound.fresh_step (h : st.Sound) :
    ∃ e, (loopBody E st i).log = st.log ++ [e] ∧ (e.Fresh ↔ NotStale st i) := by
  by_cases hrecv : Received st i
  · cases hrun : processed E st i with
    | error f w =>
      rw [loopBody_of_fault hrecv hrun]
      exact ⟨_, rfl, h.fresh_iff hrecv (List.nil_sublist _)⟩
    | ok reply w =>
      rw [loopBody_of_reply hrecv hrun]
      exact ⟨_, rfl, h.fresh_iff hrecv headers_sent⟩
  · rw [loopBody_of_not_received hrecv]
    refine ⟨_, rfl, iff_of_true ⟨List.nil_sublist _, List.nil_sublist _, fun _ ↦ rfl⟩ ?_⟩
    by_cases hrc : i.recv.rc = 0
    · refine Or.inr ?_
      by_cases hnil : i.recv.batch = []
      · refine Or.inr fun herr ↦ hrecv ⟨hrc, ?_⟩
        rw [stored, hnil]
        exact herr
      · exact Or.inl hnil
    · exact Or.inl hrc

/-- **A run executes and answers no request twice exactly when none of its receive calls succeeds
without running the callback on a record free of errors.** -/
theorem atMostOnce_iff (E : SaiBackend σ) (inBuf outBuf : MsgBuffer) (stack : StackRecord)
    (w : World σ) (is : List LoopInput) :
    AtMostOnce (saiagentIpcEnterLoop E (loopStart inBuf outBuf stack w) is).log ↔
      Along LoopState.Live (loopBody E) NotStale (loopStart inBuf outBuf stack w) is := by
  have hrun : _ ↔ _ ∧ Along LoopState.Live (loopBody E) NotStale _ is :=
    forall_log_iff LoopState.log IterationLog.Fresh (J := LoopState.Sound)
    (fun _ _ _ h ↦ h.step) (fun _ _ _ h ↦ h.fresh_step) is (loopStart inBuf outBuf stack w)
    (sound_loopStart ..)
  rw [atMostOnce_iff_fresh, saiagentIpcEnterLoop, hrun]
  simp only [loopStart, List.not_mem_nil, false_implies, implies_true, true_and]

/-- The world before the first request: nothing registered, a SAI without answers. -/
def idleWorld : World (List SaiResp) := ⟨Agent.zero, [], []⟩

/-- The loop's first state over zeroed memory, with an error in the record. -/
def idleStart : LoopState (List SaiResp) :=
  loopStart ⟨zeroBuffer, length_zeroBuffer⟩ ⟨zeroBuffer, length_zeroBuffer⟩ ⟨0, 0, 0, 1⟩ idleWorld

/-- A well-formed message with a `PORT_INFO_GET` request. -/
def portInfoMsg (pid seq : UInt32) : NlMsg :=
  ⟨0, some ⟨le32 (UInt32.ofNat PresteraCmdType.portInfoGet), by decide⟩, pid, seq⟩

/-- An iteration that receives a batch with code 0, and whose library calls succeed. -/
def receives (batch : List NlMsg) : LoopInput :=
  ⟨⟨batch, 0⟩, Runtime.calm 0, ⟨true, true, 0, 0⟩⟩

/-- After a request was handled, a receive call that delivers nothing dispatches it again. -/
theorem dispatches_twice :
    ¬AtMostOnce
      (saiagentIpcEnterLoop scriptedSai idleStart [receives [portInfoMsg 7 9],
          receives []]).log := by
  intro h
  have := h.dispatches (7, 9)
  revert this
  decide +kernel

/-! ### No accepted request is lost -/

/-- The requests an iteration dispatched and answered under their own header. -/
def IterationLog.answered (e : IterationLog) : List Request :=
  e.dispatched.filter fun r ↦ e.sent.any fun s ↦ s.type = .reply ∧ s.header = r.header

/-- Every accepted request is dispatched and answered, by the iteration that accepted it and in
delivery order over the run. -/
structure NoneLost (log : List IterationLog) : Prop where
  each : ∀ e ∈ log, e.accepted <+ e.answered
  inOrder : log.flatMap (·.accepted) <+ log.flatMap (·.answered)

/-- The order over a run follows from its iterations. -/
theorem noneLost_iff_each {log : List IterationLog} :
    NoneLost log ↔ ∀ e ∈ log, e.accepted <+ e.answered :=
  ⟨NoneLost.each, fun h ↦ ⟨h, List.Sublist.flatMap_right log h⟩⟩

/-- The iteration accepts nothing, or it accepts one request, with its last message, the
receive call returns 0, handling the request meets no fault, and the reply can be sent. -/
def AnswersAll (E : SaiBackend σ) (st : LoopState σ) (i : LoopInput) : Prop :=
  accepted (UInt64.ofNat saiagentMsgMaxSize) i.recv.batch = [] ∨
    (∃ batch m r, i.recv.batch = batch ++ [m] ∧
      acceptedRequest (UInt64.ofNat saiagentMsgMaxSize) m = some r ∧
      accepted (UInt64.ofNat saiagentMsgMaxSize) i.recv.batch = [r]) ∧
    i.recv.rc = 0 ∧ (∃ reply w, processed E st i = .ok reply w) ∧ i.send.Works

/-- A request accepted with the last message of a call that returns 0 is received. -/
theorem LoopState.Sound.received_of_last (h : st.Sound) {batch : List NlMsg} {m : NlMsg}
    {r : Request} (hcons : i.recv.batch = batch ++ [m])
    (hm : acceptedRequest (UInt64.ofNat saiagentMsgMaxSize) m = some r) (hrc : i.recv.rc = 0) :
    Received st i ∧ (stored st i).request = r := by
  have hlast := foldl_nlIpcHandleRecvMsgCb_concat batch m st.inMsg
  rw [h.size, hm, ← hcons] at hlast
  exact ⟨⟨hrc, hlast.2⟩, hlast.1⟩

/-- What an iteration that reached a reply answered. -/
theorem answered_of_reply {reply : SaiagentMsg} (batch : List NlMsg) (o : SendOutcome) (r : Request)
    (hreply : IsReply reply) (hlen : 8 ≤ reply.payload.length) :
    (⟨batch, [r], (saiagentIpcSend o reply.buff reply.payloadSize .reply r.pid
        r.seq).2.toList⟩ : IterationLog).answered = if o.Works then [r] else [] := by
  obtain ⟨b, hb, -⟩ := hreply.buff
  have hsize : reply.payloadSize > 0 := by
    have htake := List.length_take_le reply.payloadSize.toNat (reply.buff.getD [])
    rw [gt_iff_lt, UInt64.lt_iff_toNat_lt]
    exact Nat.lt_of_lt_of_le (Nat.lt_of_lt_of_le (by decide) hlen) htake
  have hsome : (saiagentIpcSend o (some b) reply.payloadSize .reply r.pid r.seq).2.isSome = true ↔
      o.Works := isSome_saiagentIpcSend_iff hsize
  rw [hb]
  by_cases hw : o.Works
  · obtain ⟨s, hs⟩ := Option.isSome_iff_exists.1 (hsome.2 hw)
    obtain ⟨htype, hpid, hseq⟩ := saiagentIpcSend_header hs
    simp [IterationLog.answered, hs, htype, hpid, hseq, hw, NlSent.header, Request.header]
  · have hnone : (saiagentIpcSend o (some b) reply.payloadSize .reply r.pid r.seq).2 = none :=
      Option.not_isSome_iff_eq_none.1 fun e ↦ hw (hsome.1 e)
    simp [IterationLog.answered, hnone, hw]

/-- An iteration that answers nothing loses nothing exactly when it accepted nothing. -/
theorem answersAll_iff_nil {e : IterationLog} (he : e.delivered = i.recv.batch)
    (hnone : e.answered = [])
    (hbad : ¬∃ reply w, Received st i ∧ processed E st i = .ok reply w ∧ i.send.Works)
    (h : st.Sound) : e.accepted <+ e.answered ↔ AnswersAll E st i := by
  rw [hnone, IterationLog.accepted, he, List.sublist_nil]
  refine ⟨Or.inl, ?_⟩
  rintro (hnil | ⟨⟨batch, m, r, hcons, hm, -⟩, hrc, ⟨reply, w, hrun⟩, hworks⟩)
  · exact hnil
  · exact absurd ⟨reply, w, (h.received_of_last hcons hm hrc).1, hrun, hworks⟩ hbad

/-- The step lemma of delivery. -/
theorem LoopState.Sound.answered_step (h : st.Sound) :
    ∃ e, (loopBody E st i).log = st.log ++ [e] ∧
      (e.accepted <+ e.answered ↔ AnswersAll E st i) := by
  by_cases hrecv : Received st i
  · cases hrun : processed E st i with
    | error f w =>
      rw [loopBody_of_fault hrecv hrun]
      refine ⟨_, rfl, answersAll_iff_nil rfl (by simp [IterationLog.answered]) ?_ h⟩
      rintro ⟨reply, w', -, hrun', -⟩
      rw [hrun] at hrun'
      cases hrun'
    | ok reply w =>
      rw [loopBody_of_reply hrecv hrun]
      obtain ⟨hreply, hlen⟩ := h.reply hrun
      have hans := answered_of_reply i.recv.batch i.send (stored st i).request hreply hlen
      -- The reply answers the last message of the batch, whose sender and number it takes.
      by_cases hworks : i.send.Works
      · rw [if_pos hworks] at hans
        refine ⟨_, rfl, ?_⟩
        rw [hans]
        show accepted _ i.recv.batch <+ _ ↔ _
        constructor
        · intro hsub
          rcases List.sublist_singleton.1 hsub with hnil | hone
          · exact Or.inl hnil
          · rcases h.received_cases hrecv with ⟨hnil, -⟩ | ⟨batch, m, hcons, hm⟩
            · rw [hnil] at hone
              cases hone
            · exact Or.inr ⟨⟨batch, m, _, hcons, hm, hone⟩, hrecv.1, ⟨reply, w, hrun⟩, hworks⟩
        · rintro (hnil | ⟨⟨batch, m, r, hcons, hm, hone⟩, hrc, -, -⟩)
          · rw [hnil]
            exact List.nil_sublist _
          · rw [hone, (h.received_of_last hcons hm hrc).2]
      · rw [if_neg hworks] at hans
        refine ⟨_, rfl, answersAll_iff_nil rfl hans ?_ h⟩
        rintro ⟨reply, w', -, -, hworks'⟩
        exact hworks hworks'
  · rw [loopBody_of_not_received hrecv]
    refine ⟨_, rfl, answersAll_iff_nil rfl rfl ?_ h⟩
    rintro ⟨reply, w, hrecv', -, -⟩
    exact hrecv hrecv'

/-- **A run loses no accepted request exactly when each of its iterations accepts at most one, with
its last message, and can receive, handle and answer it.** -/
theorem noneLost_iff (E : SaiBackend σ) (inBuf outBuf : MsgBuffer) (stack : StackRecord)
    (w : World σ) (is : List LoopInput) :
    NoneLost (saiagentIpcEnterLoop E (loopStart inBuf outBuf stack w) is).log ↔
      Along LoopState.Live (loopBody E) (AnswersAll E) (loopStart inBuf outBuf stack w) is := by
  have hrun : _ ↔ _ ∧ Along LoopState.Live (loopBody E) (AnswersAll E) _ is :=
    forall_log_iff LoopState.log (fun e ↦ e.accepted <+ e.answered) (J := LoopState.Sound)
    (fun _ _ _ h ↦ h.step) (fun _ _ _ h ↦ h.answered_step) is (loopStart inBuf outBuf stack w)
    (sound_loopStart ..)
  rw [noneLost_iff_each, saiagentIpcEnterLoop, hrun]
  simp only [loopStart, List.not_mem_nil, false_implies, implies_true, true_and]

/-- Of two requests one receive call delivers, the first is lost. -/
theorem first_of_batch_lost :
    ¬NoneLost
      (saiagentIpcEnterLoop scriptedSai idleStart
        [receives [portInfoMsg 7 9, portInfoMsg 7 10]]).log := by
  intro h
  have := h.inOrder.length_le
  revert this
  decide +kernel

end SaiAgent
