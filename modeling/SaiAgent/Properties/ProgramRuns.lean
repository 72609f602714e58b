import SaiAgent.Library.Books
import SaiAgent.Model.Program
import SaiAgent.Properties.ListSai
import SaiAgent.Properties.LoopRefinement
import SaiAgent.Properties.Profile

/-!
# The program as a session

`main` sets up its socket, announces itself, and enters the loop only if the driver answered the
announcement: of the messages it gets back at once, the last one must carry the acknowledgement.
From then on the program is its receive loop and, where `malloc` gave it both buffers, a session
from `Session.start` (`main_refines`), so all that is proved about every session is proved about
the program: which requests it handles the driver decides, and what its main thread sends are the
session's replies.

How `main` ends, and what it has done by then, is `main_exit`.
-/

namespace SaiAgent.Program

open Effects Effects.Proc Effects.Run

variable {σ τ α : Type} {E : SaiBackend σ} {L : LibBackend τ}

/-! ### The journal -/

/-- What the program did as its surroundings see it: the messages being composed and those that were
sent, the answers of `nl_recvmsgs`, the buffers `malloc` gave it or did not, how many sockets it
asked for, and how often it uninitialised SAI. -/
structure Journal where
  drafts : Handle → Option NlSent
  sent : List NlSent
  received : List LibResp
  buffers : List (Option MsgBuffer)
  sockets : ℕ
  uninitialised : ℕ

/-- What a library call adds. -/
def Journal.step (x : Journal) : LibCall × LibResp → Journal
  | (.genlmsgPut m pid seq _ type, r) =>
    if r.ptr = none then
      x
    else
      { x with drafts := Function.update x.drafts m (some ⟨type, pid, seq, none⟩) }
  | (.nlaPut m _ data, r) =>
    if 0 ≠ r.rc then
      x
    else
      { x with
        drafts := Function.update x.drafts m
          ((x.drafts m).map fun d ↦ { d with tlv := some data }) }
  | (.nlSendAuto _ m, r) => if r.rc < 0 then x else { x with sent := x.sent ++ (x.drafts m).toList }
  | (.nlRecvmsgs _ _, r) => { x with received := x.received ++ [r] }
  | (.malloc, r) => { x with buffers := x.buffers ++ [r.block] }
  | (.nlSocketAlloc, _) => { x with sockets := x.sockets + 1 }
  | (.saiApiUninit, _) => { x with uninitialised := x.uninitialised + 1 }
  | _ => x

/-- The journal before the first call. -/
def Journal.empty : Journal := ⟨fun _ ↦ none, [], [], [], 0, 0⟩

/-- The journal after these calls. -/
def journal (t : List (LibCall × LibResp)) : Journal := t.foldl Journal.step Journal.empty

theorem journal_concat (t : List (LibCall × LibResp)) (e : LibCall × LibResp) :
    journal (t ++ [e]) = (journal t).step e := by
  rw [journal, List.foldl_append]
  rfl

/-- A call that adds nothing, whatever it is answered. -/
def Silent (c : LibCall) : Prop := ∀ (x : Journal) (r : LibResp), x.step (c, r) = x

/-- The socket, the agent, and the journal. -/
structure Sees (sock : Option Handle) (g : World σ) (x : Journal)
    (w : OracleWorld (Statics σ) LibCall LibResp τ) : Prop where
  sock : w.state.sock = sock
  agent : w.state.agent = g
  journal : journal w.trace = x

variable {sock : Option Handle} {s m : Handle} {g : World σ} {x : Journal} {c : LibCall}
  {F : Stop → OracleWorld (Statics σ) LibCall LibResp τ → Prop}

theorem Sees.asked {w : OracleWorld (Statics σ) LibCall LibResp τ} (hw : Sees sock g x w) :
    Sees sock g (x.step (c, (L c w.env).1)) (w.asked L c) :=
  ⟨hw.sock, hw.agent, by rw [OracleWorld.asked_trace, journal_concat, hw.journal]⟩

theorem sees_lib : Ends (Sees sock g x) (lib L c : ProgM σ τ LibResp)
    (fun r ↦ Sees sock g (x.step (c, r))) F :=
  Ends.bind (M := fun r ↦ Sees sock g (x.step (c, r))) (Ends.ask fun _ hw ↦ hw.asked) fun r ↦
    Ends.bind (M := fun _ ↦ Sees sock g (x.step (c, r)))
      (Ends.change fun _ hw ↦ ⟨hw.sock, hw.agent, hw.journal⟩) fun _ ↦ Ends.pure fun _ hw ↦ hw

theorem sees_silent (hc : Silent c) : Ends (Sees sock g x) (lib L c : ProgM σ τ LibResp)
    (fun _ ↦ Sees sock g x) F :=
  sees_lib.mono (fun _ hw ↦ hw) (fun r _ hw ↦ hc x r ▸ hw) fun _ _ hw ↦ hw

theorem sees_ctxSock : Ends (Sees (some s) g x) (ctxSock : ProgM σ τ Handle)
    (fun s' w ↦ s' = s ∧ Sees (some s) g x w) F := by
  intro w hw
  have hrun : EStateM.run (ctxSock : ProgM σ τ Handle) w =
      EStateM.run (deref w.state.sock : ProgM σ τ Handle) w := rfl
  rw [hrun, hw.sock]
  exact ⟨rfl, hw⟩

/-! ### The socket -/

theorem sees_awaitFamily (n : ℕ) : Ends (Sees sock g x) (awaitFamily L s n : ProgM σ τ Int32)
    (fun _ ↦ Sees sock g x) fun _ ↦ Sees sock g x := by
  induction n with
  | zero => exact Ends.fault fun _ hw ↦ hw
  | succ n ih =>
    refine Ends.bind (sees_silent fun _ _ ↦ rfl) fun r ↦ Ends.ite (fun _ ↦ ?_) fun _ ↦
      Ends.pure fun _ hw ↦ hw
    exact Ends.bind (sees_silent fun _ _ ↦ rfl) fun _ ↦ ih

/-- A journal with one more socket. -/
def Journal.socket (x : Journal) : Journal := { x with sockets := x.sockets + 1 }

/-- `saiagent_ipc_init` asked for a socket, and there is one if it succeeded. -/
def SocketUp (g : World σ) (x : Journal) (rc : Rc)
    (w : OracleWorld (Statics σ) LibCall LibResp τ) : Prop :=
  ∃ sock : Option Handle, (rc = rcStatusOk → sock.isSome) ∧ Sees sock g x.socket w

theorem sees_saiagentIpcInit (n : ℕ) : Ends (Sees none g x) (saiagentIpcInit L n : ProgM σ τ Rc)
    (SocketUp g x) fun _ ↦ Sees none g x.socket := by
  refine Ends.bind (sees_lib (c := .nlSocketAlloc)) fun r ↦ ?_
  show Ends (Sees none g x.socket) _ _ _
  rcases r.ptr with _ | s
  · exact Ends.pure fun w hw ↦ ⟨none, fun h ↦ absurd h (by decide), hw⟩
  have herr : Ends (Sees none g x.socket) (errInit L s : ProgM σ τ Rc) (SocketUp g x)
      fun _ ↦ Sees none g x.socket :=
    Ends.bind (sees_silent fun _ _ ↦ rfl) fun _ ↦ Ends.pure fun _ hw ↦
      ⟨none, fun h ↦ absurd h (by decide), hw⟩
  refine Ends.bind (sees_silent fun _ _ ↦ rfl) fun r ↦ Ends.ite (fun _ ↦ herr) fun _ ↦ ?_
  refine Ends.bind (sees_awaitFamily n) fun family ↦ ?_
  refine Ends.bind (sees_silent fun _ _ ↦ rfl) fun r ↦ Ends.ite (fun _ ↦ herr) fun _ ↦ ?_
  refine Ends.bind (sees_silent fun _ _ ↦ rfl) fun r ↦ Ends.ite (fun _ ↦ herr) fun _ ↦ ?_
  refine Ends.bind (sees_silent fun _ _ ↦ rfl) fun r' ↦ Ends.ite (fun _ ↦ herr) fun _ ↦ ?_
  refine Ends.bind (sees_silent fun _ _ ↦ rfl) fun _ ↦ ?_
  refine Ends.bind (M := fun _ ↦ Sees (some s) g x.socket)
    (Ends.change fun w hw ↦ ⟨rfl, hw.agent, hw.journal⟩) fun _ ↦ Ends.pure fun _ hw ↦ ?_
  exact ⟨some s, fun _ ↦ rfl, hw⟩

/-! ### Sending and receiving -/

/-- A journal with more sent. -/
def Journal.send (x : Journal) (drafts : Handle → Option NlSent) (ms : List NlSent) : Journal :=
  { x with drafts := drafts, sent := x.sent ++ ms }

/-- A journal with one more answer received. -/
def Journal.receive (x : Journal) (r : LibResp) : Journal :=
  { x with received := x.received ++ [r] }

/-- A send that ends as the library calls let it: its status, and what was sent. -/
def Transmits (s : Handle) (g : World σ) (x : Journal) (send : SendOutcome → Rc × Option NlSent)
    (status : Rc) (w : OracleWorld (Statics σ) LibCall LibResp τ) : Prop :=
  ∃ o drafts, status = (send o).1 ∧ Sees (some s) g (x.send drafts (send o).2.toList) w

variable {send : SendOutcome → Rc × Option NlSent} {drafts : Handle → Option NlSent} {d : NlSent}

/-- A send that fails sends nothing. -/
theorem sees_failed (o : SendOutcome) (ho : send o = (rcStatusErr, none)) :
    Ends (Sees (some s) g { x with drafts := drafts }) (pure rcStatusErr : ProgM σ τ Rc)
      (Transmits s g x send) F := by
  refine Ends.pure fun w hw ↦ ⟨o, drafts, by rw [ho], ?_⟩
  rw [ho, Journal.send]
  simpa using hw

theorem sees_errSend (o : SendOutcome) (ho : send o = (rcStatusErr, none)) :
    Ends (Sees (some s) g { x with drafts := drafts }) (errSend L m : ProgM σ τ Rc)
      (Transmits s g x send) F :=
  Ends.bind (sees_silent fun _ _ ↦ rfl) fun _ ↦ sees_failed o ho

/-- The answer of `nl_send_auto` decides whether the message is sent. -/
theorem sees_sendAuto (hd : drafts m = some d) (hsend : ∀ rc : Int32,
      send ⟨true, true, 0, rc⟩ = if rc < 0 then (rcStatusErr, none) else (rcStatusOk, some d)) :
    Ends (Sees (some s) g { x with drafts := drafts }) (sendAuto L m : ProgM σ τ Rc)
      (Transmits s g x send) F := by
  refine Ends.bind sees_ctxSock fun s' ↦ Ends.of_forall ?_
  rintro w₀ ⟨rfl, hw₀⟩
  refine Ends.bind ((sees_lib (c := .nlSendAuto s' m)).known hw₀) fun r ↦ ?_
  refine Ends.bind (sees_silent fun _ _ ↦ rfl) fun _ ↦ ?_
  refine Ends.ite (fun hrc ↦ ?_) fun hrc ↦ ?_
  · rw [show Journal.step _ (.nlSendAuto s' m, r) = _ from if_pos hrc]
    exact sees_failed ⟨true, true, 0, r.rc⟩ ((hsend _).trans (if_pos hrc))
  · have hsent := (hsend r.rc).trans (if_neg hrc)
    rw [show Journal.step _ (.nlSendAuto s' m, r) = _ from if_neg hrc]
    refine Ends.pure fun w hw ↦ ⟨⟨true, true, 0, r.rc⟩, drafts, by rw [hsent], ?_⟩
    rw [hsent]
    dsimp only at hw
    rwa [hd] at hw

/-- What a send carries. -/
def tlvOf (msg : Option (List UInt8)) (msgSize : UInt64) : Option (List UInt8) :=
  if msgSize > 0 then msg.map (List.take msgSize.toNat) else none

/-- The loop's send once the message has its header. -/
theorem send_of_header (msg : Option (List UInt8)) (msgSize : UInt64) (type : SaiagentNlType)
    (pid seq : UInt32) (nlaPut nlSendAuto : Int32) :
    SaiAgent.saiagentIpcSend ⟨true, true, nlaPut, nlSendAuto⟩ msg msgSize type pid seq =
      if (tlvOf msg msgSize).isSome ∧ 0 ≠ nlaPut then
        (rcStatusErr, none)
      else if nlSendAuto < 0 then
        (rcStatusErr, none)
      else
        (rcStatusOk, some ⟨type, pid, seq, tlvOf msg msgSize⟩) := rfl

/-- The program's send is the loop's. -/
theorem sees_saiagentIpcSend (src : Option Handle) (msg : Option (List UInt8)) (msgSize : UInt64)
    (type : SaiagentNlType) (pid seq : UInt32) : Ends (Sees (some s) g x)
      (saiagentIpcSend L src msg msgSize type pid seq : ProgM σ τ Rc)
      (Transmits s g x fun o ↦ SaiAgent.saiagentIpcSend o msg msgSize type pid seq) F := by
  refine Ends.bind (sees_silent fun _ _ ↦ rfl) fun r ↦ ?_
  rcases r.ptr with _ | m
  · exact @sees_failed σ τ s g x F _ x.drafts ⟨false, true, 0, 0⟩ rfl
  refine Ends.bind (M := fun _ ↦ Sees (some s) g x) (Ends.read fun _ hw ↦ hw) fun family ↦ ?_
  refine Ends.bind sees_lib fun hdr ↦ Ends.ite (fun hptr ↦ ?_) fun hptr ↦ ?_
  · rw [show Journal.step _ (.genlmsgPut m pid seq family type, hdr) = _ from if_pos hptr]
    exact sees_errSend ⟨true, false, 0, 0⟩ rfl
  rw [show Journal.step _ (.genlmsgPut m pid seq family type, hdr) = _ from if_neg hptr]
  rcases htlv : (if msgSize > 0 then msg.map (List.take msgSize.toNat) else none) with _ | data
  · refine sees_sendAuto (Function.update_self ..) fun rc ↦ ?_
    rw [send_of_header, show tlvOf msg msgSize = _ from htlv]
    exact if_neg fun h ↦ absurd h.1 Bool.false_ne_true
  · refine Ends.bind sees_lib fun r ↦ Ends.ite (fun hnla ↦ ?_) fun hnla ↦ ?_
    · rw [show Journal.step _ (.nlaPut m src data, r) = _ from if_pos hnla]
      refine sees_errSend ⟨true, true, r.rc, 0⟩ ?_
      rw [send_of_header, show tlvOf msg msgSize = _ from htlv]
      exact if_pos ⟨rfl, hnla⟩
    · rw [show Journal.step _ (.nlaPut m src data, r) = _ from if_neg hnla]
      refine sees_sendAuto (d := ⟨type, pid, seq, some data⟩) (by simp) fun rc ↦ ?_
      rw [send_of_header, show tlvOf msg msgSize = _ from htlv]
      exact if_neg fun h ↦ h.2 rfl

/-- A receive is on record, unless there was no memory for the callbacks. -/
theorem sees_recvmsgs (cb : Option Handle) {callback : List NlPacket → ProgM σ τ Unit}
    {K : List NlPacket → Prop} (hF : ∀ e w, Sees (some s) g x w → F e w)
    (hcallback : ∀ r : LibResp, Ends (Sees (some s) g (x.receive r)) (callback r.batch)
      (fun _ w ↦ K r.batch ∧ Sees (some s) g (x.receive r) w) F) :
    Ends (Sees (some s) g x) (recvmsgs L cb callback : ProgM σ τ LibResp)
      (fun r w ↦ K r.batch ∧ Sees (some s) g (x.receive r) w) F := by
  rcases cb with _ | cb
  · exact Ends.bind (M := fun _ _ ↦ False) (Ends.fault fun _ hw ↦ hF _ _ hw) fun _ _ hw ↦ hw.elim
  refine Ends.bind (M := fun cb' w ↦ cb' = cb ∧ Sees (some s) g x w)
    (Ends.pure fun _ hw ↦ ⟨rfl, hw⟩) fun cb' ↦ Ends.of_forall ?_
  rintro w₀ ⟨rfl, hw₀⟩
  refine Ends.bind ((sees_silent fun _ _ ↦ rfl).known hw₀) fun _ ↦ ?_
  refine Ends.bind sees_ctxSock fun s' ↦ Ends.of_forall ?_
  rintro w₁ ⟨rfl, hw₁⟩
  refine Ends.bind ((sees_lib (c := .nlRecvmsgs s' cb')).known hw₁) fun r ↦
    Ends.bind (hcallback r) fun _ ↦ Ends.of_forall ?_
  rintro w₂ ⟨hK, hw₂⟩
  refine Ends.bind ((sees_silent fun _ _ ↦ rfl).known hw₂) fun _ ↦ Ends.pure fun _ hw ↦ ⟨hK, hw⟩

variable {inPtr outPtr : Option Handle}

/-- Looking behind a pointer changes nothing, and crashes at null only. -/
theorem sees_lookAt {ptr : Option Handle} {f : Handle → LibCall} (hf : ∀ h, Silent (f h))
    {k : ProgM σ τ α} {Q : α → OracleWorld (Statics σ) LibCall LibResp τ → Prop}
    (hF : ptr = none → ∀ e w, Sees sock g x w → F e w)
    (hk : ptr ≠ none → Ends (Sees sock g x) k Q F) :
    Ends (Sees sock g x) (do
      let h ← deref ptr
      let _ ← lib L (f h)
      k) Q F := by
  rcases ptr with _ | h
  · exact Ends.bind (M := fun _ _ ↦ False) (Ends.fault fun _ hw ↦ hF rfl _ _ hw) fun _ _ hw ↦
      hw.elim
  · exact Ends.bind (M := fun h' w ↦ h' = h ∧ Sees sock g x w) (Ends.pure fun _ hw ↦ ⟨rfl, hw⟩)
      fun h' ↦ Ends.bind (M := fun _ ↦ Sees sock g x)
        ((sees_silent (hf h')).mono (fun _ hw ↦ hw.2) (fun _ _ hw ↦ hw) fun _ _ hw ↦ hw) fun _ ↦
          hk (Option.some_ne_none h)

/-- There is nothing to copy out of the messages. -/
def NothingIn (size : UInt64) (msgs : List NlMsg) : Prop := ∀ msg ∈ msgs, copied size msg = []

theorem sees_copyAll (hF : inPtr = none → ∀ e w, Sees sock g x w → F e w) (size : UInt64)
    (msgs : List NlPacket) : Ends (Sees sock g x) (copyAll L inPtr size msgs : ProgM σ τ Unit)
      (fun _ w ↦ (inPtr = none → NothingIn size (msgs.map NlPacket.toNlMsg)) ∧ Sees sock g x w)
      F := by
  induction msgs with
  | nil => exact Ends.pure fun _ hw ↦ ⟨fun _ _ h ↦ absurd h List.not_mem_nil, hw⟩
  | cons msg msgs ih =>
    refine Ends.ite (fun hnone ↦ ih.mono (fun _ hw ↦ hw) (fun _ _ hw ↦ ⟨fun hnull ↦ ?_, hw.2⟩)
      fun _ _ hw ↦ hw) fun _ ↦ sees_lookAt (fun _ _ _ ↦ rfl) hF fun hne ↦ ih.mono (fun _ hw ↦ hw)
        (fun _ _ hw ↦ ⟨fun hnull ↦ absurd hnull hne, hw.2⟩) fun _ _ hw ↦ hw
    exact List.forall_mem_cons.2 ⟨hnone, hw.1 hnull⟩

theorem sees_readRequest (hF : inPtr = none → ∀ e w, Sees sock g x w → F e w)
    (payloadSize : UInt64) : Ends (Sees sock g x)
      (readRequest L inPtr payloadSize : ProgM σ τ Unit)
      (fun _ w ↦ (inPtr = none → ¬4 ≤ payloadSize) ∧ Sees sock g x w) F :=
  Ends.ite (fun _ ↦ sees_lookAt (fun _ _ _ ↦ rfl) hF fun hne ↦ Ends.pure fun _ hw ↦
    ⟨fun hnull ↦ absurd hnull hne, hw⟩) fun hshort ↦ Ends.pure fun _ hw ↦ ⟨fun _ ↦ hshort, hw⟩

theorem sees_writeReply (outPtr : Option Handle) : Ends (Sees sock g x)
    (writeReply L outPtr : ProgM σ τ Unit) (fun _ ↦ Sees sock g x) F := by
  cases outPtr with
  | none => exact Ends.pure fun _ hw ↦ hw
  | some h => exact Ends.bind (sees_silent fun _ _ ↦ rfl) fun _ ↦ Ends.pure fun _ hw ↦ hw

/-- What an answer decides for the loop. -/
def decides (r : LibResp) : RecvOutcome × Runtime :=
  (⟨r.batch.map NlPacket.toNlMsg, r.rc⟩, r.rt)

/-- A journal with one more answer, if there is one. -/
def Journal.overlook (x : Journal) (last : Option LibResp) : Journal :=
  { x with received := x.received ++ last.toList }

theorem Journal.overlook_none (x : Journal) : x.overlook none = x := by
  rw [overlook, Option.toList_none, List.append_nil]

/-- The program stands still at this journal; at a null receive buffer, it may have received
something that it did not come to handle. -/
def Halts {β : Type} (inPtr : Option β) (s : Handle) (g : World σ) (x : Journal)
    (w : OracleWorld (Statics σ) LibCall LibResp τ) : Prop :=
  ∃ last, (inPtr.isSome → last = none) ∧ Sees (some s) g (x.overlook last) w

theorem Sees.halts {w : OracleWorld (Statics σ) LibCall LibResp τ} (hw : Sees (some s) g x w) :
    Halts inPtr s g x w :=
  ⟨none, fun _ ↦ rfl, by rwa [Journal.overlook_none]⟩

theorem halts_of_null {r : LibResp} (hnull : inPtr = none)
    {w : OracleWorld (Statics σ) LibCall LibResp τ} (hw : Sees (some s) g (x.receive r) w) :
    Halts inPtr s g x w :=
  ⟨some r, fun h ↦ (by rw [hnull] at h; cases h), hw⟩

/-- The program's receive is the loop's. -/
theorem sees_saiagentIpcRecv (msg : SaiagentNlRecvMsg) : Ends (Sees (some s) g x)
    (saiagentIpcRecv L inPtr msg : ProgM σ τ _) (fun res w ↦ ∃ r : LibResp,
      res = ((SaiAgent.saiagentIpcRecv (decides r).1 msg).1,
        (SaiAgent.saiagentIpcRecv (decides r).1 msg).2, (decides r).2) ∧
        (inPtr = none → NothingIn msg.size (decides r).1.batch) ∧
        Sees (some s) g (x.receive r) w) fun _ ↦ Halts inPtr s g x :=
  Ends.bind (sees_silent fun _ _ ↦ rfl) fun cb ↦ Ends.bind (sees_recvmsgs
    (K := fun batch ↦ inPtr = none → NothingIn msg.size (batch.map NlPacket.toNlMsg)) cb.ptr
    (fun _ _ hw ↦ hw.halts) fun r ↦ sees_copyAll (fun hnull _ _ hw ↦ halts_of_null hnull hw)
      msg.size r.batch) fun r ↦ Ends.pure fun _ hw ↦ ⟨r, rfl, hw.1, hw.2⟩

/-- The agent's part of a round. -/
theorem sees_onAgent {p : AgentM σ α} : Ends (Sees sock g x) (onAgent p : ProgM σ τ α)
    (fun a w ↦ ∃ g', EStateM.run p g = .ok a g' ∧ Sees sock g' x w)
    fun _ w ↦ ∃ f g', EStateM.run p g = .error f g' ∧ Sees sock g' x w := by
  intro w hw
  rcases hr : EStateM.run p w.state.agent with ⟨a, g'⟩ | ⟨f, g'⟩
  · rw [run_onAgent_of_ok hr]
    exact ⟨g', hw.agent ▸ hr, hw.sock, rfl, hw.journal⟩
  · rw [run_onAgent_of_error hr]
    exact ⟨f, g', hw.agent ▸ hr, hw.sock, rfl, hw.journal⟩

/-! ### The loop -/

/-- From `st` with the journal `x`, what the loop does on these inputs leads to this agent and this
journal: the inputs were answered, and what was sent behind `ms` is what the loop sent. -/
structure Follows (E : SaiBackend σ) (ms : List NlSent) (st : LoopState σ) (x : Journal)
    (is : List LoopInput) (g : World σ) (y : Journal) : Prop where
  agent : g = (SaiAgent.saiagentIpcEnterLoop E st is).world
  received : ∃ rs, y.received = x.received ++ rs ∧
    rs.map decides = is.map fun i ↦ (i.recv, i.rt)
  sent : y.sent = ms ++ (SaiAgent.saiagentIpcEnterLoop E st is).log.flatMap IterationLog.sent
  buffers : y.buffers = x.buffers
  sockets : y.sockets = x.sockets
  uninitialised : y.uninitialised = x.uninitialised

variable {ms : List NlSent} {st : LoopState σ} {x₁ y : Journal} {i : LoopInput}
  {is : List LoopInput} {r : LibResp}

theorem Follows.nil (hx : x.sent = ms ++ st.log.flatMap IterationLog.sent) :
    Follows E ms st x [] st.world x :=
  ⟨rfl, ⟨[], (List.append_nil _).symm, rfl⟩, hx, rfl, rfl, rfl⟩

/-- The round that comes before them. -/
theorem Follows.cons (h : Follows E ms (loopBody E st i) x₁ is g y) (hl : st.Live)
    (hr : decides r = (i.recv, i.rt)) (hx : x₁.received = x.received ++ [r])
    (hbuffers : x₁.buffers = x.buffers) (hsockets : x₁.sockets = x.sockets)
    (huninit : x₁.uninitialised = x.uninitialised) :
    Follows E ms st x (i :: is) g y := by
  have hexec : SaiAgent.saiagentIpcEnterLoop E st (i :: is) =
      SaiAgent.saiagentIpcEnterLoop E (loopBody E st i) is := exec_cons_of_live hl i is
  obtain ⟨rs, hy, hrs⟩ := h.received
  refine ⟨by rw [hexec, h.agent], ⟨r :: rs, ?_, ?_⟩, by rw [hexec, h.sent],
    h.buffers.trans hbuffers, h.sockets.trans hsockets, h.uninitialised.trans huninit⟩
  · rw [hy, hx, List.append_assoc]
    rfl
  · rw [List.map_cons, List.map_cons, hr, hrs]

/-- Nothing was copied out of the messages received, and no handler changed anything. -/
structure Unread (E : SaiBackend σ) (st : LoopState σ) (is : List LoopInput) : Prop where
  nothing : ∀ i ∈ is, NothingIn st.inMsg.size i.recv.batch
  world : (SaiAgent.saiagentIpcEnterLoop E st is).world = st.world

theorem Unread.nil : Unread E st [] := ⟨fun _ h ↦ absurd h List.not_mem_nil, rfl⟩

theorem Unread.cons (h : Unread E (loopBody E st i) is) (hl : st.Live)
    (hi : NothingIn st.inMsg.size i.recv.batch) (hworld : (loopBody E st i).world = st.world) :
    Unread E st (i :: is) := by
  have hsize : (loopBody E st i).inMsg.size = st.inMsg.size := by
    rw [inMsg_loopBody, stored, foldl_nlIpcHandleRecvMsgCb_size]
  refine ⟨List.forall_mem_cons.2 ⟨hi, hsize ▸ h.nothing⟩, ?_⟩
  rw [SaiAgent.saiagentIpcEnterLoop, exec_cons_of_live hl]
  exact h.world.trans hworld

/-- The loop was left, for a request had cleared the running flag. -/
def Left {β : Type} (E : SaiBackend σ) (inPtr : Option β) (s : Handle) (ms : List NlSent)
    (st : LoopState σ) (x : Journal) (w : OracleWorld (Statics σ) LibCall LibResp τ) : Prop :=
  ∃ is g y, Follows E ms st x is g y ∧ (inPtr = none → Unread E st is) ∧
    (SaiAgent.saiagentIpcEnterLoop E st is).world.state.running = false ∧
    (SaiAgent.saiagentIpcEnterLoop E st is).crashed = false ∧ Sees (some s) g y w

/-- The loop was not left. -/
def Caught {β : Type} (E : SaiBackend σ) (inPtr : Option β) (s : Handle) (ms : List NlSent)
    (st : LoopState σ) (x : Journal) (w : OracleWorld (Statics σ) LibCall LibResp τ) : Prop :=
  ∃ is g y, Follows E ms st x is g y ∧ (inPtr = none → Unread E st is) ∧ Halts inPtr s g y w

theorem ptr_eq_none_of_block (h : r.block = none) : r.ptr = none := Option.map_eq_none_iff.1 h

theorem Left.block {w : OracleWorld (Statics σ) LibCall LibResp τ}
    (h : Left E r.ptr s ms st x w) : Left E r.block s ms st x w := by
  obtain ⟨is, g, y, his, hunread, hdone⟩ := h
  exact ⟨is, g, y, his, fun hblock ↦ hunread (ptr_eq_none_of_block hblock), hdone⟩

theorem Caught.block {w : OracleWorld (Statics σ) LibCall LibResp τ}
    (h : Caught E r.ptr s ms st x w) : Caught E r.block s ms st x w := by
  obtain ⟨is, g, y, his, hunread, last, hlast, hw⟩ := h
  refine ⟨is, g, y, his, fun hblock ↦ hunread (ptr_eq_none_of_block hblock), last,
    fun hblock ↦ hlast ?_, hw⟩
  rwa [LibResp.block, Option.isSome_map] at hblock

/-- The round that comes before the rest. -/
theorem ends_cons {p : ProgM σ τ Unit} {P : OracleWorld (Statics σ) LibCall LibResp τ → Prop}
    (h : Ends P p (fun _ ↦ Left E inPtr s ms (loopBody E st i) x₁)
      fun _ ↦ Caught E inPtr s ms (loopBody E st i) x₁)
    (hl : st.Live) (hr : decides r = (i.recv, i.rt)) (hx : x₁.received = x.received ++ [r])
    (hbuffers : x₁.buffers = x.buffers) (hsockets : x₁.sockets = x.sockets)
    (huninit : x₁.uninitialised = x.uninitialised)
    (hunread : inPtr = none → ∀ is, Unread E (loopBody E st i) is → Unread E st (i :: is)) :
    Ends P p (fun _ ↦ Left E inPtr s ms st x) fun _ ↦ Caught E inPtr s ms st x := by
  refine h.mono (fun _ hw ↦ hw) ?_ ?_
  · rintro - w ⟨is, g, y, his, hrest, hdone, hw⟩
    refine ⟨i :: is, g, y, his.cons hl hr hx hbuffers hsockets huninit,
      fun hnull ↦ hunread hnull is (hrest hnull), ?_⟩
    rw [SaiAgent.saiagentIpcEnterLoop, exec_cons_of_live hl]
    exact ⟨hdone, hw⟩
  · rintro - w ⟨is, g, y, his, hrest, hw⟩
    exact ⟨i :: is, g, y, his.cons hl hr hx hbuffers hsockets huninit,
      fun hnull ↦ hunread hnull is (hrest hnull), hw⟩

/-- The rounds follow the loop model. -/
def RoundsFollow (E : SaiBackend σ) (L : LibBackend τ) (inPtr outPtr : Option Handle) (s : Handle)
    (ms : List NlSent) (n : ℕ) : Prop :=
  ∀ (st : LoopState σ) (x : Journal), st.crashed = false →
    x.sent = ms ++ st.log.flatMap IterationLog.sent →
      Ends (Sees (some s) st.world x)
        (loopRounds E L inPtr outPtr n st.inMsg st.outBuf : ProgM σ τ Unit)
        (fun _ ↦ Left E inPtr s ms st x) fun _ ↦ Caught E inPtr s ms st x

/-- A message was received: what is left of the round, and of the loop, follows the loop model. -/
theorem follows_round {n : ℕ} (ih : RoundsFollow E L inPtr outPtr s ms n) (hl : st.Live)
    (hx : x.sent = ms ++ st.log.flatMap IterationLog.sent) (hi : decides r = (i.recv, i.rt))
    (hreceived : Received st i)
    (hcopied : inPtr = none → NothingIn st.inMsg.size i.recv.batch) :
    Ends (Sees (some s) st.world (x.receive r))
      (do
        readRequest L inPtr (stored st i).payloadSize
        let reply ← onAgent (saiagentIpcProcessReq E i.rt (stored st i).buf
          (stored st i).payloadSize st.outBuf (UInt64.ofNat saiagentMsgMaxSize))
        writeReply L outPtr
        let _ ← saiagentIpcSend L outPtr reply.buff reply.payloadSize .reply (stored st i).pid
          (stored st i).seq
        loopRounds E L inPtr outPtr n (stored st i) reply.buff : ProgM σ τ Unit)
      (fun _ ↦ Left E inPtr s ms st x) fun _ ↦ Caught E inPtr s ms st x := by
  refine Ends.bind (sees_readRequest (fun hnull _ w hw ↦ ?_) _) fun _ ↦ Ends.of_forall ?_
  · exact ⟨[], _, _, .nil hx, fun _ ↦ .nil, halts_of_null hnull hw⟩
  rintro w₂ ⟨hshort, hw₂⟩
  -- With a null receive buffer the request is too short for a handler.
  have hworld : inPtr = none → worldOf (processed E st i) = st.world := fun hnull ↦
    keeps_processReq_of_short (f := id) (hshort hnull) _ _ st.world
  refine Ends.bind (sees_onAgent.mono (fun w hw ↦ hw ▸ hw₂) (fun _ _ hw ↦ hw) ?_) fun reply ↦
    Ends.of_forall ?_
  · rintro e w ⟨f, g', hrun, hw⟩
    -- A handler crashed, as in the loop.
    have hbody := loopBody_of_fault hreceived hrun
    have hsent : (x.receive r).sent = ms ++ (loopBody E st i).log.flatMap IterationLog.sent := by
      rw [hbody, List.flatMap_append, List.flatMap_singleton, List.append_nil]
      exact hx
    refine ⟨[i], _, _, (Follows.nil hsent).cons hl hi rfl rfl rfl rfl, fun hnull ↦
      Unread.nil.cons hl (hcopied hnull) ?_, ?_⟩
    · rw [hbody, ← hworld hnull, show processed E st i = _ from hrun]
      rfl
    · rw [hbody]
      exact hw.halts
  · rintro w₀ ⟨g', hrun, hw₀⟩
    refine Ends.bind ((sees_writeReply outPtr).known hw₀) fun _ ↦ ?_
    refine Ends.bind (sees_saiagentIpcSend _ _ _ _ _ _) fun status ↦ Ends.of_forall ?_
    rintro w₁ ⟨o, drafts, -, hw₁⟩
    -- How the send ended is what the loop's input says.
    have hbody := @loopBody_of_reply _ E st { i with send := o } _ _ hreceived hrun
    have hlive : (loopBody E st { i with send := o }).crashed = false := by
      rw [hbody]
      exact hl.2
    have hsent : x.sent ++ (SaiAgent.saiagentIpcSend o reply.buff reply.payloadSize .reply
        (stored st i).pid (stored st i).seq).2.toList =
          ms ++ (loopBody E st { i with send := o }).log.flatMap IterationLog.sent := by
      rw [hbody, List.flatMap_append, List.flatMap_singleton, ← List.append_assoc, ← hx]
      rfl
    have hrest := ih _ ((x.receive r).send drafts _) hlive hsent
    rw [show (loopBody E st { i with send := o }).inMsg = stored st i from inMsg_loopBody _ _,
      show (loopBody E st { i with send := o }).outBuf = reply.buff by rw [hbody],
      show (loopBody E st { i with send := o }).world = g' by rw [hbody]] at hrest
    refine (ends_cons hrest hl hi rfl rfl rfl rfl fun hnull is his ↦ ?_).known hw₁
    refine his.cons hl (hcopied hnull) ?_
    rw [hbody, ← hworld hnull, show processed E st i = _ from hrun]
    rfl

/-- **The program's loop is the loop.** -/
theorem follows_loopRounds (n : ℕ) : RoundsFollow E L inPtr outPtr s ms n := by
  induction n with
  | zero =>
    exact fun st x _ hx ↦ Ends.fault fun w hw ↦ ⟨[], _, _, .nil hx, fun _ ↦ .nil, hw.halts⟩
  | succ n ih =>
    intro st x hcrashed hx
    refine Ends.bind (M := fun running w ↦ running = st.world.state.running ∧
      Sees (some s) st.world x w)
      (Ends.read fun w hw ↦ ⟨congrArg (fun g : World σ ↦ g.state.running) hw.agent, hw⟩)
      fun running ↦ Ends.of_forall ?_
    rintro w₀ ⟨rfl, hw₀⟩
    refine Ends.ite (fun hstop ↦ Ends.pure fun w hw ↦ ?_) fun hrun ↦ ?_
    · have hstopped : st.world.state.running = false := by simpa using hstop
      exact ⟨[], _, _, .nil hx, fun _ ↦ .nil, hstopped, hcrashed, hw ▸ hw₀⟩
    have hl : st.Live := ⟨by simpa using hrun, hcrashed⟩
    refine Ends.bind ((sees_saiagentIpcRecv st.inMsg).mono (fun w hw ↦ hw ▸ hw₀)
      (fun _ _ hw ↦ hw) fun _ w hw ↦ ⟨[], _, _, .nil hx, fun _ ↦ .nil, hw⟩) fun res ↦
        Ends.of_forall ?_
    rintro w₁ ⟨r, rfl, hcopied, hw₁⟩
    let i : LoopInput := ⟨(decides r).1, (decides r).2, ⟨true, true, 0, 0⟩⟩
    by_cases hreceived : Received st i
    · have hrecv : SaiAgent.saiagentIpcRecv (decides r).1 st.inMsg = (rcStatusOk, stored st i) :=
        saiagentIpcRecv_of_received hreceived
      simp only [hrecv]
      exact (follows_round ih hl hx rfl hreceived hcopied).known hw₁
    · have hrecv : SaiAgent.saiagentIpcRecv (decides r).1 st.inMsg = (rcStatusErr, stored st i) :=
        saiagentIpcRecv_of_not_received hreceived
      have hbody := @loopBody_of_not_received _ E st i hreceived
      simp only [hrecv]
      refine Ends.ite (fun _ ↦ ?_) fun herr ↦ absurd (by decide) herr
      have hlive : (loopBody E st i).crashed = false := by
        rw [hbody]
        exact hl.2
      have hsent : x.sent = ms ++ (loopBody E st i).log.flatMap IterationLog.sent := by
        rw [hbody, List.flatMap_append, List.flatMap_singleton, List.append_nil]
        exact hx
      have hrest := ih _ (x.receive r) hlive hsent
      rw [inMsg_loopBody,
        show (loopBody E st i).outBuf = st.outBuf by rw [hbody],
        show (loopBody E st i).world = st.world by rw [hbody]] at hrest
      refine (ends_cons hrest hl rfl rfl rfl rfl rfl fun hnull is his ↦ ?_).known hw₁
      exact his.cons hl (hcopied hnull) (by rw [hbody])

/-- A journal with the answers of the two `malloc`. -/
def Journal.alloc (x : Journal) (inBuf outBuf : Option MsgBuffer) : Journal :=
  { x with buffers := x.buffers ++ [inBuf] ++ [outBuf] }

/-- The buffers are allocated and freed around it. -/
theorem follows_saiagentIpcEnterLoop (n : ℕ) (stack : StackRecord) (hx : x.sent = ms) :
    Ends (Sees (some s) g x) (saiagentIpcEnterLoop E L n stack : ProgM σ τ Rc)
      (fun _ w ↦ ∃ inBuf outBuf, Left E inBuf s ms (loopStartOf inBuf outBuf stack g)
        (x.alloc inBuf outBuf) w)
      fun _ w ↦ ∃ inBuf outBuf, Caught E inBuf s ms (loopStartOf inBuf outBuf stack g)
        (x.alloc inBuf outBuf) w := by
  refine Ends.bind (sees_lib (c := .malloc)) fun inMem ↦ ?_
  refine Ends.bind (sees_lib (c := .malloc)) fun outMem ↦ ?_
  show Ends (Sees (some s) g (x.alloc inMem.block outMem.block)) _ _ _
  refine Ends.bind (M := fun st w ↦ st = loopStartOf inMem.block outMem.block stack g ∧
    Sees (some s) g (x.alloc inMem.block outMem.block) w)
    (Ends.read fun w hw ↦ ⟨congrArg _ hw.agent, hw⟩) fun st ↦ Ends.of_forall ?_
  rintro w₀ ⟨rfl, hw₀⟩
  have hsent : x.sent = ms ++ (loopStartOf inMem.block outMem.block stack g).log.flatMap
      IterationLog.sent := hx.trans (List.append_nil ms).symm
  refine Ends.bind (M := fun _ ↦ Sees (some s) (loopStartOf inMem.block outMem.block stack g).world
    (x.alloc inMem.block outMem.block))
    (Ends.change fun w hw ↦ ⟨(hw ▸ hw₀).sock, rfl, (hw ▸ hw₀).journal⟩) fun _ ↦ ?_
  refine Ends.bind ((follows_loopRounds n _ (x.alloc inMem.block outMem.block) rfl hsent).mono
    (fun _ hw ↦ hw) (fun _ _ hw ↦ hw.block) fun _ _ hw ↦ ⟨_, outMem.block, hw.block⟩) fun _ ↦
      Ends.of_forall ?_
  rintro w₁ ⟨is, g', y, his, hunread, hdone, hcrashed, hw₁⟩
  refine Ends.bind ((sees_silent fun _ _ ↦ rfl).known hw₁) fun _ ↦ ?_
  exact Ends.bind (sees_silent fun _ _ ↦ rfl) fun _ ↦ Ends.pure fun w hw ↦
    ⟨_, _, is, g', y, his, hunread, hdone, hcrashed, hw⟩

/-! ### The handshake -/

/-- The message that announces the agent. -/
def announcement : NlSent := ⟨.drvInit, nlAuto, nlAuto, none⟩

/-- An answer to it that counts: it was received without an error, and its last message carries the
acknowledgement. -/
def Acknowledges (r : LibResp) : Prop :=
  r.rc = 0 ∧ ∃ msgs m, r.batch = msgs ++ [m] ∧ ¬m.genlmsgParse < 0 ∧ m.drvInitAck = true

/-- Every message overwrites the flag, so the last one decides. -/
theorem exists_of_received {batch : List NlPacket}
    (h : batch.foldl (fun _ msg ↦ nlIpcDrvInitReplyMsgCb msg) false = true) :
    ∃ msgs m, batch = msgs ++ [m] ∧ ¬m.genlmsgParse < 0 ∧ m.drvInitAck = true := by
  rcases batch.eq_nil_or_concat with rfl | ⟨msgs, m, rfl⟩
  · cases h
  · rw [List.concat_eq_append, List.foldl_append, List.foldl_cons, List.foldl_nil,
      nlIpcDrvInitReplyMsgCb] at h
    by_cases hparse : m.genlmsgParse < 0
    · rw [if_pos hparse] at h
      cases h
    · rw [if_neg hparse] at h
      exact ⟨msgs, m, List.concat_eq_append, hparse, h⟩

/-- The announcement is sent, or nothing is. -/
theorem announcement_sent (o : SendOutcome) :
    (SaiAgent.saiagentIpcSend o none 0 .drvInit nlAuto nlAuto).2.toList <+: [announcement] ∧
      ((SaiAgent.saiagentIpcSend o none 0 .drvInit nlAuto nlAuto).1 = rcStatusOk →
        (SaiAgent.saiagentIpcSend o none 0 .drvInit nlAuto nlAuto).2.toList = [announcement]) := by
  have hne : rcStatusErr ≠ rcStatusOk := by decide
  obtain ⟨alloc, put, nlaPut, nlSendAuto⟩ := o
  rcases alloc with _ | _
  · exact ⟨List.nil_prefix, fun h ↦ absurd h hne⟩
  rcases put with _ | _
  · exact ⟨List.nil_prefix, fun h ↦ absurd h hne⟩
  rw [send_of_header, show tlvOf none 0 = none from rfl, if_neg fun h ↦ Bool.false_ne_true h.1]
  by_cases hsend : nlSendAuto < 0
  · rw [if_pos hsend]
    exact ⟨List.nil_prefix, fun h ↦ absurd h hne⟩
  · rw [if_neg hsend]
    exact ⟨List.prefix_rfl, fun _ ↦ rfl⟩

/-- What `saiagent_ipc_drv_init` leaves, and what its success means. -/
def Announced (s : Handle) (g : World σ) (x : Journal) (status : Rc)
    (w : OracleWorld (Statics σ) LibCall LibResp τ) : Prop :=
  ∃ drafts ms r, Sees (some s) g ((x.send drafts ms).receive r) w ∧ ms <+: [announcement] ∧
    (status = rcStatusOk → ms = [announcement] ∧ Acknowledges r)

theorem sees_saiagentIpcDrvInit : Ends (Sees (some s) g x)
    (saiagentIpcDrvInit L : ProgM σ τ Rc) (Announced s g x)
    fun _ w ↦ ∃ drafts ms, Sees (some s) g (x.send drafts ms) w ∧ ms <+: [announcement] := by
  refine Ends.bind (sees_silent fun _ _ ↦ rfl) fun cb ↦ ?_
  refine Ends.bind (sees_saiagentIpcSend _ _ _ _ _ _) fun status ↦ Ends.of_forall ?_
  rintro w₀ ⟨o, drafts, rfl, hw₀⟩
  obtain ⟨hpre, hok⟩ := announcement_sent o
  refine Ends.bind ((sees_recvmsgs (K := fun _ ↦ True) cb.ptr
    (fun _ _ hw ↦ ⟨drafts, _, hw, hpre⟩) fun _ ↦ ?_).known hw₀) fun r ↦ ?_
  · exact Ends.pure fun _ hw ↦ ⟨trivial, hw⟩
  refine Ends.ite (fun _ ↦ Ends.pure fun w hw ↦ ⟨drafts, _, r, hw.2, hpre, fun h ↦
    absurd h (by decide)⟩) fun hrecv ↦ Ends.pure fun w hw ↦ ⟨drafts, _, r, hw.2, hpre, fun h ↦
      ⟨hok h, ?_⟩⟩
  rw [not_or, not_not, Bool.not_eq_true, Bool.not_eq_false'] at hrecv
  exact ⟨hrecv.1.symm, exists_of_received hrecv.2⟩

/-! ### `main` -/

/-- The agent as it is loaded. -/
def loaded (env : σ) : World σ := ⟨Agent.zero, env, []⟩

/-- The agent with SWITCH_INIT registered. -/
def registered (env : σ) : World σ := worldOf (EStateM.run saiagentSwitchIpcInit (loaded env))

/-- No request was handled: the agent is as it was loaded or registered, the most that was sent is
the announcement, and the most that was received its answer. -/
structure Idle (env : σ) (g : World σ) (y : Journal) : Prop where
  agent : g = loaded env ∨ g = registered env
  sent : y.sent <+: [announcement]
  received : y.received.length ≤ 1

/-- The loop after these inputs, with the two buffers as `malloc` returned them. -/
def loopAfter (E : SaiBackend σ) (env : σ) (stack : StackRecord) (inBuf outBuf : Option MsgBuffer)
    (is : List LoopInput) : LoopState σ :=
  SaiAgent.saiagentIpcEnterLoop E (loopStartOf inBuf outBuf stack (registered env)) is

/-- The driver has acknowledged the announcement, and the program is the loop with these buffers and
after these inputs. With a null receive buffer no byte was copied or read in any of them, and the
program crashed where it did not come to handle the last answer it got. -/
structure Serves (E : SaiBackend σ) (env : σ) (stack : StackRecord)
    (inBuf outBuf : Option MsgBuffer) (is : List LoopInput) (last : Option LibResp) (g : World σ)
    (y : Journal) : Prop where
  agent : g = (loopAfter E env stack inBuf outBuf is).world
  buffers : y.buffers = [inBuf, outBuf]
  sent : y.sent = announcement ::
    (loopAfter E env stack inBuf outBuf is).log.flatMap IterationLog.sent
  received : ∃ r rs, y.received = r :: rs ++ last.toList ∧ Acknowledges r ∧
    rs.map decides = is.map fun i ↦ (i.recv, i.rt)
  last_eq : inBuf.isSome → last = none
  unread : inBuf = none → Unread E (loopStartOf inBuf outBuf stack (registered env)) is

/-- Idle or serving. -/
def Stands (E : SaiBackend σ) (env : σ) (stack : StackRecord)
    (w : OracleWorld (Statics σ) LibCall LibResp τ) : Prop :=
  Idle env w.state.agent (journal w.trace) ∨ ∃ inBuf outBuf is last,
    Serves E env stack inBuf outBuf is last w.state.agent (journal w.trace)

/-- How `main` returns. -/
def Exits (E : SaiBackend σ) (env : σ) (stack : StackRecord) (status : Int32)
    (w : OracleWorld (Statics σ) LibCall LibResp τ) : Prop :=
  (status = exitFailure ∧ (journal w.trace).sockets = 0 ∧ (journal w.trace).uninitialised = 0 ∧
    Idle env w.state.agent (journal w.trace)) ∨
  (status = exitSuccess ∧ (journal w.trace).sockets = 1 ∧ (journal w.trace).uninitialised = 0 ∧
    Idle env w.state.agent (journal w.trace)) ∨
  (status = exitSuccess ∧ (journal w.trace).sockets = 1 ∧ (journal w.trace).uninitialised = 1 ∧
    ∃ inMem outBuf is,
      Serves E env stack (some inMem) outBuf is none w.state.agent (journal w.trace) ∧
        (loopAfter E env stack (some inMem) outBuf is).world.state.running = false ∧
        (loopAfter E env stack (some inMem) outBuf is).crashed = false)

variable {env : σ} {stack : StackRecord}

theorem Idle.stands {w : OracleWorld (Statics σ) LibCall LibResp τ} (h : Idle env g y)
    (hw : Sees sock g y w) : Stands E env stack w := by
  rw [← hw.agent, ← hw.journal] at h
  exact Or.inl h

/-- `main` gives the socket back and returns. -/
theorem sees_errIpcInit : Ends (Sees sock g x) (errIpcInit L : ProgM σ τ Int32)
    (fun status w ↦ status = exitSuccess ∧ Sees sock g x w) F := by
  refine Ends.bind (M := fun _ ↦ Sees sock g x) ?_ fun _ ↦ Ends.pure fun _ hw ↦ ⟨rfl, hw⟩
  refine Ends.bind (M := fun _ ↦ Sees sock g x) (Ends.read fun _ hw ↦ hw) fun ptr ↦ ?_
  exact Ends.bind (sees_silent fun _ _ ↦ rfl) fun _ ↦ Ends.pure fun _ hw ↦ hw

/-- Where no request was handled, `main` reports success all the same. -/
theorem exits_idle (h : Idle env g y) (hsockets : y.sockets = 1) (huninit : y.uninitialised = 0) :
    Ends (Sees sock g y) (errIpcInit L : ProgM σ τ Int32) (Exits E env stack) F := by
  refine sees_errIpcInit.mono (fun _ hw ↦ hw) ?_ fun _ _ hw ↦ hw
  rintro status w ⟨rfl, hw⟩
  rw [← hw.agent, ← hw.journal] at h
  exact Or.inr (Or.inl ⟨rfl, hw.journal ▸ hsockets, hw.journal ▸ huninit, h⟩)

/-- The journal once a socket was asked for. -/
def started : Journal := Journal.empty.socket

theorem Follows.serves {drafts : Handle → Option NlSent} (hr : Acknowledges r)
    {inBuf outBuf : Option MsgBuffer} (h : Follows E [announcement]
      (loopStartOf inBuf outBuf stack (registered env))
      (((started.send drafts [announcement]).receive r).alloc inBuf outBuf) is g y)
    {last : Option LibResp} (hlast : inBuf.isSome → last = none)
    (hunread : inBuf = none → Unread E (loopStartOf inBuf outBuf stack (registered env)) is) :
    Serves E env stack inBuf outBuf is last g (y.overlook last) := by
  obtain ⟨rs, hy, hrs⟩ := h.received
  refine ⟨h.agent, h.buffers, h.sent, ⟨r, rs, ?_, hr, hrs⟩, hlast, hunread⟩
  rw [Journal.overlook, hy]
  rfl

theorem ends_serveDriver_run (n : ℕ) (stack : StackRecord) :
    Ends (Sees none (loaded env) Journal.empty) (serveDriver E L n stack : ProgM σ τ Int32)
      (Exits E env stack) fun _ ↦ Stands E env stack := by
  have hidle : Idle env (loaded env) started := ⟨Or.inl rfl, List.nil_prefix, Nat.zero_le 1⟩
  refine Ends.bind ((sees_saiagentIpcInit n).mono (fun _ hw ↦ hw) (fun _ _ hw ↦ hw)
    fun _ _ hw ↦ hidle.stands hw) fun status ↦ Ends.of_forall ?_
  rintro w₀ ⟨sock, hsock, hw₀⟩
  refine Ends.ite (fun _ ↦ (exits_idle hidle rfl rfl).known hw₀) fun hok ↦ ?_
  obtain ⟨s, rfl⟩ := Option.isSome_iff_exists.1 (hsock (not_ne_iff.1 hok).symm)
  -- SWITCH_INIT is registered.
  refine Ends.bind (M := fun status ↦ Sees (some s) (registered env) started)
    (sees_onAgent.mono (fun w hw ↦ hw ▸ hw₀) ?_ ?_) fun status ↦ ?_
  · rintro a w ⟨g', hrun, hw⟩
    cases hrun
    exact hw
  · rintro e w ⟨f, g', hrun, -⟩
    cases hrun
  have hregistered : Idle env (registered env) started :=
    ⟨Or.inr rfl, List.nil_prefix, Nat.zero_le 1⟩
  have hsent : ∀ drafts ms, ms <+: [announcement] →
      Idle env (registered env) (started.send drafts ms) := fun _ _ hms ↦
    ⟨Or.inr rfl, hms, Nat.zero_le 1⟩
  have hreceived : ∀ drafts ms r, ms <+: [announcement] →
      Idle env (registered env) ((started.send drafts ms).receive r) := fun _ _ _ hms ↦
    ⟨Or.inr rfl, hms, Nat.le_refl 1⟩
  refine Ends.ite (fun _ ↦ exits_idle hregistered rfl rfl) fun _ ↦ ?_
  refine Ends.bind (sees_saiagentIpcDrvInit.mono (fun _ hw ↦ hw) (fun _ _ hw ↦ hw) ?_)
    fun status ↦ Ends.of_forall ?_
  · rintro e w ⟨drafts, ms, hw, hms⟩
    exact (hsent drafts ms hms).stands hw
  rintro w₁ ⟨drafts, ms, r, hw₁, hms, hdone⟩
  refine Ends.ite (fun _ ↦ (exits_idle (hreceived drafts ms r hms) rfl rfl).known hw₁) fun hok ↦ ?_
  obtain ⟨rfl, hr⟩ := hdone (not_ne_iff.1 hok).symm
  -- The driver has acknowledged: the loop is entered.
  refine Ends.bind ((follows_saiagentIpcEnterLoop n stack (Eq.refl [announcement])).mono
    (fun w hw ↦ hw ▸ hw₁) (fun _ _ hw ↦ hw) ?_) fun _ ↦ Ends.of_forall ?_
  · rintro e w ⟨inBuf, outBuf, is, g, y, his, hunread, last, hlast, hw⟩
    have hserves := his.serves hr hlast hunread
    rw [← hw.agent, ← hw.journal] at hserves
    exact Or.inr ⟨inBuf, outBuf, is, last, hserves⟩
  rintro w₂ ⟨inBuf, outBuf, is, g, y, his, hunread, hstopped, hcrashed, hw₂⟩
  -- With a null receive buffer the running flag would be as it was set.
  obtain ⟨inMem, rfl⟩ : ∃ inMem, inBuf = some inMem := by
    refine Option.ne_none_iff_exists'.1 fun hnull ↦ ?_
    rw [(hunread hnull).world] at hstopped
    cases hstopped
  refine Ends.bind ((sees_lib (c := .saiApiUninit)).known hw₂) fun r' ↦
    sees_errIpcInit.mono (fun _ hw ↦ hw) ?_ fun _ _ hw ↦ hw
  rintro status w ⟨rfl, hw⟩
  have hloop := his.serves hr (fun _ ↦ (rfl : (none : Option LibResp) = none)) hunread
  rw [Journal.overlook_none] at hloop
  have hserves : Serves E env stack (some inMem) outBuf is none g (y.step (.saiApiUninit, r')) :=
    ⟨hloop.agent, hloop.buffers, hloop.sent, hloop.received, hloop.last_eq, hloop.unread⟩
  have hsockets : (y.step (.saiApiUninit, r')).sockets = 1 := his.sockets
  have huninit : (y.step (.saiApiUninit, r')).uninitialised = 1 :=
    congrArg (· + 1) his.uninitialised
  rw [← hw.journal] at hserves hsockets huninit
  rw [← hw.agent] at hserves
  exact Or.inr (Or.inr ⟨rfl, hsockets, huninit, inMem, outBuf, is, hserves, hstopped, hcrashed⟩)

theorem ends_main_run (n : ℕ) (cmd : List CmdOpt) (stack : StackRecord) :
    Ends (Sees none (loaded env) Journal.empty) (main E L n cmd stack : ProgM σ τ Int32)
      (Exits E env stack) fun _ ↦ Stands E env stack := by
  have hidle : Idle env (loaded env) Journal.empty := ⟨Or.inl rfl, List.nil_prefix, Nat.zero_le 1⟩
  have hexit : Ends (Sees none (loaded env) Journal.empty) (pure exitFailure : ProgM σ τ Int32)
      (Exits E env stack) fun _ ↦ Stands E env stack := by
    refine Ends.pure fun w hw ↦ Or.inl ⟨rfl, ?_, ?_, ?_⟩
    · rw [hw.journal]
      rfl
    · rw [hw.journal]
      rfl
    · rw [hw.agent, hw.journal]
      exact hidle
  rw [main]
  rcases cmdLineProcess cmd [] with e | ⟨status, params⟩
  · exact Ends.fault fun _ hw ↦ hidle.stands hw
  refine Ends.ite (fun _ ↦ hexit) fun _ ↦ Ends.ite (fun _ ↦ hexit) fun _ ↦ ?_
  refine Ends.bind (M := fun _ ↦ Sees none (loaded env) Journal.empty)
    (Ends.change fun _ hw ↦ ⟨hw.sock, hw.agent, hw.journal⟩) fun _ ↦ ?_
  refine Ends.bind (sees_silent fun _ _ ↦ rfl) fun r ↦ Ends.ite (fun _ ↦ hexit) fun _ ↦ ?_
  exact Ends.bind (sees_silent fun _ _ ↦ rfl) fun r ↦ Ends.ite (fun _ ↦ hexit) fun _ ↦
    ends_serveDriver_run n stack

variable (E L)

/-- The program after this many rounds. -/
def after (n : ℕ) (cmd : List CmdOpt) (stack : StackRecord) (env : σ) (libs : τ) :
    OracleWorld (Statics σ) LibCall LibResp τ :=
  worldOf (EStateM.run (main E L n cmd stack) (load env libs))

/-- **How `main` ends.** It reports failure only where it never asked for a socket; it reports
success both where no request was ever handled and where a request ended the loop, which takes a
receive buffer; and it uninitialises SAI in the last case only. -/
theorem main_exit (n : ℕ) (cmd : List CmdOpt) (stack : StackRecord) (env : σ) (libs : τ)
    {status : Int32}
    (h : valueOf (EStateM.run (main E L n cmd stack) (load env libs)) = .ok status) :
    Exits E env stack status (after E L n cmd stack env libs) := by
  have hends := @ends_main_run σ τ E L env n cmd stack (load env libs) ⟨rfl, rfl, rfl⟩
  rw [after]
  rcases hr : EStateM.run (main E L n cmd stack) (load env libs) with ⟨status', w'⟩ | ⟨e, w'⟩
  · rw [hr] at hends h
    cases h
    exact hends
  · rw [hr] at h
    cases h

/-! ### A run -/

/-- The answer of a library that does what it is asked to: a status, a number or a family, and the
next pointer it has to give. -/
def calmResp (next : Handle) (c : LibCall) : LibResp where
  rc := match c with
    | .genlCtrlResolve _ _ => 27
    | .genlCtrlResolveGrp _ _ _ => 5
    | .nlSendAuto _ _ => 28
    | _ => 0
  ptr := some next
  mem := ⟨zeroBuffer, length_zeroBuffer⟩
  batch := []
  rt := Runtime.calm 0
  services := [.getNextValue true]

/-- Libraries that never fail, and hand over these messages, a batch at a time. -/
def calmLibs : LibBackend (Handle × List (List NlPacket)) := fun c ⟨next, batches⟩ ↦
  match c with
  | .nlRecvmsgs _ _ =>
    ({ calmResp next c with batch := batches.headD [] }, (next + 1, batches.tail))
  | _ => (calmResp next c, (next + 1, batches))

/-- A message from the driver, with a bare command or the acknowledgement. -/
def packet (handler : Option Handler) (seq : UInt32) : NlPacket where
  genlmsgParse := 0
  tlv := handler.map fun h ↦
    ⟨(bareRequest h).take 4, Nat.lt_of_le_of_lt (List.length_take_le ..) (by decide)⟩
  pid := 9
  seq := seq
  drvInitAck := handler.isNone

/-- The line `a=1`. -/
def someLine : ProfileLine where
  param := ⟨[97], [49], by decide, by decide⟩
  comment := none
  name_ne := by decide
  name_bytes := List.forall_mem_singleton.mpr (by decide)
  value_ne := by decide
  value_bytes := List.forall_mem_singleton.mpr (by decide)
  comment_bytes := by decide
  length_le := by decide

/-- The option for a profile of that line. -/
def someProfile : List CmdOpt := [.profile (some (writeProfile [someLine])) fun _ ↦ true]

theorem cmdLineProcess_someProfile :
    cmdLineProcess someProfile [] = .ok (rcStatusOk, profileParams [someLine]) := by
  rw [someProfile, cmdLineProcess, saiProfileParse_writeProfile]
  rfl

/-- What `in_msg` happens to hold. -/
def someStack : StackRecord := ⟨0, 0, 0, 0⟩

/-- The driver acknowledges, initialises the switch, has the keepalive started, and resets. -/
theorem main_exit_calm : Exits listSai ListStore.empty someStack exitSuccess
    (after listSai calmLibs 4 someProfile someStack ListStore.empty
      (1, [[packet none 0], [packet (some .switchInit) 1], [packet (some .keepaliveInit) 2],
        [packet (some .switchReset) 3]])) := by
  refine main_exit listSai calmLibs 4 someProfile someStack ListStore.empty _ ?_
  rw [main, cmdLineProcess_someProfile]
  decide +kernel

end SaiAgent.Program
