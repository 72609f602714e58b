import SaiAgent.Properties.Answering
import SaiAgent.Properties.ProgramRuns

/-!
# The program at work

Where nothing around the program fails and the driver answers the announcement, each message the
driver sends is received by itself. `main_serves` says what comes of it: as long as the requests are
harmless, the program never crashes, and what it sends after its announcement is one well-formed
reply to each request, in order and under the request's pid and seq, until a request ends the loop.
-/

namespace SaiAgent

open Effects Effects.Proc Effects.Run

/-- A message from the driver, and what the C runtime decides while it is handled. -/
structure Delivery where
  msg : NlPacket
  rt : Runtime

/-- The iteration that receives it, with a reply that can be sent. -/
def Delivery.heard (d : Delivery) : LoopInput := ⟨⟨[d.msg.toNlMsg], 0⟩, d.rt, ⟨true, true, 0, 0⟩⟩

/-- The request the agent takes from it. -/
def Delivery.request (d : Delivery) : Option Request :=
  acceptedRequest (UInt64.ofNat saiagentMsgMaxSize) d.msg.toNlMsg

namespace Program

variable {σ τ α : Type} {E : SaiBackend σ} {L : LibBackend τ} {waiting : τ → List Delivery}

/-! ### Surroundings in which nothing fails -/

/-- The call may hand over messages. -/
def receives : LibCall → Bool
  | .nlRecvmsgs _ _ => true
  | _ => false

variable {sock : Option Handle} {s m : Handle} {g : World σ} {x : Journal} {ds : List Delivery}
  {d : Delivery} {c : LibCall} {Q : α → OracleWorld (Statics σ) LibCall LibResp τ → Prop}
  {F : Stop → OracleWorld (Statics σ) LibCall LibResp τ → Prop}

variable {inPtr outPtr : Handle}

/-- An iteration on a message. -/
def hear (E : SaiBackend σ) (st : LoopState σ) (d : Delivery) : LoopState σ := loopBody E st d.heard

variable {ms : List NlSent} {st : LoopState σ}

/-- The messages the loop hears. -/
def heard (E : SaiBackend σ) : LoopState σ → List Delivery → List Delivery :=
  taken LoopState.Live (hear E)

variable {env : σ} {n : ℕ}

/-- The message answers the request: a well-formed reply under its pid and seq. -/
structure Replies (q : Request) (m : NlSent) : Prop where
  type : m.type = .reply
  pid : m.pid = q.pid
  seq : m.seq = q.seq
  wellFormed : ∃ reply : SaiagentMsg, m.tlv = some reply.payload ∧ WellFormedReply reply

/-- If the message carries a request, that request is harmless. -/
def HarmlessDelivery (st : LoopState σ) (d : Delivery) : Prop :=
  ∀ q ∈ d.request, Harmless st.session (servedBy st d.heard).input

/-- The loop has whole buffers and an orderly heap, and has not crashed. -/
structure Serving (st : LoopState σ) : Prop where
  whole : st.Whole
  heap : st.session.HeapOk
  crashed : st.crashed = false

/-- A message is received exactly when it carries a request. -/
theorem Serving.received_iff (h : Serving st) :
    (∀ q ∈ d.request, Received st d.heard ∧ (stored st d.heard).request = q) ∧
      (d.request = none → ¬Received st d.heard) := by
  have hlast : d.heard.recv.batch = [] ++ [d.msg.toNlMsg] := rfl
  refine ⟨fun q hq ↦ h.whole.received_of_last hlast hq rfl, fun hnone hrecv ↦ ?_⟩
  obtain ⟨hnil, -⟩ | ⟨batch, m, hcons, hm⟩ := h.whole.received_cases hrecv
  · cases hnil
  · obtain ⟨rfl, hm'⟩ := List.append_inj' (hlast.symm.trans hcons) rfl
    cases hm'
    cases hnone.symm.trans hm

/-- The step lemma of the loop. -/
theorem Serving.hear (hsai : SaneSai E) (h : Serving st) (hl : st.Live)
    (hharmless : HarmlessDelivery st d) : Serving (hear E st d) := by
  have habs : (loopBody E st d.heard).session =
      exec Session.Live (serve E) st.session (handsOver st d.heard) :=
    (loopRefinement E).abs_step st d.heard hl h.whole
  have hlive : st.session.Live := hl
  rcases hq : d.request with _ | q
  · rw [handsOver, if_neg (h.received_iff.2 hq), exec_nil] at habs
    refine ⟨h.whole.step, ?_, ?_⟩
    · rw [Program.hear, habs]
      exact h.heap
    · exact (congrArg Session.crashed habs).trans h.crashed
  · rw [handsOver, if_pos (h.received_iff.1 q hq).1, exec_cons_of_live hlive, exec_nil,
      serve] at habs
    refine ⟨h.whole.step, ?_, ?_⟩
    · rw [Program.hear, habs]
      exact h.heap.step hl _
    · exact (congrArg Session.crashed habs).trans ((repliesWell_iff_not_crashed _ _).1
        ((repliesWell_step_iff hsai (h.heap hl) _).2 (hharmless q hq).1))

/-- **What an iteration sends** is a reply to the request it hears, if it hears one. -/
theorem Serving.replies (hsai : SaneSai E) (h : Serving st) (hl : st.Live)
    (hharmless : HarmlessDelivery st d) :
    List.Forall₂ Replies d.request.toList (iterationLog E st d.heard).sent := by
  have hlive : st.session.Live := hl
  rw [h.whole.sent_iterationLog hl]
  rcases hq : d.request with _ | q
  · rw [handsOver, if_neg (h.received_iff.2 hq), outputs_nil]
    exact List.Forall₂.nil
  · obtain ⟨hrecv, rfl⟩ := h.received_iff.1 q hq
    rw [handsOver, if_pos hrecv, outputs_singleton hlive, answers]
    obtain ⟨reply, w', hrun, hwell⟩ :=
      (repliesWell_step_iff hsai (h.heap hl) _).2 (hharmless _ hq).1
    rw [hrun]
    have hworks : SendOutcome.Works ⟨true, true, 0, 0⟩ := ⟨rfl, rfl, rfl, by decide⟩
    dsimp only
    rw [if_pos (show (servedBy st d.heard).send.Works from hworks)]
    exact List.Forall₂.cons ⟨rfl, rfl, rfl, reply, rfl, hwell⟩ List.Forall₂.nil

end Program

end SaiAgent
