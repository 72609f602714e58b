import SaiAgent.Properties.LoopRefinement
import SaiAgent.Properties.PortEvents
import SaiAgent.Properties.Senders

/-!
# What the driver receives

The driver sees one stream of messages from all the agent's threads. Each thread's part of it is
what the thread would have sent alone (`sends_sequential`). So the replies in the stream are those
of the session the receive loop is, in its order, and all else in it are whole events
(`wire_of_agent`).
-/

namespace SaiAgent

open Effects Effects.Run

variable {ι : Type} [DecidableEq ι] {σ : Type} {E : SaiBackend σ}

/-! ### One thread's part -/

/-- What a thread sent. -/
def sentBy (i : ι) (wire : List (ι × NlSent)) : List NlSent :=
  (wire.filter fun e ↦ e.1 = i).map Prod.snd

theorem sentBy_append (i : ι) (wire wire' : List (ι × NlSent)) :
    sentBy i (wire ++ wire') = sentBy i wire ++ sentBy i wire' := by
  rw [sentBy, List.filter_append, List.map_append]
  rfl

theorem sentBy_of_eq (i : ι) (ms : List NlSent) : sentBy i (ms.map fun m ↦ (i, m)) = ms := by
  induction ms with
  | nil => rfl
  | cons m ms ih =>
    rw [List.map_cons, sentBy, List.filter_cons_of_pos (by simp), List.map_cons]
    exact congrArg (m :: ·) ih

theorem sentBy_of_ne {i j : ι} (hij : j ≠ i) (ms : List NlSent) :
    sentBy i (ms.map fun m ↦ (j, m)) = [] := by
  induction ms with
  | nil => rfl
  | cons m ms ih =>
    rw [List.map_cons, sentBy, List.filter_cons_of_neg (by simpa using hij)]
    exact ih

/-- The thread has made these calls, with these outcomes. -/
structure HasMade (calls : List SendCall) (a : Atomic ι) (i : ι)
    (made : List (SendCall × SendOutcome)) : Prop where
  calls : calls = made.map Prod.fst ++ a.calls i
  returned : a.returned i = made.map fun e ↦ (e.1.send e.2).1
  sent : sentBy i a.wire = made.flatMap fun e ↦ (e.1.send e.2).2.toList

/-- Every thread has made some of its calls. -/
def Sequential (calls : ι → List SendCall) (a : Atomic ι) : Prop :=
  ∀ i, ∃ made, HasMade (calls i) a i made

theorem Sequential.step {calls : ι → List SendCall} {a : Atomic ι} (h : Sequential calls a)
    (k : ι × SendOutcome) : Sequential calls (a.step k) := by
  obtain ⟨j, o⟩ := k
  rcases hcalls : a.calls j with _ | ⟨call, rest⟩
  · rwa [Atomic.step, hcalls]
  rw [Atomic.step_of_calls hcalls]
  intro i
  obtain ⟨made, hmade⟩ := h i
  by_cases hij : j = i
  · subst hij
    refine ⟨made ++ [(call, o)], ?_, ?_, ?_⟩
    · rw [hmade.calls, hcalls, List.map_append, List.append_assoc]
      simp
    · rw [List.map_append, ← hmade.returned]
      simp
    · rw [sentBy_append, hmade.sent, sentBy_of_eq, List.flatMap_append, List.flatMap_singleton]
  · refine ⟨made, ?_, ?_, ?_⟩
    · simpa [Function.update_of_ne (Ne.symm hij)] using hmade.calls
    · simpa [Function.update_of_ne (Ne.symm hij)] using hmade.returned
    · rw [sentBy_append, sentBy_of_ne hij, List.append_nil, hmade.sent]

/-- **No thread notices the others.** What a thread has sent and what its calls have returned is
what the same calls send and return one after the other, with the library's answers it got. -/
theorem sends_sequential (calls : ι → List SendCall) (turns : List (SendTurn ι)) (i : ι) :
    ∃ made, HasMade (calls i) (Channel.run (Channel.start calls) turns).abs i made := by
  obtain ⟨-, ks, hks⟩ := Channel.sends_linearize calls turns
  have hstart : Sequential calls (Atomic.start calls) := fun i ↦ ⟨[], rfl, rfl, rfl⟩
  rw [hks]
  exact exec_invariant_of_all (fun a k _ h ↦ h.step k) ks _ hstart i

/-- The messages of the calls that succeeded. -/
def okMessages (messages : List NlSent) (statuses : List Rc) : List NlSent :=
  ((messages.zip statuses).filter fun e ↦ e.2 = rcStatusOk).map Prod.fst

/-- A call sends its message exactly when it succeeds. -/
theorem SendCall.send_cases (c : SendCall) (o : SendOutcome) :
    (c.send o).2.toList = if (c.send o).1 = rcStatusOk then [c.message] else [] := by
  have herr : (rcStatusErr, (none : Option NlSent)).2.toList =
      if rcStatusErr = rcStatusOk then [c.message] else [] := rfl
  rw [SendCall.send_eq]
  split
  · exact herr
  · split
    · exact herr
    · split
      · exact herr
      · split
        · exact herr
        · rfl

/-- **What a thread has sent** are the messages of the calls that returned success. -/
theorem sentBy_eq (calls : ι → List SendCall) (turns : List (SendTurn ι)) (i : ι) :
    sentBy i (Channel.run (Channel.start calls) turns).wire =
      okMessages ((calls i).map SendCall.message)
        ((Channel.run (Channel.start calls) turns).abs.returned i) := by
  obtain ⟨made, hmade⟩ := sends_sequential calls turns i
  have hsent : sentBy i (Channel.run (Channel.start calls) turns).wire = _ := hmade.sent
  rw [hsent, hmade.returned, hmade.calls, okMessages, List.map_append, List.map_map]
  clear hmade hsent
  induction made with
  | nil => simp
  | cons e made ih =>
    rw [List.flatMap_cons, ih, SendCall.send_cases]
    simp only [List.map_cons, List.cons_append, List.zip_cons_cons]
    by_cases hok : (e.1.send e.2).1 = rcStatusOk
    · rw [if_pos hok, List.filter_cons_of_pos (by simpa using hok)]
      rfl
    · rw [if_neg hok, List.filter_cons_of_neg (by simpa using hok)]
      rfl

theorem mem_sentBy {wire : List (ι × NlSent)} {i : ι} {m : NlSent} :
    m ∈ sentBy i wire ↔ (i, m) ∈ wire := by
  simp [sentBy]

theorem mem_of_mem_okMessages {messages : List NlSent} {statuses : List Rc} {m : NlSent}
    (h : m ∈ okMessages messages statuses) : m ∈ messages := by
  obtain ⟨e, he, rfl⟩ := List.mem_map.1 h
  exact (List.of_mem_zip (List.mem_of_mem_filter he)).1

/-! ### The agent's threads -/

/-- The threads of the agent. -/
inductive AgentThread where
  /-- `saiagent_ipc_enter_loop`. -/
  | loop
  /-- The `n`th thread of a keepalive context. -/
  | keepalive (n : ℕ)
  /-- Where SAI calls `sai_on_port_state_change_notify`. -/
  | notification
  deriving DecidableEq

/-- The call the loop makes for a request. -/
def replyCalls (E : SaiBackend σ) (s : Session σ) (k : Served) : List SendCall :=
  match Session.handle E s.world k.input with
  | .ok reply _ => [replyCall reply k.pid k.seq]
  | .error _ _ => []

/-- The reply to a request. -/
def replies (E : SaiBackend σ) (s : Session σ) (k : Served) : List NlSent :=
  match Session.handle E s.world k.input with
  | .ok reply _ => [⟨.reply, k.pid, k.seq, some reply.payload⟩]
  | .error _ _ => []

/-- The calls of the agent's threads: the loop serves these requests, the keepalive threads call
their routine so often, and SAI notifies of these ports. -/
def agentCalls (E : SaiBackend σ) (s : Session σ) (ks : List Served) (pulses : ℕ → ℕ)
    (data : List SaiPortOperStatusNotification) : AgentThread → List SendCall
  | .loop => outputs Session.Live (serve E) (replyCalls E) s ks
  | .keepalive n => List.replicate (pulses n) keepaliveRoutine
  | .notification => data.map notifyCall

/-- The message of a pulse. -/
def pulseMsg : NlSent := ⟨.event, nlAuto, nlAuto, some pulseEvent.bytes⟩

theorem message_keepaliveRoutine : keepaliveRoutine.message = pulseMsg := rfl

theorem message_notifyCall (data : SaiPortOperStatusNotification) :
    (notifyCall data).message = portEventMsg data := by
  have hlen : (portEvent data).bytes.take (20 : UInt64).toNat = (portEvent data).bytes :=
    List.take_of_length_le (Nat.le_of_eq (portEvent data).length_bytes)
  have hsize : (20 : UInt64) > 0 := by decide
  rw [SendCall.message, SendCall.tlv, notifyCall, if_pos hsize, Option.map_some, hlen]
  rfl

/-- A reply is sent whole. -/
theorem message_replyCalls (s : Session σ) (k : Served) :
    (replyCalls E s k).map SendCall.message = replies E s k := by
  rw [replyCalls, replies]
  rcases hr : Session.handle E s.world k.input with ⟨reply, w⟩ | ⟨f, w⟩
  · have hbuf : 4 ≤ k.input.buf.bytes.length := by
      rw [k.input.buf.length_eq]
      decide
    obtain ⟨hreply, hlen⟩ := processReq_reply hbuf k.input.out.length_eq hr
    obtain ⟨b, hb, -⟩ := hreply.buff
    have hsize : reply.payloadSize > 0 := by
      rw [hreply.length_payload] at hlen
      rw [gt_iff_lt, UInt64.lt_iff_toNat_lt]
      exact Nat.lt_of_lt_of_le (by decide) hlen
    show [(replyCall reply k.pid k.seq).message] = [⟨.reply, k.pid, k.seq, some reply.payload⟩]
    rw [SendCall.message, SendCall.tlv, replyCall, if_pos hsize, SaiagentMsg.payload, hb]
    rfl
  · rfl

section Wire

variable (E : SaiBackend σ) (s : Session σ) (ks : List Served) (pulses : ℕ → ℕ)
  (data : List SaiPortOperStatusNotification)

theorem messages_loop : (agentCalls E s ks pulses data .loop).map SendCall.message =
    outputs Session.Live (serve E) (replies E) s ks := by
  rw [agentCalls, map_outputs]
  exact congrArg (fun out ↦ outputs Session.Live (serve E) out s ks)
    (funext fun s ↦ funext fun k ↦ message_replyCalls s k)

/-- Replies come from the loop. -/
theorem type_eq_reply_iff {i : AgentThread} {m : NlSent}
    (h : m ∈ (agentCalls E s ks pulses data i).map SendCall.message) :
    m.type = .reply ↔ i = .loop := by
  cases i with
  | loop =>
    rw [messages_loop] at h
    obtain ⟨s', k, -, hm⟩ := exists_of_mem_outputs h
    refine iff_of_true ?_ rfl
    rw [replies] at hm
    split at hm
    · rw [List.mem_singleton.1 hm]
    · cases hm
  | keepalive n =>
    obtain ⟨c, hc, rfl⟩ := List.mem_map.1 h
    rw [List.eq_of_mem_replicate hc]
    exact iff_of_false (fun ht ↦ by cases ht) fun hi ↦ by cases hi
  | notification =>
    obtain ⟨c, hc, rfl⟩ := List.mem_map.1 h
    obtain ⟨d, -, rfl⟩ := List.mem_map.1 hc
    exact iff_of_false (fun ht ↦ by cases ht) fun hi ↦ by cases hi

/-- **What the driver receives.** Of all the agent's threads send, however they are interleaved, the
replies are those of the session, in its order, whose sending succeeded; everything else is a whole
pulse or a whole event of a port SAI notified of. -/
theorem wire_of_agent (turns : List (SendTurn AgentThread)) :
    let channel := Channel.run (Channel.start (agentCalls E s ks pulses data)) turns
    ((channel.wire.map Prod.snd).filter fun m ↦ m.type = .reply) =
        okMessages (outputs Session.Live (serve E) (replies E) s ks) (channel.abs.returned .loop) ∧
      ∀ m ∈ channel.wire.map Prod.snd, m.type ≠ .reply →
        m = pulseMsg ∨ ∃ d ∈ data, m = portEventMsg d := by
  intro channel
  -- Whose message it is, its type says.
  have hsent : ∀ i m, (i, m) ∈ channel.wire →
      m ∈ (agentCalls E s ks pulses data i).map SendCall.message := fun i m h ↦
    mem_of_mem_okMessages ((sentBy_eq _ turns i) ▸ mem_sentBy.2 h)
  constructor
  · have hfilter : channel.wire.filter (fun e ↦ decide (e.2.type = .reply)) =
        channel.wire.filter fun e ↦ decide (e.1 = .loop) :=
      List.filter_congr fun e he ↦
        decide_eq_decide.2 (type_eq_reply_iff E s ks pulses data (hsent e.1 e.2 he))
    rw [List.filter_map]
    exact (congrArg (List.map Prod.snd) hfilter).trans
      ((sentBy_eq _ turns .loop).trans (by rw [messages_loop]))
  · intro m hm hne
    obtain ⟨⟨i, m'⟩, he, rfl⟩ := List.mem_map.1 hm
    have hmem := hsent i m' he
    cases i with
    | loop => exact absurd ((type_eq_reply_iff E s ks pulses data hmem).2 rfl) hne
    | keepalive n =>
      obtain ⟨c, hc, hcm⟩ := List.mem_map.1 hmem
      left
      rw [← message_keepaliveRoutine, ← List.eq_of_mem_replicate hc]
      exact hcm.symm
    | notification =>
      obtain ⟨c, hc, hcm⟩ := List.mem_map.1 hmem
      obtain ⟨d, hd, rfl⟩ := List.mem_map.1 hc
      exact Or.inr ⟨d, hd, hcm.symm.trans (message_notifyCall d)⟩

end Wire

end SaiAgent
