import SaiAgent.Model.Agent

/-!
# Building a reply

`saiagent_ipc_put_reply_ack` and the clear-then-put sequence the handlers use, with what they
leave in the reply buffer. A `Reply` is a message over an allocation of `SAIAGENT_MSG_MAX_SIZE`
bytes; both functions keep that invariant, so a handler can never be handed a smaller buffer.
-/

namespace SaiAgent

open Effects Effects.Proc Effects.Bytes

/-- `saiagent_msg_clear(reply); saiagent_msg_put_data(reply, &param, sizeof(param))`, the status
ignored as the callers do. -/
def replaceWith (reply : SaiagentMsg) (bytes : List UInt8) : Except Fault SaiagentMsg :=
  match saiagentMsgPutData (saiagentMsgClear reply) bytes (UInt64.ofNat bytes.length) with
  | .ok (_, reply') => .ok reply'
  | .error e => .error e

/-- The response structure of `saiagent_ipc_put_reply_ack`. -/
def ackResponse (status : Rc) : PresteraMsgRet :=
  ⟨PresteraCmdType.ack, if rcStatusOk = status then presteraCmdAckOk else presteraCmdAckFailed⟩

/-- `saiagent_ipc_put_reply_ack`. -/
def saiagentIpcPutReplyAck (msg : SaiagentMsg) (status : Rc) : Except Fault SaiagentMsg :=
  replaceWith msg (ackResponse status).bytes

/-- A message over the loop's reply buffer. -/
structure IsReply (m : SaiagentMsg) : Prop where
  buff : ∃ b, m.buff = some b ∧ b.length = saiagentMsgMaxSize
  size : m.size = UInt64.ofNat saiagentMsgMaxSize
  payload_le : m.payloadSize.toNat ≤ saiagentMsgMaxSize

/-- All of the payload is there. -/
theorem IsReply.length_payload {m : SaiagentMsg} (h : IsReply m) :
    m.payload.length = m.payloadSize.toNat := by
  obtain ⟨b, hb, hlen⟩ := h.buff
  rw [SaiagentMsg.payload, hb, Option.getD_some, List.length_take, hlen]
  exact Nat.min_eq_left h.payload_le

/-- A structure of whole words fits the reply buffer and becomes its payload. -/
theorem replaceWith_eq {reply : SaiagentMsg} (h : IsReply reply) {bytes : List UInt8} {n : ℕ}
    (hn : bytes.length = 4 * n) (hle : 4 * n ≤ saiagentMsgMaxSize) :
    ∃ reply', replaceWith reply bytes = .ok reply' ∧ IsReply reply' ∧ reply'.payload = bytes ∧
      reply'.payloadSize = UInt64.ofNat (4 * n) := by
  obtain ⟨b, hb, hlen⟩ := h.buff
  have hmax : saiagentMsgMaxSize = 1500 := rfl
  have hsize : (UInt64.ofNat saiagentMsgMaxSize).toNat = 1500 := by decide
  have hput : saiagentMsgPutData (saiagentMsgClear reply) bytes (UInt64.ofNat (4 * n)) = _ :=
    saiagentMsgPutData_words hb (UInt64.le_iff_toNat_le.2 (Nat.zero_le _))
    (by rw [saiagentMsgClear, h.size, hsize, hlen]; omega) (by omega) (by omega)
    (by
      rw [saiagentMsgClear, h.size, hsize]
      simp only [UInt64.reduceToNat]
      omega)
  refine ⟨⟨some (bytes ++ b.drop (4 * n)), reply.size, UInt64.ofNat (4 * n), none⟩, ?_,
    ⟨⟨_, rfl, ?_⟩, h.size, ?_⟩, ?_, rfl⟩
  · rw [replaceWith, hn, hput]
    simp only [saiagentMsgClear, UInt64.reduceToNat, List.take_zero, List.nil_append, Nat.zero_add,
      UInt64.zero_add, ← hn, List.take_length]
  · rw [List.length_append, List.length_drop]
    omega
  · show (UInt64.ofNat (4 * n)).toNat ≤ _
    rw [UInt64.toNat_ofNat']
    omega
  · have hp : (UInt64.ofNat (4 * n)).toNat = bytes.length := by
      rw [UInt64.toNat_ofNat']
      omega
    simp only [SaiagentMsg.payload, Option.getD_some, hp, List.take_left']

/-- The acknowledgement is always laid out, and is the reply's whole payload. -/
theorem saiagentIpcPutReplyAck_eq {reply : SaiagentMsg} (h : IsReply reply) (status : Rc) :
    ∃ reply', saiagentIpcPutReplyAck reply status = .ok reply' ∧ IsReply reply' ∧
      reply'.payload = (ackResponse status).bytes := by
  obtain ⟨reply', h₁, h₂, h₃, -⟩ := replaceWith_eq h (n := 2)
    (PresteraMsgRet.length_bytes (ackResponse status)) (by decide)
  exact ⟨reply', h₁, h₂, h₃⟩

/-- What a returned acknowledgement looks like. -/
theorem isReply_of_putReplyAck {reply reply' : SaiagentMsg} (h : IsReply reply) {status : Rc}
    (he : saiagentIpcPutReplyAck reply status = .ok reply') :
    IsReply reply' ∧ reply'.payload = (ackResponse status).bytes := by
  obtain ⟨r, h₁, h₂, h₃⟩ := saiagentIpcPutReplyAck_eq h status
  cases h₁.symm.trans he
  exact ⟨h₂, h₃⟩

/-- What a returned structure of whole words looks like. -/
theorem isReply_of_replaceWith {reply reply' : SaiagentMsg} (h : IsReply reply)
    {bytes : List UInt8} {n : ℕ} (hn : bytes.length = 4 * n) (hle : 4 * n ≤ saiagentMsgMaxSize)
    (he : replaceWith reply bytes = .ok reply') : IsReply reply' ∧ reply'.payload = bytes := by
  obtain ⟨r, h₁, h₂, h₃, -⟩ := replaceWith_eq h hn hle
  cases h₁.symm.trans he
  exact ⟨h₂, h₃⟩

/-! ### Reading a reply -/

/-- The status word of a reply, as the driver reads it. -/
def replyStatus (reply : SaiagentMsg) : UInt32 := readLe32 reply.payload 4

/-- The second word of the common header is the status. -/
theorem readLe32_ret (r : PresteraMsgRet) (t : List UInt8) :
    readLe32 (r.bytes ++ t) 4 = r.status := by
  rw [PresteraMsgRet.bytes, List.append_assoc, readLe32_append_right (length_le32 _),
    readLe32_le32_append]

theorem replyStatus_of_payload {reply : SaiagentMsg} {r : PresteraMsgRet} {t : List UInt8}
    (h : reply.payload = r.bytes ++ t) : replyStatus reply = r.status := by
  rw [replyStatus, h, readLe32_ret]

theorem replyStatus_ack {reply : SaiagentMsg} {status : Rc}
    (h : reply.payload = (ackResponse status).bytes) :
    replyStatus reply = (ackResponse status).status :=
  replyStatus_of_payload (t := []) (by rw [h, List.append_nil])

/-- Acknowledge a status, from the reply the loop hands out. -/
theorem run_lift_putReplyAck {σ : Type} {reply : SaiagentMsg} (h : IsReply reply) (status : Rc)
    (w : World σ) :
    ∃ reply', EStateM.run (lift (saiagentIpcPutReplyAck reply status) : AgentM σ SaiagentMsg) w =
        .ok reply' w ∧
      replyStatus reply' = (ackResponse status).status := by
  obtain ⟨reply', h₁, -, h₃⟩ := saiagentIpcPutReplyAck_eq h status
  exact ⟨reply', by rw [h₁, run_lift_ok], replyStatus_ack h₃⟩

theorem ackResponse_status_eq_ok {status : Rc} :
    (ackResponse status).status = presteraCmdAckOk ↔ status = rcStatusOk := by
  by_cases h : status = rcStatusOk
  · simp [ackResponse, h]
  · have h' : ¬rcStatusOk = status := fun e ↦ h e.symm
    simp [ackResponse, h, h', presteraCmdAckOk, presteraCmdAckFailed]

theorem ackResponse_status_eq_failed {status : Rc} :
    (ackResponse status).status = presteraCmdAckFailed ↔ status ≠ rcStatusOk := by
  by_cases h : status = rcStatusOk
  · simp [ackResponse, h, presteraCmdAckOk, presteraCmdAckFailed]
  · have h' : ¬rcStatusOk = status := fun e ↦ h e.symm
    simp [ackResponse, h, h']

end SaiAgent
