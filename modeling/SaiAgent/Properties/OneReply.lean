import Mathlib.Data.List.Induction
import SaiAgent.Properties.ReplyLayout
import SaiAgent.Properties.Returning

/-!
# One reply to each request

`saiagent_ipc_process_req` answers every request once: through the handler last registered for its
command word, or, where there is none, with a refusal and nothing else. `oneReply_iff` says when the
answer is a well-formed reply: always, but for a SWITCH_INIT that gets no memory for the hardware
information and a SWITCH_RESET whose joined thread left a result that is no allocation.
-/

namespace SaiAgent

open Effects Effects.Proc Effects.Bytes

variable {σ : Type} {E : SaiBackend σ} {rt : Runtime}

/-! ### Registration histories -/

/-- The agent after these registrations. -/
def registrations (w : World σ) (regs : List (ℕ × Handler)) : World σ :=
  regs.foldl (fun w r ↦ worldOf (EStateM.run (saiagentIpcCbSet r.1 r.2) w)) w

/-- The handler last registered for a command; a registration out of range has no effect. -/
def lastRegistered (regs : List (ℕ × Handler)) (cmd : ℕ) : Option Handler :=
  if cmd < PresteraCmdType.max then (regs.reverse.find? fun r ↦ r.1 = cmd).map Prod.snd else none

/-- A registration in range is an entry of the table, one out of range is refused. -/
theorem ipcCbList_cbSet (w : World σ) (type : ℕ) (cb : Handler) :
    (worldOf (EStateM.run (saiagentIpcCbSet type cb) w)).state.ipcCbList =
      if type < PresteraCmdType.max then Function.update w.state.ipcCbList type (some cb)
      else w.state.ipcCbList := by
  rw [saiagentIpcCbSet]
  by_cases h : type ≥ PresteraCmdType.max
  · rw [if_pos h, if_neg (Nat.not_lt.2 h)]
    rfl
  · rw [if_neg h, if_pos (Nat.lt_of_not_le h)]
    rfl

/-- **The table holds what was registered last.** The induction is over the history, from its
end. -/
theorem ipcCbList_registrations {w : World σ} (hw : w.state.ipcCbList = fun _ ↦ none)
    (regs : List (ℕ × Handler)) {cmd : ℕ} (hcmd : cmd < PresteraCmdType.max) :
    (registrations w regs).state.ipcCbList cmd = lastRegistered regs cmd := by
  rw [lastRegistered, if_pos hcmd]
  induction regs using List.reverseRecOn with
  | nil =>
    show w.state.ipcCbList cmd = none
    rw [hw]
  | append_singleton regs r ih =>
    have hstep : registrations w (regs ++ [r]) =
        worldOf (EStateM.run (saiagentIpcCbSet r.1 r.2) (registrations w regs)) :=
      List.foldl_append
    rw [hstep, ipcCbList_cbSet, List.reverse_append, List.reverse_singleton, List.singleton_append,
      List.find?_cons]
    by_cases hr : r.1 = cmd
    · subst hr
      rw [if_pos hcmd, Function.update_self, decide_eq_true rfl]
      rfl
    · rw [decide_eq_false hr, ← ih]
      split
      · exact Function.update_of_ne (Ne.symm hr) ..
      · rfl

/-- The handler of a request: it must have a command word, in range and registered. -/
def Reaches (regs : List (ℕ × Handler)) (buf : List UInt8) (size : UInt64)
    (handler : Handler) : Prop :=
  4 ≤ size ∧ lastRegistered regs (cmdOf buf) = some handler

theorem selected_eq_some_iff {w : World σ} {regs : List (ℕ × Handler)}
    (htable : ∀ cmd < PresteraCmdType.max, w.state.ipcCbList cmd = lastRegistered regs cmd)
    {buf : List UInt8} {size : UInt64} {handler : Handler} :
    selected w.state.ipcCbList buf size = some handler ↔ Reaches regs buf size handler := by
  rw [selected, Reaches]
  by_cases hsize : 4 ≤ size
  · by_cases hcmd : cmdOf buf < PresteraCmdType.max
    · rw [if_pos hsize, if_pos hcmd, htable _ hcmd]
      exact (and_iff_right hsize).symm
    · rw [if_pos hsize, if_neg hcmd, lastRegistered, if_neg hcmd]
      exact (and_iff_right hsize).symm
  · rw [if_neg hsize]
    exact iff_of_false (fun h ↦ by cases h) fun h ↦ hsize h.1

/-! ### Well-formed replies -/

/-- A whole number of words between a header and the largest message, starting with the header of an
acknowledgement. -/
structure WellFormedReply (reply : SaiagentMsg) : Prop where
  words : 4 ∣ reply.payloadSize.toNat
  le_size : 8 ≤ reply.payloadSize.toNat
  size_le : reply.payloadSize.toNat ≤ saiagentMsgMaxSize
  /-- What the size announces is there. -/
  length_payload : reply.payload.length = reply.payloadSize.toNat
  cmd : readLe32 reply.payload 0 = PresteraCmdType.ack
  status : replyStatus reply = presteraCmdAckOk ∨ replyStatus reply = presteraCmdAckFailed

/-- Every payload a handler owes is an acknowledgement header with more words behind it. -/
theorem ReplyPayload.exists_header {handler : Handler} {buf p : List UInt8}
    (h : ReplyPayload handler buf p) :
    ∃ (r : PresteraMsgRet) (t : List UInt8), p = r.bytes ++ t ∧ r.cmd = PresteraCmdType.ack ∧
      (r.status = presteraCmdAckOk ∨ r.status = presteraCmdAckFailed) ∧ 4 ∣ t.length := by
  have hack : ∀ status, p = (ackResponse status).bytes →
      ∃ (r : PresteraMsgRet) (t : List UInt8), p = r.bytes ++ t ∧ r.cmd = PresteraCmdType.ack ∧
        (r.status = presteraCmdAckOk ∨ r.status = presteraCmdAckFailed) ∧ 4 ∣ t.length := by
    rintro status rfl
    refine ⟨ackResponse status, [], (List.append_nil _).symm, rfl, ?_, Nat.dvd_zero 4⟩
    by_cases hs : status = rcStatusOk
    · exact Or.inl (ackResponse_status_eq_ok.2 hs)
    · exact Or.inr (ackResponse_status_eq_failed.2 hs)
  cases handler with
  | switchInit =>
    rcases h with ⟨n, rfl⟩ | h
    · refine ⟨PresteraMsgRet.ackOk, (switchInitResponse n).bytes.drop 8, ?_, rfl, Or.inl rfl, ?_⟩
      · rw [PresteraMsgSwitchInitResp.bytes, List.append_assoc, List.append_assoc,
          List.append_assoc, List.drop_left' (PresteraMsgRet.length_bytes _)]
        rfl
      · rw [List.length_drop, PresteraMsgSwitchInitResp.length_bytes]
        decide
    · exact hack _ h
  | portInfoGet =>
    obtain ⟨r, hret, rfl⟩ := h
    refine ⟨r.ret, le32 r.hwId ++ (le32 r.devId ++ (le16 r.fpId ++ le16 r.pad)), ?_,
      by rw [hret]; rfl, Or.inl (by rw [hret]; rfl), by simp⟩
    rw [PresteraMsgPortInfoResp.bytes, List.append_assoc, List.append_assoc, List.append_assoc]
  | portAttrGet =>
    refine ⟨_, _, h, by rw [portAttrResponses_ret]; rfl,
      Or.inl (by rw [portAttrResponses_ret]; rfl), ?_⟩
    rw [PresteraMsgPortParam.length_eq]
    decide
  | keepaliveInit | switchReset | portAttrSet | vlanPortSet | vlanPvidSet | routerVrCreate
  | switchAttrSet | vlanCreate | vlanDelete | stpPortSet | fdbFlushPort | routerMpHashSet
  | routerVrDel | routerLpmAdd | routerLpmDel =>
    obtain ⟨status, h⟩ := h
    exact hack status h

/-- What a handler returns is well formed. -/
theorem wellFormedReply_of_goodReply {handler : Handler} {buf : List UInt8} {reply : SaiagentMsg}
    (h : GoodReply handler buf reply) : WellFormedReply reply := by
  obtain ⟨r, t, hp, hcmd, hstatus, hlen⟩ := h.2.exists_header
  have hsize := h.1.length_payload
  have hle := h.2.le_length
  have hlength : reply.payload.length = 8 + t.length := by
    rw [hp, List.length_append, PresteraMsgRet.length_bytes]
  refine ⟨by omega, by omega, h.1.payload_le, hsize, ?_, ?_⟩
  · rw [hp, PresteraMsgRet.bytes, List.append_assoc, readLe32_le32_append, hcmd]
  · rw [replyStatus_of_payload hp]
    exact hstatus

/-- The run ends with a well-formed reply. -/
def RepliesWell (r : EStateM.Result Fault (World σ) SaiagentMsg) : Prop :=
  ∃ reply w', r = .ok reply w' ∧ WellFormedReply reply

theorem repliesWell_iff_exists {handler : Handler} {request reply : SaiagentMsg}
    (hr : IsReply reply) (w : World σ) :
    RepliesWell (EStateM.run (handler.run E rt request reply) w) ↔
      ∃ reply' w', EStateM.run (handler.run E rt request reply) w = .ok reply' w' := by
  constructor
  · rintro ⟨reply', w', h, -⟩
    exact ⟨reply', w', h⟩
  · rintro ⟨reply', w', h⟩
    exact ⟨reply', w', h, wellFormedReply_of_goodReply
      (handler_reply (P := fun _ ↦ True) handler hr w trivial _ _ h)⟩

/-! ### The two handlers that may not return -/

variable {request reply : SaiagentMsg}

/-- A sane SAI lets SWITCH_INIT come to allocate the hardware information. -/
theorem run_saiSwitchInit_of_sane (hsai : SaneSai E) (w : World σ) :
    ∃ w', EStateM.run (saiSwitchInit E rt) w = EStateM.run (createSwitch E rt) w' := by
  rw [saiSwitchInit, run_saiRetErr_plainCall_of_ok (hsai.query_ok _ _),
    run_saiRetErr_plainCall_of_ok (hsai.query_ok _ _)]
  exact ⟨_, rfl⟩

/-- SWITCH_INIT returns exactly when it gets memory for the hardware information. -/
theorem switchInit_returns_iff (hsai : SaneSai E) (hr : IsReply reply) (w : World σ) :
    (∃ reply' w', EStateM.run (saiagentIpcProcessSwitchInit E rt request reply) w = .ok reply' w') ↔
      rt.hwInfoMalloc = true := by
  constructor
  · rintro ⟨reply', w', h⟩
    by_contra hmalloc
    obtain ⟨w₁, hrun⟩ := @run_saiSwitchInit_of_sane _ E rt hsai w
    rw [createSwitch, if_neg hmalloc, run_fault] at hrun
    rw [saiagentIpcProcessSwitchInit, EStateM.run_bind, saiagentSwitchInit,
      EStateM.run_bind, hrun] at h
    cases h
  · intro hmalloc
    obtain ⟨reply', w', h, -⟩ :=
      total_saiagentIpcProcessSwitchInit hsai.toKeepsRoom hmalloc hr w trivial
    exact ⟨reply', w', h⟩

/-- The keepalive context `sw_info` names is there. -/
def KeepalivePresent (a : Agent) : Prop :=
  ∃ p, derefThread a.threads a.swInfo.keepaliveCtx = .ok p

/-- SWITCH_RESET returns exactly when there is nothing to reset or the thread can be destroyed. -/
theorem switchReset_returns_iff (hsai : SaneSai E) (hr : IsReply reply) {w : World σ}
    (hctx : KeepalivePresent w.state) :
    (∃ reply' w', EStateM.run (saiagentIpcProcessSwitchReset E rt request reply) w =
      .ok reply' w') ↔ (w.state.swInfo.switchOid ≠ saiNullObjectId → rt.Destroys) := by
  obtain ⟨⟨i, slot⟩, hctx⟩ := hctx
  obtain ⟨reply', hack, -⟩ := saiagentIpcPutReplyAck_eq hr rcStatusOk
  by_cases hoid : w.state.swInfo.switchOid ≠ saiNullObjectId
  · rw [run_switchReset hoid hctx (hsai.query_ok _ _), hack]
    rcases hfault : rt.destroyFault with _ | e
    · exact iff_of_true ⟨reply', _, rfl⟩ fun _ ↦ Runtime.destroyFault_eq_none_iff.1 hfault
    · refine iff_of_false ?_ fun h ↦ ?_
      · rintro ⟨_, _, h⟩
        cases h
      · cases hfault.symm.trans (Runtime.destroyFault_eq_none_iff.2 (h hoid))
  · refine iff_of_true ⟨reply', w, ?_⟩ fun h ↦ absurd h hoid
    rw [saiagentIpcProcessSwitchReset, run_getState_bind, if_neg hoid, hack, run_lift_ok]

/-! ### Every request -/

/-- A request nobody handles is refused: the reply is the bare header, and nothing else happened. -/
theorem run_processReq_of_not_selected {buf out : List UInt8} {size : UInt64} {w : World σ}
    (hbuf : 4 ≤ buf.length) (hout : out.length = saiagentMsgMaxSize)
    (hsel : selected w.state.ipcCbList buf size = none) :
    ∃ reply, EStateM.run (saiagentIpcProcessReq E rt buf size (some out)
        (UInt64.ofNat saiagentMsgMaxSize)) w = .ok reply w ∧
      reply.payload = (PresteraMsgRet.mk PresteraCmdType.ack presteraCmdAckFailed).bytes ∧
      WellFormedReply reply := by
  have hfresh := isReply_freshReply hout
  have hst : (if 4 ≤ size then rcStatusNotSupp else rcStatusErr) ≠ rcStatusOk := by
    split <;> decide
  obtain ⟨reply, h, hgood, hp⟩ := saiagentIpcPutReplyAck_eq hfresh
    (if 4 ≤ size then rcStatusNotSupp else rcStatusErr)
  refine ⟨reply, ?_, ?_, @wellFormedReply_of_goodReply .vlanCreate buf _
    ⟨hgood, _, hp⟩⟩
  · rw [run_processReq hbuf, hsel, h, run_lift_ok]
  · rw [hp, ackResponse, if_neg (Ne.symm hst)]

/-- **Every request gets one well-formed reply**, from the handler last registered for its command
or, where there is none, from the dispatcher alone — but for a SWITCH_INIT without memory for the
hardware information and a SWITCH_RESET whose thread is never joined or left a result that is no
allocation. -/
theorem oneReply_iff {w : World σ} {regs : List (ℕ × Handler)} {buf out : List UInt8}
    {size : UInt64} (htable : ∃ w₀ : World σ, (w₀.state.ipcCbList = fun _ ↦ none) ∧
      w.state.ipcCbList = (registrations w₀ regs).state.ipcCbList)
    (hbuf : buf.length = saiagentMsgMaxSize) (hout : out.length = saiagentMsgMaxSize)
    (hsai : SaneSai E)
    (hport : ∀ handler, Reaches regs buf size handler → ∀ p ∈ portOf handler buf, p < 64)
    (hkeepalive : Reaches regs buf size .switchReset → KeepalivePresent w.state) :
    let run := EStateM.run (saiagentIpcProcessReq E rt buf size (some out)
      (UInt64.ofNat saiagentMsgMaxSize)) w
    (∀ handler, Reaches regs buf size handler →
      run = EStateM.run (handler.run E rt (handedRequest buf size) (freshReply out)) w) ∧
    ((∀ handler, ¬Reaches regs buf size handler) → ∃ reply, run = .ok reply w ∧
      reply.payload = (PresteraMsgRet.mk PresteraCmdType.ack presteraCmdAckFailed).bytes) ∧
    (RepliesWell run ↔
      (Reaches regs buf size .switchInit → rt.hwInfoMalloc = true) ∧
      (Reaches regs buf size .switchReset → w.state.swInfo.switchOid ≠ saiNullObjectId →
        rt.Destroys)) := by
  obtain ⟨w₀, hw₀, hw⟩ := htable
  have hlast : ∀ cmd < PresteraCmdType.max, w.state.ipcCbList cmd = lastRegistered regs cmd :=
    fun cmd hcmd ↦ by rw [hw, ipcCbList_registrations hw₀ regs hcmd]
  have hbuf4 : 4 ≤ buf.length := by
    rw [hbuf]
    decide
  have hfresh := isReply_freshReply hout
  have hrun : ∀ handler, Reaches regs buf size handler →
      EStateM.run (saiagentIpcProcessReq E rt buf size (some out) (UInt64.ofNat saiagentMsgMaxSize))
        w = EStateM.run (handler.run E rt (handedRequest buf size) (freshReply out)) w := by
    intro handler h
    rw [run_processReq hbuf4, (selected_eq_some_iff hlast).2 h]
  have hrefused : (∀ handler, ¬Reaches regs buf size handler) →
      selected w.state.ipcCbList buf size = none := fun h ↦
    Option.eq_none_iff_forall_ne_some.2 fun handler hsel ↦
      h handler ((selected_eq_some_iff hlast).1 hsel)
  refine ⟨hrun, fun h ↦ ?_, ?_⟩
  · obtain ⟨reply, hr, hp, -⟩ := run_processReq_of_not_selected hbuf4 hout (hrefused h)
    exact ⟨reply, hr, hp⟩
  · by_cases hreach : ∃ handler, Reaches regs buf size handler
    · obtain ⟨handler, h⟩ := hreach
      -- The handler a request reaches is the only one.
      have honly : ∀ g, Reaches regs buf size g → g = handler := fun g hg ↦
        Option.some.inj (hg.2.symm.trans h.2)
      rw [hrun handler h, repliesWell_iff_exists hfresh]
      by_cases hinit : handler = .switchInit
      · subst hinit
        rw [Handler.run, switchInit_returns_iff hsai hfresh]
        exact ⟨fun hm ↦ ⟨fun _ ↦ hm, fun hg ↦ absurd (honly _ hg) (by decide)⟩, fun hm ↦ hm.1 h⟩
      · by_cases hreset : handler = .switchReset
        · subst hreset
          rw [Handler.run, switchReset_returns_iff hsai hfresh (hkeepalive h)]
          exact ⟨fun hm ↦ ⟨fun hg ↦ absurd (honly _ hg) (by decide), fun _ ↦ hm⟩, fun hm ↦ hm.2 h⟩
        · obtain ⟨reply, w', hret, -⟩ := @total_handler _ E rt (handedRequest buf size)
            _ hsai.toKeepsRoom hfresh _ (hport handler h) hinit hreset w trivial
          exact iff_of_true ⟨reply, w', hret⟩ ⟨fun hg ↦ absurd (honly _ hg).symm hinit,
            fun hg ↦ absurd (honly _ hg).symm hreset⟩
    · have hnone := not_exists.1 hreach
      obtain ⟨reply, hr, -, hwell⟩ := @run_processReq_of_not_selected _ E rt _ _ _ _ hbuf4 hout
        (hrefused hnone)
      exact iff_of_true ⟨reply, w, hr, hwell⟩ ⟨fun h ↦ absurd h (hnone _),
        fun h ↦ absurd h (hnone _)⟩

/-- The agent after the registration of one handler, over a calm SAI. -/
def calmWorld (handler : Handler) : World Unit :=
  registrations ⟨Agent.zero, (), []⟩ [(handler.cmdType, handler)]

/-- What a bare request reaches there. -/
theorem reaches_bareRequest {handler g : Handler} :
    Reaches [(handler.cmdType, handler)] (bareRequest handler) 4 g ↔ g = handler := by
  have hcmd : cmdOf (bareRequest handler) < PresteraCmdType.max := by
    rw [cmdOf_bareRequest]
    cases handler <;> decide
  have hlast : lastRegistered [(handler.cmdType, handler)] (cmdOf (bareRequest handler)) =
      some handler := by
    rw [lastRegistered, if_pos hcmd, cmdOf_bareRequest]
    simp
  rw [Reaches, hlast]
  constructor
  · rintro ⟨-, h⟩
    exact (Option.some.inj h).symm
  · rintro rfl
    exact ⟨UInt64.le_refl _, rfl⟩

/-- A `PORT_INFO_GET` is answered with a well-formed reply. -/
theorem oneReply_iff_portInfoGet :
    RepliesWell (EStateM.run (saiagentIpcProcessReq calmSai (Runtime.calm 0)
      (bareRequest .portInfoGet) 4 (some zeroBuffer) (UInt64.ofNat saiagentMsgMaxSize))
      (calmWorld .portInfoGet)) := by
  have hnot : ∀ g, g ≠ .portInfoGet →
      ¬Reaches [(Handler.portInfoGet.cmdType, .portInfoGet)] (bareRequest .portInfoGet) 4 g :=
    fun g hg h ↦ hg (reaches_bareRequest.1 h)
  refine ((@oneReply_iff _ _ (Runtime.calm 0) _ _ _ _ _ ⟨⟨Agent.zero, (), []⟩, rfl, rfl⟩
    (length_bareRequest .portInfoGet) length_zeroBuffer saneSai_calmSai ?_
    fun h ↦ absurd h (hnot _ (by decide))).2.2).2
    ⟨fun h ↦ absurd h (hnot _ (by decide)), fun h ↦ absurd h (hnot _ (by decide))⟩
  intro handler h p hp
  obtain rfl := reaches_bareRequest.1 h
  obtain rfl := Option.some.inj hp
  decide

/-- A SWITCH_INIT that gets no memory is not answered. -/
theorem switchInit_unanswered : SaneSai calmSai ∧
    ¬RepliesWell (EStateM.run (saiagentIpcProcessReq calmSai
      { Runtime.calm 0 with hwInfoMalloc := false } (bareRequest .switchInit) 4 (some zeroBuffer)
      (UInt64.ofNat saiagentMsgMaxSize)) (calmWorld .switchInit)) := by
  refine ⟨saneSai_calmSai, ?_⟩
  have hbuf : 4 ≤ (bareRequest .switchInit).length := by
    rw [length_bareRequest]
    decide
  have hsel : selected (calmWorld .switchInit).state.ipcCbList (bareRequest .switchInit) 4 =
      some .switchInit := by
    exact selected_register (a := Agent.zero) (by decide) (cmdOf_bareRequest _)
  rw [run_processReq hbuf, hsel]
  dsimp only
  rw [repliesWell_iff_exists (isReply_freshReply length_zeroBuffer), Handler.run,
    switchInit_returns_iff saneSai_calmSai (isReply_freshReply length_zeroBuffer)]
  decide

end SaiAgent
