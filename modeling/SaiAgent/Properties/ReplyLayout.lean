import SaiAgent.Properties.Dispatch

/-!
# The layout of successful replies

The driver decodes a reply by the response structure its command is paired with.
`handler_reply` says which bytes each handler leaves in the reply; `hasLayout_iff` compares them
with the pairing: a successful reply has the paired layout exactly when the request is neither
`ROUTER_VR_CREATE`, whose response is overwritten by an acknowledgement, nor `PORT_ATTR_GET` of the
statistics, which is answered with the attribute response.
-/

namespace SaiAgent

open Effects Effects.Proc Effects.Bytes

variable {σ : Type} {E : SaiBackend σ} {rt : Runtime}

/-! ### What each handler replies -/

/-- The payload of the reply a handler returns for the request `buf`. -/
def ReplyPayload (handler : Handler) (buf p : List UInt8) : Prop :=
  match handler with
  | .switchInit => (∃ n, p = (switchInitResponse n).bytes) ∨ p = (ackResponse rcStatusErr).bytes
  | .portInfoGet => ∃ r : PresteraMsgPortInfoResp, r.ret = PresteraMsgRet.ackOk ∧ p = r.bytes
  | .portAttrGet => p = (portAttrResponses (PresteraMsgPortAttrReq.ofBuff buf).attr).1.bytes
  | _ => ∃ status, p = (ackResponse status).bytes

/-- A reply in the loop's buffer with the payload the handler owes. -/
def GoodReply (handler : Handler) (buf : List UInt8) (reply : SaiagentMsg) : Prop :=
  IsReply reply ∧ ReplyPayload handler buf reply.payload

theorem portAttrResponses_ret (attr : UInt32) :
    (portAttrResponses attr).1.ret = PresteraMsgRet.ackOk := by
  unfold portAttrResponses
  split
  · rfl
  · split <;> rfl

variable {P : World σ → Prop} {request reply : SaiagentMsg}

/-- A handler whose payload is an acknowledgement may end with one. -/
theorem ensures_putReplyAck (handler : Handler) (buf : List UInt8) {status : Rc}
    (hr : IsReply reply) (hp : ReplyPayload handler buf (ackResponse status).bytes) :
    Ensures P (lift (saiagentIpcPutReplyAck reply status) : AgentM σ SaiagentMsg)
      fun r _ ↦ GoodReply handler buf r := by
  refine Ensures.lift fun r he _ _ ↦ ?_
  obtain ⟨h₁, h₂⟩ := isReply_of_putReplyAck hr he
  exact ⟨h₁, h₂ ▸ hp⟩

/-- A handler may end with the structure it owes, laid out in whole words. -/
theorem ensures_replaceWith {handler : Handler} {buf bytes : List UInt8} {n : ℕ}
    (hr : IsReply reply) (hn : bytes.length = 4 * n) (hle : 4 * n ≤ saiagentMsgMaxSize)
    (hp : ReplyPayload handler buf bytes) :
    Ensures P (lift (replaceWith reply bytes) : AgentM σ SaiagentMsg)
      fun r _ ↦ GoodReply handler buf r := by
  refine Ensures.lift fun r he _ _ ↦ ?_
  obtain ⟨h₁, h₂⟩ := isReply_of_replaceWith hr hn hle he
  exact ⟨h₁, h₂ ▸ hp⟩

/-- **What each handler replies.** -/
theorem handler_reply (handler : Handler) (hr : IsReply reply) :
    Ensures P (handler.run E rt request reply)
      fun r _ ↦ GoodReply handler (request.buff.getD []) r := by
  cases handler with
  | switchInit =>
    refine Ensures.bind Ensures.trivial fun _ ↦ Ensures.ite
      (fun _ ↦ ensures_putReplyAck _ _ hr (Or.inr rfl)) fun _ ↦ ?_
    refine Ensures.bind Ensures.trivial fun numPorts ↦ Ensures.bind Ensures.trivial fun _ ↦
      Ensures.bind Ensures.trivial fun _ ↦ Ensures.bind Ensures.trivial fun _ ↦
        Ensures.bind Ensures.trivial fun _ ↦ Ensures.ite
          (fun _ ↦ ensures_putReplyAck _ _ hr (Or.inr rfl)) fun _ ↦ ?_
    exact ensures_replaceWith hr (n := 6) (PresteraMsgSwitchInitResp.length_bytes _) (by decide)
      (Or.inl ⟨numPorts, rfl⟩)
  | keepaliveInit =>
    refine Ensures.bind Ensures.trivial fun ctx ↦ ?_
    cases ctx with
    | none => exact ensures_putReplyAck _ _ hr ⟨_, rfl⟩
    | some i => exact Ensures.bind Ensures.trivial fun _ ↦ ensures_putReplyAck _ _ hr ⟨_, rfl⟩
  | switchReset =>
    refine Ensures.bind Ensures.trivial fun swInfo ↦ Ensures.ite (fun _ ↦ ?_)
      fun _ ↦ ensures_putReplyAck _ _ hr ⟨_, rfl⟩
    refine Ensures.bind Ensures.trivial fun _ ↦ Ensures.bind Ensures.trivial fun _ ↦ Ensures.ite
      (fun _ ↦ Ensures.fault _) fun _ ↦ Ensures.bind Ensures.trivial fun _ ↦ ?_
    exact Ensures.bind Ensures.trivial fun _ ↦ Ensures.bind Ensures.trivial fun _ ↦
      ensures_putReplyAck _ _ hr ⟨_, rfl⟩
  | portInfoGet =>
    exact ensures_replaceWith hr (n := 5) (PresteraMsgPortInfoResp.length_bytes _) (by decide)
      ⟨_, rfl, rfl⟩
  | portAttrGet =>
    exact ensures_replaceWith hr (n := 34) (PresteraMsgPortAttrResp.length_bytes _) (by decide) rfl
  | portAttrSet =>
    exact Ensures.ite
      (fun _ ↦ Ensures.bind Ensures.trivial fun _ ↦ Ensures.ite
        (fun _ ↦ ensures_putReplyAck _ _ hr ⟨_, rfl⟩) fun _ ↦ ensures_putReplyAck _ _ hr ⟨_, rfl⟩)
      fun _ ↦ ensures_putReplyAck _ _ hr ⟨_, rfl⟩
  | vlanPortSet =>
    exact Ensures.bind Ensures.trivial fun _ ↦ Ensures.ite
      (fun _ ↦ ensures_putReplyAck _ _ hr ⟨_, rfl⟩) fun _ ↦ ensures_putReplyAck _ _ hr ⟨_, rfl⟩
  | vlanPvidSet => exact Ensures.bind Ensures.trivial fun _ ↦ ensures_putReplyAck _ _ hr ⟨_, rfl⟩
  | routerVrCreate =>
    refine Ensures.lift fun r he _ _ ↦ ?_
    obtain ⟨reply', h₁, h₂, -, -⟩ := replaceWith_eq hr (n := 3)
      (PresteraMsgVrResp.length_bytes ⟨PresteraMsgRet.ackOk, 1, 0⟩) (by decide)
    simp only [saiagentIpcProcessRouterVrCreate, h₁] at he
    obtain ⟨h₃, h₄⟩ := isReply_of_putReplyAck h₂ he
    exact ⟨h₃, _, h₄⟩
  | switchAttrSet | vlanCreate | vlanDelete | stpPortSet | fdbFlushPort | routerMpHashSet
  | routerVrDel | routerLpmAdd | routerLpmDel => exact ensures_putReplyAck _ _ hr ⟨_, rfl⟩

/-- Every reply a handler owes starts with a header. -/
theorem ReplyPayload.le_length {handler : Handler} {buf p : List UInt8}
    (h : ReplyPayload handler buf p) : 8 ≤ p.length := by
  cases handler with
  | switchInit =>
    rcases h with ⟨n, rfl⟩ | rfl
    · rw [PresteraMsgSwitchInitResp.length_bytes]
      omega
    · exact Nat.le_of_eq (PresteraMsgRet.length_bytes _).symm
  | portInfoGet =>
    obtain ⟨r, -, rfl⟩ := h
    rw [PresteraMsgPortInfoResp.length_bytes]
    omega
  | portAttrGet =>
    rw [show p = _ from h, PresteraMsgPortAttrResp.length_bytes]
    omega
  | keepaliveInit | switchReset | portAttrSet | vlanPortSet | vlanPvidSet | routerVrCreate
  | switchAttrSet | vlanCreate | vlanDelete | stpPortSet | fdbFlushPort | routerMpHashSet
  | routerVrDel | routerLpmAdd | routerLpmDel =>
    obtain ⟨status, rfl⟩ := h
    exact Nat.le_of_eq (PresteraMsgRet.length_bytes _).symm

/-- Every reply is a message in the loop's buffer that holds a header at least. -/
theorem processReq_reply {buf out : List UInt8} {size : UInt64} (hbuf : 4 ≤ buf.length)
    (hout : out.length = saiagentMsgMaxSize) {w w' : World σ} {reply : SaiagentMsg}
    (hrun : EStateM.run (saiagentIpcProcessReq E rt buf size (some out)
      (UInt64.ofNat saiagentMsgMaxSize)) w = .ok reply w') :
    IsReply reply ∧ 8 ≤ reply.payload.length := by
  have hfresh := isReply_freshReply hout
  rw [run_processReq hbuf] at hrun
  cases hsel : selected w.state.ipcCbList buf size with
  | none =>
    rw [hsel] at hrun
    obtain ⟨h₁, h₂⟩ := ensures_putReplyAck (P := fun _ ↦ True) .vlanCreate buf
      hfresh ⟨_, rfl⟩ w trivial _ _ hrun
    exact ⟨h₁, h₂.le_length⟩
  | some handler =>
    rw [hsel] at hrun
    obtain ⟨h₁, h₂⟩ := handler_reply (P := fun _ ↦ True) handler hfresh w trivial _ _ hrun
    exact ⟨h₁, h₂.le_length⟩

/-! ### The pairing of commands and responses -/

/-- The payload is a successful response of the structure the driver decodes for the command; the
attribute matters for `PORT_ATTR_GET` only. -/
def HasLayout (cmd : ℕ) (attr : UInt32) (p : List UInt8) : Prop :=
  if cmd = PresteraCmdType.switchInit then
    ∃ r : PresteraMsgSwitchInitResp, r.ret = PresteraMsgRet.ackOk ∧ p = r.bytes
  else if cmd = PresteraCmdType.portInfoGet then
    ∃ r : PresteraMsgPortInfoResp, r.ret = PresteraMsgRet.ackOk ∧ p = r.bytes
  else if cmd = PresteraCmdType.portAttrGet then
    if attr = PresteraCmdPortAttr.stats then
      ∃ r : PresteraMsgPortStatsResp, r.ret = PresteraMsgRet.ackOk ∧ p = r.bytes
    else
      ∃ r : PresteraMsgPortAttrResp, r.ret = PresteraMsgRet.ackOk ∧ p = r.bytes
  else if cmd = PresteraCmdType.routerVrCreate then
    ∃ r : PresteraMsgVrResp, r.ret = PresteraMsgRet.ackOk ∧ r.vrId = 1 ∧ p = r.bytes
  else
    p = PresteraMsgRet.ackOk.bytes

/-- The attribute word of a `PORT_ATTR_GET` request. -/
def attrOf (buf : List UInt8) : UInt32 := (PresteraMsgPortAttrReq.ofBuff buf).attr

/-- An acknowledgement the driver reads as a success is the successful header. -/
theorem ackResponse_eq_ackOk {status : Rc}
    (h : (ackResponse status).status = presteraCmdAckOk) :
    ackResponse status = PresteraMsgRet.ackOk := by
  rw [ackResponse_status_eq_ok.1 h]
  rfl

/-- What a handler replies to a request it acknowledges, compared with the pairing. -/
theorem hasLayout_iff_of_replyPayload {handler : Handler} {buf p : List UInt8}
    (hp : ReplyPayload handler buf p) (hack : readLe32 p 4 = presteraCmdAckOk) :
    HasLayout handler.cmdType (attrOf buf) p ↔
      handler.cmdType ≠ PresteraCmdType.routerVrCreate ∧
        ¬(handler.cmdType = PresteraCmdType.portAttrGet ∧
          attrOf buf = PresteraCmdPortAttr.stats) := by
  have hackOk : ∀ status, p = (ackResponse status).bytes → p = PresteraMsgRet.ackOk.bytes := by
    intro status hs
    have h := readLe32_ret (ackResponse status) []
    rw [List.append_nil, ← hs, hack] at h
    rw [hs, ackResponse_eq_ackOk h.symm]
  have hother : ∀ {c : ℕ}, c ≠ PresteraCmdType.routerVrCreate → c ≠ PresteraCmdType.portAttrGet →
      c ≠ PresteraCmdType.routerVrCreate ∧ ¬(c = PresteraCmdType.portAttrGet ∧
        attrOf buf = PresteraCmdPortAttr.stats) := fun h₁ h₂ ↦ ⟨h₁, fun h ↦ h₂ h.1⟩
  cases handler with
  | switchInit =>
    refine iff_of_true ?_ (hother (by decide) (by decide))
    rw [HasLayout, if_pos (show Handler.switchInit.cmdType = PresteraCmdType.switchInit from rfl)]
    rcases hp with ⟨n, rfl⟩ | rfl
    · exact ⟨_, rfl, rfl⟩
    · exact absurd hack (by decide)
  | portInfoGet => exact iff_of_true hp (hother (by decide) (by decide))
  | portAttrGet =>
    have hlen : p.length = 136 := by
      rw [show p = _ from hp, PresteraMsgPortAttrResp.length_bytes]
    have hne : PresteraCmdType.portAttrGet ≠ PresteraCmdType.routerVrCreate := by decide
    simp only [Handler.cmdType, ne_eq, hne, not_false_eq_true, true_and]
    by_cases hattr : attrOf buf = PresteraCmdPortAttr.stats
    · refine iff_of_false ?_ (not_not_intro hattr)
      rw [HasLayout, if_neg (by decide), if_neg (by decide), if_pos rfl, if_pos hattr]
      -- The attribute reply is shorter than the statistics.
      rintro ⟨r, -, rfl⟩
      rw [PresteraMsgPortStatsResp.length_bytes] at hlen
      omega
    · refine iff_of_true ?_ hattr
      rw [HasLayout, if_neg (by decide), if_neg (by decide), if_pos rfl, if_neg hattr]
      exact ⟨_, portAttrResponses_ret _, hp⟩
  | routerVrCreate =>
    refine iff_of_false ?_ fun h ↦ h.1 rfl
    obtain ⟨status, hs⟩ := hp
    rw [HasLayout, if_neg (by decide), if_neg (by decide), if_neg (by decide),
      if_pos (show Handler.routerVrCreate.cmdType = PresteraCmdType.routerVrCreate from rfl)]
    rintro ⟨r, -, -, hr⟩
    have := congrArg List.length (hs.symm.trans hr)
    rw [PresteraMsgRet.length_bytes, PresteraMsgVrResp.length_bytes] at this
    omega
  | keepaliveInit | switchReset | portAttrSet | vlanPortSet | vlanPvidSet | switchAttrSet
  | vlanCreate | vlanDelete | stpPortSet | fdbFlushPort | routerMpHashSet | routerVrDel
  | routerLpmAdd | routerLpmDel =>
    obtain ⟨status, hs⟩ := hp
    exact iff_of_true (hackOk status hs) (hother (by decide) (by decide))

/-- **The replies with the layout the driver decodes.** Of the requests that are acknowledged with
success, exactly `ROUTER_VR_CREATE` and `PORT_ATTR_GET` of the statistics are answered with another
structure than theirs. -/
theorem hasLayout_iff {w w' : World σ} {buf out : List UInt8} {size : UInt64} {reply : SaiagentMsg}
    (htable : ReachableTable w.state.ipcCbList) (hbuf : buf.length = saiagentMsgMaxSize)
    (hout : out.length = saiagentMsgMaxSize)
    (hrun : EStateM.run (saiagentIpcProcessReq E rt buf size (some out)
      (UInt64.ofNat saiagentMsgMaxSize)) w = .ok reply w')
    (hack : replyStatus reply = presteraCmdAckOk) :
    HasLayout (cmdOf buf) (attrOf buf) reply.payload ↔
      cmdOf buf ≠ PresteraCmdType.routerVrCreate ∧
        ¬(cmdOf buf = PresteraCmdType.portAttrGet ∧ attrOf buf = PresteraCmdPortAttr.stats) := by
  have hmax : saiagentMsgMaxSize = 1500 := rfl
  rw [run_processReq (by omega)] at hrun
  cases hsel : selected w.state.ipcCbList buf size with
  | none =>
    rw [hsel] at hrun
    obtain ⟨-, hp⟩ := ensures_putReplyAck (P := fun _ ↦ True) .vlanCreate buf
      (isReply_freshReply hout) ⟨_, rfl⟩ w trivial _ _ hrun
    -- A request without a handler is never acknowledged.
    have hst : (if 4 ≤ size then rcStatusNotSupp else rcStatusErr) ≠ rcStatusOk := by
      split <;> decide
    have : False := by
      cases hl : saiagentIpcPutReplyAck (freshReply out)
          (if 4 ≤ size then rcStatusNotSupp else rcStatusErr) with
      | error e => rw [hl] at hrun; cases hrun
      | ok r =>
        rw [hl] at hrun
        cases hrun
        have h := replyStatus_ack (isReply_of_putReplyAck (isReply_freshReply hout) hl).2
        rw [hack] at h
        exact hst (ackResponse_status_eq_ok.1 h.symm)
    exact this.elim
  | some handler =>
    rw [hsel] at hrun
    obtain ⟨-, hp⟩ := handler_reply (P := fun _ ↦ True) handler (isReply_freshReply hout) w trivial
      _ _ hrun
    rw [← htable.cmdType_eq_of_selected hsel]
    exact hasLayout_iff_of_replyPayload hp hack

/-! ### Two runs -/

/-- A request that has its command word and nothing else. -/
def bareRequest (handler : Handler) : List UInt8 := bufferOf (le32 (UInt32.ofNat handler.cmdType))

theorem cmdOf_bareRequest (handler : Handler) : cmdOf (bareRequest handler) = handler.cmdType := by
  rw [cmdOf, bareRequest, bufferOf, readLe32_le32_append]
  cases handler <;> rfl

theorem length_bareRequest (handler : Handler) :
    (bareRequest handler).length = saiagentMsgMaxSize :=
  length_bufferOf (by rw [length_le32]; decide)

/-- The agent with one handler registered, over a SAI with these answers. -/
def worldWith (handler : Handler) (script : List SaiResp) : World (List SaiResp) :=
  ⟨Agent.zero.register handler.cmdType handler, script, []⟩

/-- A bare request reaches its handler. -/
theorem run_bareRequest (handler : Handler) (script : List SaiResp) (out : List UInt8) :
    EStateM.run (saiagentIpcProcessReq scriptedSai rt (bareRequest handler) 4 (some out)
        (UInt64.ofNat saiagentMsgMaxSize)) (worldWith handler script) =
      EStateM.run (handler.run scriptedSai rt (handedRequest (bareRequest handler) 4)
        (freshReply out)) (worldWith handler script) := by
  have hlen : 4 ≤ (bareRequest handler).length := by
    rw [length_bareRequest]
    decide
  rw [run_processReq hlen, worldWith, selected_register (by decide) (cmdOf_bareRequest _)]

/-- The acknowledged `ROUTER_VR_DELETE` has its layout. -/
theorem hasLayout_iff_routerVrDel :
    ∃ reply w', EStateM.run (saiagentIpcProcessReq scriptedSai (Runtime.calm 0)
        (bareRequest .routerVrDel) 4 (some zeroBuffer) (UInt64.ofNat saiagentMsgMaxSize))
        (worldWith .routerVrDel []) = .ok reply w' ∧
      HasLayout (cmdOf (bareRequest .routerVrDel)) (attrOf (bareRequest .routerVrDel))
        reply.payload := by
  obtain ⟨r, h, -, hp⟩ := saiagentIpcPutReplyAck_eq
    (isReply_freshReply length_zeroBuffer) rcStatusOk
  have hrun : EStateM.run (saiagentIpcProcessReq scriptedSai (Runtime.calm 0)
      (bareRequest .routerVrDel) 4 (some zeroBuffer) (UInt64.ofNat saiagentMsgMaxSize))
      (worldWith .routerVrDel []) = .ok r (worldWith .routerVrDel []) := by
    rw [run_bareRequest, Handler.run, saiagentIpcProcessRouterVrDel, acknowledge, h, run_lift_ok]
  refine ⟨r, _, hrun, (hasLayout_iff (reachableTable_register_zero .routerVrDel)
    (length_bareRequest _) length_zeroBuffer hrun (replyStatus_ack hp)).2 ?_⟩
  rw [cmdOf_bareRequest]
  exact ⟨by decide, fun h ↦ absurd h.1 (by decide)⟩

/-- `ROUTER_VR_CREATE` is acknowledged without the virtual router's id. -/
theorem routerVrCreate_loses_layout :
    ∃ reply w', EStateM.run (saiagentIpcProcessReq scriptedSai (Runtime.calm 0)
        (bareRequest .routerVrCreate) 4 (some zeroBuffer) (UInt64.ofNat saiagentMsgMaxSize))
        (worldWith .routerVrCreate []) = .ok reply w' ∧
      replyStatus reply = presteraCmdAckOk ∧
      ¬HasLayout (cmdOf (bareRequest .routerVrCreate)) (attrOf (bareRequest .routerVrCreate))
        reply.payload := by
  obtain ⟨r₁, h₁, hr₁, -, -⟩ := replaceWith_eq
    (isReply_freshReply length_zeroBuffer) (n := 3)
    (PresteraMsgVrResp.length_bytes ⟨PresteraMsgRet.ackOk, 1, 0⟩) (by decide)
  obtain ⟨r₂, h₂, -, hp⟩ := saiagentIpcPutReplyAck_eq hr₁ rcStatusOk
  refine ⟨r₂, worldWith .routerVrCreate [], ?_, ?_, ?_⟩
  · rw [run_bareRequest, Handler.run, saiagentIpcProcessRouterVrCreate, h₁]
    exact congrArg (fun x ↦ EStateM.run (lift x : AgentM _ _) _) h₂
  · rw [replyStatus_ack hp]
    rfl
  · rw [cmdOf_bareRequest, HasLayout, if_neg (by decide), if_neg (by decide), if_neg (by decide),
      if_pos (show Handler.routerVrCreate.cmdType = PresteraCmdType.routerVrCreate from rfl)]
    rintro ⟨r, -, -, h⟩
    have := congrArg List.length (hp.symm.trans h)
    rw [PresteraMsgRet.length_bytes, PresteraMsgVrResp.length_bytes] at this
    omega

end SaiAgent
