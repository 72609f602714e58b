import SaiAgent.Properties.ArrayBounds
import SaiAgent.Properties.FailStop
import SaiAgent.Properties.PortNumbers

/-!
# Residual bytes

Every handler overlays its request structure on the whole receive buffer, whatever the
payload's size; what lies behind the payload was left there by an earlier request.
`ownBytesOnly_iff` says for which payloads this makes no difference: the fields the handler acts on
lie inside the payload, and a port number among them is one of the arrays (`Covered`).
-/

namespace SaiAgent

open Effects Effects.Proc Effects.Plan Effects.Bytes

variable {σ : Type} {E : SaiBackend σ} {rt : Runtime} {p buf buf' : List UInt8}

/-- The contents of the receive buffer after the callback stored the payload. -/
structure Completion (p buf : List UInt8) : Prop where
  isPrefix : p <+: buf
  length_eq : buf.length = saiagentMsgMaxSize

/-- Two requests with the same SAI calls, the same agent state and the same reply payload. -/
structure SameEffect (r r' : EStateM.Result Fault (World σ) SaiagentMsg) : Prop where
  trace : (worldOf r).trace = (worldOf r').trace
  state : (worldOf r).state = (worldOf r').state
  reply : (valueOf r).map SaiagentMsg.payload = (valueOf r').map SaiagentMsg.payload

theorem SameEffect.refl (r : EStateM.Result Fault (World σ) SaiagentMsg) : SameEffect r r :=
  ⟨rfl, rfl, rfl⟩

/-- Handling the payload depends on its own bytes alone: for every SAI, every state of the agent
and any two contents of the buffer behind it. Where SAI keeps to the room it is given, no array is
read past its end, either: what the agent does with what it finds there is no matter of the
payload. -/
def OwnBytesOnly (p : List UInt8) : Prop :=
  ∀ (σ : Type) (E : SaiBackend σ) (rt : Runtime) (w : World σ) (buf buf' out : List UInt8),
    HasReachableTable w → Completion p buf → Completion p buf' → out.length = saiagentMsgMaxSize →
      let run := fun b ↦ EStateM.run (saiagentIpcProcessReq E rt b (UInt64.ofNat p.length)
        (some out) (UInt64.ofNat saiagentMsgMaxSize)) w
      (KeepsRoom E → ∀ w', run buf ≠ .error .outOfBounds w') ∧ SameEffect (run buf) (run buf')

/-- The payload holds every field its handler acts on, and the port number it has the handler look
up is one of the arrays. -/
def Covered (p : List UInt8) : Handler → Prop
  | .vlanPortSet => 16 ≤ p.length ∧ (PresteraMsgVlanReq.ofBuff p).port < 64
  | .vlanPvidSet => 14 ≤ p.length ∧ (PresteraMsgVlanReq.ofBuff p).port < 64
  | .portAttrSet =>
    (∀ buf, Completion p buf →
      (PresteraMsgPortAttrReq.ofBuff buf).attr ≠ PresteraCmdPortAttr.phyMode) ∨
    29 ≤ p.length ∧ (PresteraMsgPortAttrReq.ofBuff p).port < 64
  | .portInfoGet => 8 ≤ p.length
  | .keepaliveInit => 8 ≤ p.length
  | _ => True

/-! ### What is covered is enough -/

theorem Completion.agreeBelow (h : Completion p buf) (h' : Completion p buf') :
    AgreeBelow p.length buf buf' :=
  AgreeBelow.of_take_eq
    ((List.prefix_iff_eq_take.1 h.isPrefix).symm.trans (List.prefix_iff_eq_take.1 h'.isPrefix))

/-- A completion begins as the payload does. -/
theorem Completion.agreeBelow_payload (h : Completion p buf) : AgreeBelow p.length buf p :=
  AgreeBelow.of_take_eq (by rw [← List.prefix_iff_eq_take.1 h.isPrefix, List.take_length])

theorem Completion.length_le (h : Completion p buf) : p.length ≤ saiagentMsgMaxSize :=
  h.length_eq ▸ h.isPrefix.length_le

/-- The buffer cut off at `k`, with one byte and then zeros from there on. -/
def cutAt (k : ℕ) (v : UInt8) (buf : List UInt8) : List UInt8 := bufferOf (buf.take k ++ [v])

section cutAt

variable {k : ℕ} {v : UInt8}

theorem Completion.cutAt (h : Completion p buf) (hp : p.length ≤ k) (hk : k < saiagentMsgMaxSize) :
    Completion p (cutAt k v buf) := by
  have htake : p <+: buf.take k := by
    rw [List.prefix_take_iff]
    exact ⟨h.isPrefix, hp⟩
  refine ⟨?_, length_bufferOf ?_⟩
  · exact htake.trans ((List.prefix_append _ _).trans (List.prefix_append _ _))
  · rw [List.length_append, List.length_take, List.length_singleton]
    omega

theorem agreeBelow_cutAt (h : k < buf.length) : AgreeBelow k buf (cutAt k v buf) := by
  apply AgreeBelow.of_take_eq
  have hlen : (buf.take k).length = k := List.length_take_of_le (Nat.le_of_lt h)
  rw [SaiAgent.cutAt, bufferOf, List.append_assoc, List.take_left' hlen]

theorem byteAt_cutAt (h : k < buf.length) : byteAt (cutAt k v buf) k = v := by
  have hlen : (buf.take k).length = k := List.length_take_of_le (Nat.le_of_lt h)
  rw [SaiAgent.cutAt, bufferOf, List.append_assoc, byteAt, List.getD_eq_getElem?_getD,
    List.getElem?_append_right (Nat.le_of_eq hlen), hlen, Nat.sub_self]
  rfl

end cutAt

/-- The attribute response is the same for every attribute: it holds nothing but zeros. -/
theorem portAttrResponses_bytes (attr : UInt32) :
    (portAttrResponses attr).1.bytes = (portAttrResponses 0).1.bytes := by
  unfold portAttrResponses
  split
  · decide
  · split <;> rfl

/-- **A covered payload is handled the same whatever lies behind it.** -/
theorem run_handler_eq {handler : Handler} {size : UInt64} {reply : SaiagentMsg}
    (hcov : Covered p handler) (h : Completion p buf) (h' : Completion p buf') :
    handler.run E rt (handedRequest buf size) reply =
      handler.run E rt (handedRequest buf' size) reply := by
  have hagree := h.agreeBelow h'
  have hget : ∀ b : List UInt8, (handedRequest b size).buff.getD [] = b := fun _ ↦ rfl
  cases handler with
  | vlanPortSet =>
    simp only [Handler.run, saiagentIpcProcessVlanPortSet, hget]
    have hlen : 16 ≤ p.length := hcov.1
    have hreq : PresteraMsgVlanReq.ofBuff buf = PresteraMsgVlanReq.ofBuff buf' := by
      simp only [PresteraMsgVlanReq.ofBuff, hagree.readLe32 (i := 4) (by omega),
        hagree.readLe32 (i := 8) (by omega), hagree.readLe16 (i := 12) (by omega),
        hagree.byteAt (i := 14) (by omega), hagree.byteAt (i := 15) (by omega)]
    rw [hreq]
  | vlanPvidSet =>
    simp only [Handler.run, saiagentIpcProcessVlanPvidSet, saiagentPortPvidSet, hget]
    have hlen : 14 ≤ p.length := hcov.1
    have hreq : (PresteraMsgVlanReq.ofBuff buf).port = (PresteraMsgVlanReq.ofBuff buf').port ∧
        (PresteraMsgVlanReq.ofBuff buf).vid = (PresteraMsgVlanReq.ofBuff buf').vid :=
      ⟨hagree.readLe32 (by omega), hagree.readLe16 (by omega)⟩
    rw [hreq.1, hreq.2]
  | portAttrSet =>
    simp only [Handler.run, saiagentIpcProcessPortAttrSet, hget]
    rcases hcov with hnever | ⟨hlen, -⟩
    · rw [if_neg (hnever buf h), if_neg (hnever buf' h')]
    · have hreq : PresteraMsgPortAttrReq.ofBuff buf = PresteraMsgPortAttrReq.ofBuff buf' := by
        simp only [PresteraMsgPortAttrReq.ofBuff, hagree.readLe32 (i := 4) (by omega),
          hagree.readLe32 (i := 8) (by omega), hagree.readLe32 (i := 12) (by omega),
          hagree.byteAt (i := 28) (by omega)]
      rw [hreq]
  | portInfoGet =>
    have hlen : 8 ≤ p.length := hcov
    have hreq : PresteraMsgPortInfoReq.ofBuff buf = PresteraMsgPortInfoReq.ofBuff buf' := by
      simp only [PresteraMsgPortInfoReq.ofBuff, hagree.readLe32 (i := 4) (by omega)]
    simp only [Handler.run, saiagentIpcProcessPortInfoGet, hget, hreq]
  | keepaliveInit =>
    have hlen : 8 ≤ p.length := hcov
    have hreq : PresteraMsgKeepaliveInitReq.ofBuff buf =
        PresteraMsgKeepaliveInitReq.ofBuff buf' := by
      simp only [PresteraMsgKeepaliveInitReq.ofBuff, hagree.readLe32 (i := 4) (by omega)]
    simp only [Handler.run, saiagentIpcProcessKeepaliveInit, hget, hreq]
  | portAttrGet =>
    simp only [Handler.run, saiagentIpcProcessPortAttrGet, portAttrResponses_bytes
      (PresteraMsgPortAttrReq.ofBuff _).attr]
  | switchInit | switchReset | switchAttrSet | vlanCreate | vlanDelete | stpPortSet | fdbFlushPort
  | routerMpHashSet | routerVrCreate | routerVrDel | routerLpmAdd | routerLpmDel => rfl

/-- A covered payload names ports inside the arrays. -/
theorem looksInside_of_covered {handler : Handler} (hcov : Covered p handler)
    (h : Completion p buf) : handler.LooksInside buf := by
  have hread := fun {i : ℕ} (hi : i + 4 ≤ p.length) ↦ h.agreeBelow_payload.readLe32 hi
  cases handler with
  | vlanPortSet =>
    obtain ⟨hlen, hport⟩ := hcov
    exact lt_of_eq_of_lt (hread (i := 4) (by omega)) hport
  | vlanPvidSet =>
    obtain ⟨hlen, hport⟩ := hcov
    exact lt_of_eq_of_lt (hread (i := 4) (by omega)) hport
  | portAttrSet =>
    intro hphy
    obtain hnever | ⟨hlen, hport⟩ := hcov
    · exact absurd hphy (hnever buf h)
    · exact lt_of_eq_of_lt (hread (i := 8) (by omega)) hport
  | switchInit | switchReset | keepaliveInit | portInfoGet | portAttrGet | switchAttrSet
  | vlanCreate | vlanDelete | stpPortSet | fdbFlushPort | routerMpHashSet | routerVrCreate
  | routerVrDel | routerLpmAdd | routerLpmDel => trivial

theorem not_outOfBounds {q : AgentM σ SaiagentMsg} (h : FaultsIn (· ≠ .outOfBounds) q)
    (w : World σ) : ∀ w', EStateM.run q w ≠ .error .outOfBounds w' :=
  fun w' hrun ↦ h w .outOfBounds w' hrun rfl

/-! ### What is not covered is acted on -/

/-- The SAI that agrees to everything. -/
def agreeableSai : SaiBackend (List SaiResp) := Oracle.scripted (SaiResp.bare saiStatusSuccess)

/-- An agent whose 64 ports have a bridge port each. -/
def portedAgent : Agent := Agent.zero.setBrPortList (OidArray.replicate 1)

/-- That agent with one handler registered. -/
def portedWorld (handler : Handler) : World (List SaiResp) :=
  ⟨portedAgent.register handler.cmdType handler, [], []⟩

/-- What the agent does with a payload and what lies behind it. -/
def probe (handler : Handler) (p buf : List UInt8) :
    EStateM.Result Fault (World (List SaiResp)) SaiagentMsg :=
  EStateM.run (saiagentIpcProcessReq agreeableSai (Runtime.calm 0) buf (UInt64.ofNat p.length)
    (some zeroBuffer) (UInt64.ofNat saiagentMsgMaxSize)) (portedWorld handler)

theorem cmdOf_completion (h : Completion p buf) (hp : 4 ≤ p.length) : cmdOf buf = cmdOf p := by
  rw [cmdOf, cmdOf, h.agreeBelow_payload.readLe32 (by omega)]

theorem four_le_size (hp : 4 ≤ p.length) (h : Completion p buf) :
    (4 : UInt64) ≤ UInt64.ofNat p.length := by
  have hlen := h.length_le
  have hmax : saiagentMsgMaxSize = 1500 := rfl
  rw [UInt64.le_iff_toNat_le, UInt64.toNat_ofNat']
  exact Nat.le_trans hp (by omega)

theorem probe_eq {handler : Handler} (hp : 4 ≤ p.length) (hcmd : cmdOf p = handler.cmdType)
    (h : Completion p buf) :
    probe handler p buf = EStateM.run (handler.run agreeableSai (Runtime.calm 0)
      (handedRequest buf (UInt64.ofNat p.length)) (freshReply zeroBuffer))
          (portedWorld handler) := by
  have hmax : saiagentMsgMaxSize = 1500 := rfl
  have hlen := h.length_eq
  rw [probe, run_processReq (by omega), portedWorld,
    selected_register (four_le_size hp h) ((cmdOf_completion h hp).trans hcmd)]

/-- The calls of a request that sets something are those of its plan. -/
theorem probe_trace {handler : Handler} {plan : SaiPlan} (hp : 4 ≤ p.length)
    (hcmd : cmdOf p = handler.cmdType) (h : Completion p buf)
    (hplan : operationPlan (Runtime.calm 0) portedAgent buf handler = some plan) :
    (worldOf (probe handler p buf)).trace =
    (plan.exec SaiResp.ok retried agreeableSai []).trace := by
  have hreg : operationPlan (Runtime.calm 0) (portedWorld handler).state
      ((handedRequest buf (UInt64.ofNat p.length)).buff.getD []) handler = some plan := by
    rw [← hplan]
    cases handler <;> rfl
  rw [probe_eq hp hcmd h, (executes_handler (isReply_freshReply length_zeroBuffer) hreg).trace]
  rfl

theorem portedAgent_get {portId : UInt32} (h : portId.toNat < 64) :
    portedAgent.swInfo.brPortList.get portId.toNat = .ok 1 ∧
      portedAgent.swInfo.portList.get portId.toNat = .ok 0 := by
  rw [OidArray.get_of_lt _ h, OidArray.get_of_lt _ h]
  exact ⟨congrArg _ (List.getElem_replicate _), congrArg _ (List.getElem_replicate _)⟩

/-- The member the agreeable SAI is asked to create tells the tagging mode. -/
theorem vlanPortPlan_trace {vid : UInt16} {portId : UInt32} {tag : Bool} (h : portId.toNat < 64) :
    ((vlanPortPlan portedAgent (Runtime.calm 0) vid portId tag).exec SaiResp.ok retried
      agreeableSai []).trace[4]? =
      some (createMember 0 0 1 tag, SaiResp.bare saiStatusSuccess) := by
  simp only [vlanPortPlan, withPort, (portedAgent_get h).1]
  rfl

/-- The port's last call tells the VLAN. -/
theorem portPvidPlan_trace {vid : UInt16} {portId : UInt32} (h : portId.toNat < 64) :
    ((portPvidPlan portedAgent portId vid).exec SaiResp.ok retried agreeableSai []).trace[1]? =
      some (.setPortAttribute 0 ⟨.portPortVlanId, .u16 vid⟩, SaiResp.bare saiStatusSuccess) := by
  simp only [portPvidPlan, withPort, (portedAgent_get h).2]
  rfl

/-- The port's last call tells the admin state. -/
theorem portAdminPlan_trace {admin : UInt8} {portId : UInt32} (h : portId.toNat < 64) :
    ((portAdminPlan portedAgent portId admin).exec SaiResp.ok retried agreeableSai []).trace[1]? =
      some (.setPortAttribute 0 ⟨.portAdminState, .booldata (admin ≠ 0)⟩,
        SaiResp.bare saiStatusSuccess) := by
  simp only [portAdminPlan, withPort, (portedAgent_get h).2]
  rfl

/-- The reply to `PORT_INFO_GET` tells the port. -/
theorem probe_portInfoGet (hp : 4 ≤ p.length) (hcmd : cmdOf p = Handler.portInfoGet.cmdType)
    (h : Completion p buf) :
    ((valueOf (probe .portInfoGet p buf)).map SaiagentMsg.payload).map (readLe32 · 8) =
      .ok (readLe32 buf 4) := by
  rw [probe_eq hp hcmd h]
  simp only [Handler.run, saiagentIpcProcessPortInfoGet]
  obtain ⟨reply, hrun, -, hpay, -⟩ := replaceWith_eq (isReply_freshReply length_zeroBuffer)
    (PresteraMsgPortInfoResp.length_bytes ⟨PresteraMsgRet.ackOk, readLe32 buf 4, 1,
      (readLe32 buf 4).toUInt16, 0⟩) (n := 5) (by decide)
  have hget : (handedRequest buf (UInt64.ofNat p.length)).buff.getD [] = buf := rfl
  simp only [hget, PresteraMsgPortInfoReq.ofBuff, hrun, run_lift_ok, valueOf_ok, Except.map, hpay]
  simp only [PresteraMsgPortInfoResp.bytes, List.append_assoc]
  rw [readLe32_append_right (PresteraMsgRet.length_bytes _), readLe32_le32_append]

/-- The thread `KEEPALIVE_INIT` starts keeps the timeout. -/
theorem probe_keepaliveInit (hp : 4 ≤ p.length) (hcmd : cmdOf p = Handler.keepaliveInit.cmdType)
    (h : Completion p buf) :
    (worldOf (probe .keepaliveInit p buf)).state.threads.map (·.ctx.timeout) =
      [(readLe32 buf 4).toInt32] := by
  rw [probe_eq hp hcmd h]
  obtain ⟨reply, hrun, -, -⟩ := saiagentIpcPutReplyAck_eq (isReply_freshReply length_zeroBuffer)
    rcStatusOk
  have hget : (handedRequest buf (UInt64.ofNat p.length)).buff.getD [] = buf := rfl
  simp only [Handler.run, saiagentIpcProcessKeepaliveInit, hget, hrun]
  rfl

/-- Words that differ in their last byte differ. -/
theorem readLe32_ne_of_byteAt {b b' : List UInt8} {i : ℕ} (h : AgreeBelow (i + 3) b b')
    (hb : byteAt b (i + 3) = 0) (hb' : byteAt b' (i + 3) = 1) : readLe32 b i ≠ readLe32 b' i := by
  intro he
  have h₀ := (byteAt b' i).toNat_lt
  have h₁ := (byteAt b' (i + 1)).toNat_lt
  have h₂ := (byteAt b' (i + 2)).toNat_lt
  have := congrArg UInt32.toNat he
  simp only [readLe32, h i (by omega), h (i + 1) (by omega), h (i + 2) (by omega), hb, hb',
    UInt32.toNat_ofNat', UInt8.reduceToNat] at this
  omega

/-- Half words that differ in their last byte differ. -/
theorem readLe16_ne_of_byteAt {b b' : List UInt8} {i : ℕ} (h : AgreeBelow (i + 1) b b')
    (hb : byteAt b (i + 1) = 0) (hb' : byteAt b' (i + 1) = 1) : readLe16 b i ≠ readLe16 b' i := by
  intro he
  have h₀ := (byteAt b' i).toNat_lt
  have := congrArg UInt16.toNat he
  simp only [readLe16, h i (by omega), hb, hb', UInt16.toNat_ofNat', UInt8.reduceToNat] at this
  omega

/-- Two completions of a payload that ends at or before `k`: they differ from there on. -/
theorem exists_completions {k : ℕ} (h : Completion p buf) (hp : p.length ≤ k)
    (hk : k < saiagentMsgMaxSize) :
    ∃ b b', Completion p b ∧ Completion p b' ∧ AgreeBelow k buf b ∧ AgreeBelow k buf b' ∧
      byteAt b k = 0 ∧ byteAt b' k = 1 := by
  have hlen : k < buf.length := by rw [h.length_eq]; exact hk
  exact ⟨_, _, h.cutAt (v := 0) hp hk, h.cutAt (v := 1) hp hk, agreeBelow_cutAt hlen,
    agreeBelow_cutAt hlen, byteAt_cutAt hlen, byteAt_cutAt hlen⟩

theorem OwnBytesOnly.probe (hown : OwnBytesOnly p) (handler : Handler) {b b' : List UInt8}
    (h : Completion p b) (h' : Completion p b') :
    SameEffect (probe handler p b) (SaiAgent.probe handler p b') :=
  (hown _ agreeableSai (Runtime.calm 0) (portedWorld handler) b b' zeroBuffer
    (reachableTable_register_zero handler) h h' length_zeroBuffer).2

/-- No completion names a port past the end of the arrays. -/
theorem OwnBytesOnly.port_lt (hown : OwnBytesOnly p) (hp : 4 ≤ p.length) {handler : Handler}
    (hcmd : cmdOf p = handler.cmdType) (h : Completion p buf) (hreq : PortRequest buf handler)
    {port : UInt32} (hport : port ∈ portOf handler buf) (hne : handler ≠ .portInfoGet) :
    port < 64 := by
  by_contra hle
  have hbuf : 4 ≤ buf.length := Nat.le_trans hp h.isPrefix.length_le
  obtain ⟨w', hfault⟩ := @run_handler_of_le _ calmSai (Runtime.calm 0)
    ⟨portedAgent.register handler.cmdType handler, (), []⟩
    (handedRequest buf (UInt64.ofNat p.length)) (freshReply zeroBuffer) _ _
    saneSai_calmSai.query_ok hreq hport hne hle
  refine (hown Unit calmSai (Runtime.calm 0)
    ⟨portedAgent.register handler.cmdType handler, (), []⟩ buf buf zeroBuffer
    (reachableTable_register_zero handler) h h length_zeroBuffer).1 saneSai_calmSai.toKeepsRoom
      w' ?_
  dsimp only
  rw [run_processReq hbuf,
    selected_register (four_le_size hp h) ((cmdOf_completion h hp).trans hcmd)]
  exact hfault

theorem completion_bufferOf (hp : p.length ≤ saiagentMsgMaxSize) : Completion p (bufferOf p) :=
  ⟨List.prefix_append _ _, length_bufferOf hp⟩

/-- The last byte of VLAN_PORT_SET decides on the tagging mode of the member. -/
theorem covered_vlanPortSet (hown : OwnBytesOnly p) (hp : 4 ≤ p.length)
    (hmax : p.length ≤ saiagentMsgMaxSize) (hcmd : cmdOf p = Handler.vlanPortSet.cmdType) :
    Covered p .vlanPortSet := by
  have hport : ∀ b, Completion p b → (readLe32 b 4).toNat < 64 := fun b hb ↦
    UInt32.lt_iff_toNat_lt.1 (hown.port_lt hp hcmd hb .vlanPortSet rfl nofun)
  have hlen : 16 ≤ p.length := by
    by_contra hshort
    obtain ⟨b, b', hb, hb', ha, ha', h₀, h₁⟩ :=
      exists_completions (completion_bufferOf hmax) (k := 15) (by omega) (by decide)
    have hplan : ∀ c, operationPlan (Runtime.calm 0) portedAgent c .vlanPortSet =
        some (vlanPortPlan portedAgent (Runtime.calm 0) (readLe16 c 12) (readLe32 c 4)
          (byteAt c 15 ≠ 0)) := fun _ ↦ rfl
    have htrace := (hown.probe .vlanPortSet hb hb').trace
    rw [probe_trace hp hcmd hb (hplan b), probe_trace hp hcmd hb' (hplan b')] at htrace
    have hcall := congrArg (·[4]?) htrace
    rw [vlanPortPlan_trace (hport b hb), vlanPortPlan_trace (hport b' hb'), h₀, h₁] at hcall
    exact absurd hcall (by decide)
  have hfull := completion_bufferOf hmax
  refine ⟨hlen, UInt32.lt_iff_toNat_lt.2 ?_⟩
  rw [PresteraMsgVlanReq.ofBuff, ← hfull.agreeBelow_payload.readLe32 (by omega)]
  exact hport _ hfull

/-- The second byte of the VLAN id ends up in the attribute of the port. -/
theorem covered_vlanPvidSet (hown : OwnBytesOnly p) (hp : 4 ≤ p.length)
    (hmax : p.length ≤ saiagentMsgMaxSize) (hcmd : cmdOf p = Handler.vlanPvidSet.cmdType) :
    Covered p .vlanPvidSet := by
  have hport : ∀ b, Completion p b → (readLe32 b 4).toNat < 64 := fun b hb ↦
    UInt32.lt_iff_toNat_lt.1 (hown.port_lt hp hcmd hb .vlanPvidSet rfl nofun)
  have hlen : 14 ≤ p.length := by
    by_contra hshort
    obtain ⟨b, b', hb, hb', ha, ha', h₀, h₁⟩ :=
      exists_completions (completion_bufferOf hmax) (k := 13) (by omega) (by decide)
    have htrace := (hown.probe .vlanPvidSet hb hb').trace
    rw [probe_trace hp hcmd hb rfl, probe_trace hp hcmd hb' rfl] at htrace
    have hcall := congrArg (·[1]?) htrace
    simp only [PresteraMsgVlanReq.ofBuff] at hcall
    rw [portPvidPlan_trace (hport b hb), portPvidPlan_trace (hport b' hb')] at hcall
    have hagree : AgreeBelow 13 b b' := fun i hi ↦ (ha i hi).symm.trans (ha' i hi)
    simp only [Option.some.injEq, Prod.mk.injEq, SaiCall.setPortAttribute.injEq,
      SaiAttribute.mk.injEq, SaiAttrValue.u16.injEq, true_and, and_true] at hcall
    exact readLe16_ne_of_byteAt hagree h₀ h₁ hcall
  have hfull := completion_bufferOf hmax
  refine ⟨hlen, UInt32.lt_iff_toNat_lt.2 ?_⟩
  rw [PresteraMsgVlanReq.ofBuff, ← hfull.agreeBelow_payload.readLe32 (by omega)]
  exact hport _ hfull

/-- The admin byte of the PHY mode ends up in the attribute of the port. -/
theorem covered_portAttrSet (hown : OwnBytesOnly p) (hp : 4 ≤ p.length)
    (hcmd : cmdOf p = Handler.portAttrSet.cmdType) : Covered p .portAttrSet := by
  by_cases hnever : ∀ buf, Completion p buf →
      (PresteraMsgPortAttrReq.ofBuff buf).attr ≠ PresteraCmdPortAttr.phyMode
  · exact Or.inl hnever
  push Not at hnever
  obtain ⟨buf, hbuf, hattr⟩ := hnever
  have hport : ∀ b, Completion p b →
      (PresteraMsgPortAttrReq.ofBuff b).attr = PresteraCmdPortAttr.phyMode →
        (readLe32 b 8).toNat < 64 := fun b hb h ↦
    UInt32.lt_iff_toNat_lt.1 (hown.port_lt hp hcmd hb (.portAttrSet h) rfl nofun)
  have hlen : 29 ≤ p.length := by
    by_contra hshort
    obtain ⟨b, b', hb, hb', ha, ha', h₀, h₁⟩ :=
      exists_completions hbuf (k := 28) (by omega) (by decide)
    -- Both name the PHY mode, as the completion does they were cut from.
    have hphy : ∀ c, AgreeBelow 28 buf c →
        (PresteraMsgPortAttrReq.ofBuff c).attr = PresteraCmdPortAttr.phyMode := fun c hc ↦
      (hc.readLe32 (by omega)).symm.trans hattr
    have hplan : ∀ c, AgreeBelow 28 buf c → operationPlan (Runtime.calm 0) portedAgent c
        .portAttrSet = some (portAdminPlan portedAgent (readLe32 c 8) (byteAt c 28)) := fun c hc ↦
      if_pos (hphy c hc)
    have htrace := (hown.probe .portAttrSet hb hb').trace
    rw [probe_trace hp hcmd hb (hplan b ha), probe_trace hp hcmd hb' (hplan b' ha')] at htrace
    have hcall := congrArg (·[1]?) htrace
    rw [portAdminPlan_trace (hport b hb (hphy b ha)),
      portAdminPlan_trace (hport b' hb' (hphy b' ha')), h₀, h₁] at hcall
    exact absurd hcall (by decide)
  refine Or.inr ⟨hlen, UInt32.lt_iff_toNat_lt.2 ?_⟩
  rw [PresteraMsgPortAttrReq.ofBuff, ← hbuf.agreeBelow_payload.readLe32 (i := 8) (by omega)]
  exact hport buf hbuf hattr

/-- The last byte of the port number comes back in the reply. -/
theorem covered_portInfoGet (hown : OwnBytesOnly p) (hp : 4 ≤ p.length)
    (hmax : p.length ≤ saiagentMsgMaxSize) (hcmd : cmdOf p = Handler.portInfoGet.cmdType) :
        Covered p .portInfoGet := by
  by_contra hcov
  obtain ⟨b, b', hb, hb', ha, ha', h₀, h₁⟩ := exists_completions (completion_bufferOf hmax)
    (k := 7) (Nat.le_of_lt_succ (Nat.lt_of_not_le hcov)) (by decide)
  have hport := congrArg (Except.map (readLe32 · 8)) (hown.probe .portInfoGet hb hb').reply
  rw [probe_portInfoGet hp hcmd hb, probe_portInfoGet hp hcmd hb'] at hport
  have hagree : AgreeBelow 7 b b' := fun i hi ↦ (ha i hi).symm.trans (ha' i hi)
  exact readLe32_ne_of_byteAt hagree h₀ h₁ (Except.ok.inj hport)

/-- The last byte of the timeout ends up in the context of the thread. -/
theorem covered_keepaliveInit (hown : OwnBytesOnly p) (hp : 4 ≤ p.length)
    (hmax : p.length ≤ saiagentMsgMaxSize) (hcmd : cmdOf p = Handler.keepaliveInit.cmdType) :
        Covered p .keepaliveInit := by
  by_contra hcov
  obtain ⟨b, b', hb, hb', ha, ha', h₀, h₁⟩ := exists_completions (completion_bufferOf hmax)
    (k := 7) (Nat.le_of_lt_succ (Nat.lt_of_not_le hcov)) (by decide)
  have hstate := congrArg (·.threads.map (·.ctx.timeout)) (hown.probe .keepaliveInit hb hb').state
  rw [probe_keepaliveInit hp hcmd hb, probe_keepaliveInit hp hcmd hb'] at hstate
  have hagree : AgreeBelow 7 b b' := fun i hi ↦ (ha i hi).symm.trans (ha' i hi)
  have htimeout := congrArg Int32.toUInt32 (List.cons.inj hstate).1
  rw [UInt32.toUInt32_toInt32, UInt32.toUInt32_toInt32] at htimeout
  exact readLe32_ne_of_byteAt hagree h₀ h₁ htimeout

/-- **A payload that is not covered is acted on with bytes that are not its own.** -/
theorem covered_of_ownBytesOnly (hown : OwnBytesOnly p) (hp : 4 ≤ p.length)
    (hmax : p.length ≤ saiagentMsgMaxSize) {handler : Handler} (hcmd : cmdOf p = handler.cmdType) :
    Covered p handler := by
  cases handler with
  | vlanPortSet => exact covered_vlanPortSet hown hp hmax hcmd
  | vlanPvidSet => exact covered_vlanPvidSet hown hp hmax hcmd
  | portAttrSet => exact covered_portAttrSet hown hp hcmd
  | portInfoGet => exact covered_portInfoGet hown hp hmax hcmd
  | keepaliveInit => exact covered_keepaliveInit hown hp hmax hcmd
  | switchInit | switchReset | portAttrGet | switchAttrSet | vlanCreate | vlanDelete | stpPortSet
  | fdbFlushPort | routerMpHashSet | routerVrCreate | routerVrDel | routerLpmAdd
  | routerLpmDel => trivial

/-- **The payloads whose effect depends on their own bytes only.** -/
theorem ownBytesOnly_iff (hmax : p.length ≤ saiagentMsgMaxSize) :
    OwnBytesOnly p ↔
      (4 ≤ p.length → ∀ handler : Handler, handler.cmdType = cmdOf p → Covered p handler) := by
  constructor
  · intro hown hp handler hcmd
    exact covered_of_ownBytesOnly hown hp hmax hcmd.symm
  · intro hcov σ E rt w buf buf' out htable h h' hout
    have hmax' : saiagentMsgMaxSize = 1500 := rfl
    have hlen := h.length_eq
    have hlen' := h'.length_eq
    dsimp only
    rw [run_processReq (by omega), run_processReq (by omega)]
    by_cases hp : 4 ≤ p.length
    · have hsel : selected w.state.ipcCbList buf' (UInt64.ofNat p.length) =
          selected w.state.ipcCbList buf (UInt64.ofNat p.length) := by
        rw [selected, selected, cmdOf_completion h hp, cmdOf_completion h' hp]
      rw [hsel]
      cases hs : selected w.state.ipcCbList buf (UInt64.ofNat p.length) with
      | none =>
        exact ⟨fun _ ↦ not_outOfBounds (total_putReplyAck (isReply_freshReply hout) _).faultsIn w,
          SameEffect.refl _⟩
      | some handler =>
        have hcmd := (htable.cmdType_eq_of_selected hs).trans (cmdOf_completion h hp)
        have hcovered := hcov hp handler hcmd
        have hin : handler.LooksInside ((handedRequest buf (UInt64.ofNat p.length)).buff.getD []) :=
          looksInside_of_covered hcovered h
        dsimp only
        refine ⟨fun hroom ↦
          not_outOfBounds (faultsIn_handler hroom (isReply_freshReply hout) hin) w, ?_⟩
        rw [run_handler_eq hcovered h h']
        exact SameEffect.refl _
    · have hshort : ¬(4 : UInt64) ≤ UInt64.ofNat p.length := by
        rw [UInt64.le_iff_toNat_le, UInt64.toNat_ofNat']
        exact fun hle ↦ hp (Nat.le_trans hle (Nat.mod_le _ _))
      simp only [selected, if_neg hshort]
      exact ⟨fun _ ↦ not_outOfBounds (total_putReplyAck (isReply_freshReply hout) _).faultsIn w,
        SameEffect.refl _⟩

/-- A `KEEPALIVE_INIT` of eight bytes is its own. -/
theorem ownBytesOnly_iff_keepaliveInit :
    OwnBytesOnly (le32 (UInt32.ofNat PresteraCmdType.keepaliveInit) ++ le32 1000) := by
  have hlen : (le32 (UInt32.ofNat PresteraCmdType.keepaliveInit) ++ le32 1000).length = 8 := by
    rw [List.length_append, length_le32, length_le32]
  refine (ownBytesOnly_iff (by rw [hlen]; decide)).2 fun _ handler hcmd ↦ ?_
  have hkeep : handler = .keepaliveInit := by
    revert hcmd
    cases handler <;> decide
  subst hkeep
  exact Nat.le_of_eq hlen.symm

/-- A `PORT_INFO_GET` without its port is answered with what an earlier request left. -/
theorem portInfoGet_reads_residue :
    ¬OwnBytesOnly (le32 (UInt32.ofNat PresteraCmdType.portInfoGet)) := by
  intro hown
  have hcompletion : ∀ port, Completion (le32 (UInt32.ofNat PresteraCmdType.portInfoGet))
      (bufferOf (le32 (UInt32.ofNat PresteraCmdType.portInfoGet) ++ le32 port)) := fun port ↦
    ⟨(List.prefix_append _ _).trans (List.prefix_append _ _),
      length_bufferOf (by rw [List.length_append, length_le32, length_le32]; decide)⟩
  have hreply := (hown.probe .portInfoGet (hcompletion 1) (hcompletion 2)).reply
  have hport := congrArg (Except.map (readLe32 · 8)) hreply
  have hlen : 4 ≤ (le32 (UInt32.ofNat PresteraCmdType.portInfoGet)).length := by decide
  rw [probe_portInfoGet hlen (by decide) (hcompletion 1),
    probe_portInfoGet hlen (by decide) (hcompletion 2)] at hport
  exact absurd (Except.ok.inj hport) (by decide +kernel)

end SaiAgent
