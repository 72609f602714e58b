import SaiAgent.Model.Loop

/-!
# Sessions

The agent from its first request on: one request handled after the other, until the loop is
stopped or a handler does not return: it runs into undefined behaviour, or waits for ever. What the
loop adds to this — which requests reach it and what becomes of the replies — is
`SaiAgent.Model.Loop`.
-/

namespace SaiAgent

open Effects Effects.Proc

variable {σ : Type} (E : SaiBackend σ)

/-- A request: the receive buffer with its payload size, the reply buffer, and what the C runtime
decides while it is handled. -/
structure SessionInput where
  buf : MsgBuffer
  size : UInt64
  out : MsgBuffer
  rt : Runtime

/-- The agent between two requests. -/
structure Session (σ : Type) where
  world : World σ
  /-- A handler ran into undefined behaviour, or waits for ever; nothing runs after it. -/
  crashed : Bool

namespace Session

/-- The loop's condition. -/
def Live (s : Session σ) : Prop := s.world.state.running = true ∧ s.crashed = false

instance : DecidablePred fun s : Session σ ↦ s.Live := fun _ ↦ inferInstanceAs (Decidable (_ ∧ _))

/-- Handle a request. -/
def handle (w : World σ) (i : SessionInput) : EStateM.Result Fault (World σ) SaiagentMsg :=
  EStateM.run (saiagentIpcProcessReq E i.rt i.buf.bytes i.size (some i.out.bytes)
    (UInt64.ofNat saiagentMsgMaxSize)) w

/-- One request. -/
def step (s : Session σ) (i : SessionInput) : Session σ :=
  match handle E s.world i with
  | .ok _ w => ⟨w, false⟩
  | .error _ w => ⟨w, true⟩

/-- The session after these requests. -/
def exec : Session σ → List SessionInput → Session σ := Run.exec Live (step E)

end Session

/-- `saiagent_switch_ipc_init`. -/
def saiagentSwitchIpcInit : AgentM σ Rc := saiagentIpcCbSet PresteraCmdType.switchInit .switchInit

/-- The agent as it enters the loop: SWITCH_INIT is registered, and no request was handled. -/
def Session.start (env : σ) : Session σ where
  world := (worldOf (EStateM.run saiagentSwitchIpcInit ⟨Agent.zero, env, []⟩)).mapState fun a ↦
    a.setRunning true
  crashed := false

end SaiAgent
