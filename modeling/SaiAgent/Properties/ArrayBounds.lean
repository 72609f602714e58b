import SaiAgent.Properties.InitRequest
import SaiAgent.Properties.OneSwitch
import SaiAgent.Properties.Returning

/-!
# Inside the arrays

The two lists of `sw_info` have room for 64 ports, and nothing compares a port number from a request
with it before the list is looked at. Where the numbers that are looked up are below 64, and SAI
keeps to the room it is given, no handler goes past the end of an array: what it stops at, if it
stops, is something else (`staysInside_of_looksInside`).
-/

namespace SaiAgent

open Effects Effects.Proc Effects.Run

variable {σ : Type} {E : SaiBackend σ} {rt : Runtime} {request reply : SaiagentMsg}

/-- The port number that is looked up for the request, if one is, is inside the arrays. -/
def Handler.LooksInside : Handler → List UInt8 → Prop
  | .portAttrSet, buf =>
    (PresteraMsgPortAttrReq.ofBuff buf).attr = PresteraCmdPortAttr.phyMode →
      (PresteraMsgPortAttrReq.ofBuff buf).port < 64
  | .vlanPortSet, buf => (PresteraMsgVlanReq.ofBuff buf).port < 64
  | .vlanPvidSet, buf => (PresteraMsgVlanReq.ofBuff buf).port < 64
  | _, _ => True

instance : ∀ (handler : Handler) (buf : List UInt8), Decidable (handler.LooksInside buf)
  | .portAttrSet, _ => inferInstanceAs (Decidable (_ → _))
  | .vlanPortSet, _ | .vlanPvidSet, _ => inferInstanceAs (Decidable (_ < _))
  | .switchInit, _ | .switchReset, _ | .keepaliveInit, _ | .portInfoGet, _ | .portAttrGet, _
  | .switchAttrSet, _ | .vlanCreate, _ | .vlanDelete, _ | .stpPortSet, _ | .fdbFlushPort, _
  | .routerMpHashSet, _ | .routerVrCreate, _ | .routerVrDel, _ | .routerLpmAdd, _
  | .routerLpmDel, _ => isTrue trivial

/-- SWITCH_INIT reads no array past its end. -/
theorem faultsIn_switchInit (hroom : KeepsRoom E) (request : SaiagentMsg) {reply : SaiagentMsg}
    (hr : IsReply reply) :
    FaultsIn (· ≠ .outOfBounds) (saiagentIpcProcessSwitchInit E rt request reply) := by
  by_cases hmalloc : rt.hwInfoMalloc = true
  · exact (total_saiagentIpcProcessSwitchInit hroom hmalloc hr).faultsIn
  -- Without memory, the hardware information is a null pointer.
  have hinit : FaultsIn (· ≠ .outOfBounds) (saiSwitchInit E rt) := by
    refine faultsIn_saiRetErr (faultsIn_plainCall _) fun _ ↦
      faultsIn_saiRetErr (faultsIn_plainCall _) fun _ ↦ ?_
    rw [createSwitch, if_neg hmalloc]
    exact FaultsIn.fault (by decide)
  intro w e w' hrun
  rcases hswitch : EStateM.run (saiSwitchInit E rt) w with ⟨status, w₁⟩ | ⟨e₁, w₁⟩
  · by_cases hsg : rt.switchInitStatus = rcStatusOk
    · obtain ⟨r, w₃, hreply, -⟩ := run_processSwitchInit_of_eq request hsg hr hswitch
      cases hreply.symm.trans hrun
    · obtain ⟨r, hreply, -⟩ := run_processSwitchInit_of_ne request hsg hr hswitch
      cases hreply.symm.trans hrun
  · cases (run_processSwitchInit_of_fault hswitch).symm.trans hrun
    exact hinit w e w' hswitch

theorem faultsIn_clearRunning (ctx : Option ℕ) :
    FaultsIn (· ≠ .outOfBounds) (clearRunning ctx : AgentM σ (ℕ × ThreadSlot)) := by
  refine (FaultsIn.getState _).bind fun threads ↦ (FaultsIn.lift fun e he ↦ ?_).bind fun _ ↦
    (FaultsIn.modState _).bind fun _ ↦ .pure _
  rintro rfl
  rcases ctx with _ | i
  · cases he
  · rcases hi : threads[i]? with _ | slot
    · rw [derefThread, hi] at he
      cases he
    · rw [derefThread, hi] at he
      dsimp only at he
      split at he <;> cases he

theorem faultsIn_switchReset (request : SaiagentMsg) {reply : SaiagentMsg} (hr : IsReply reply) :
    FaultsIn (· ≠ .outOfBounds) (saiagentIpcProcessSwitchReset E rt request reply) := by
  refine (FaultsIn.getState _).bind fun swInfo ↦
    FaultsIn.ite ?_ (total_putReplyAck hr _).faultsIn
  refine ((faultsIn_clearRunning _).bind fun _ ↦ .pure _).bind fun _ ↦
    (FaultsIn.ask E _).bind fun r ↦ FaultsIn.ite (FaultsIn.fault (by decide))
      ((FaultsIn.ask E _).bind fun _ ↦ FaultsIn.bind ?_ fun _ ↦
        (FaultsIn.modState _).bind fun _ ↦ (total_putReplyAck hr _).faultsIn)
  refine (faultsIn_clearRunning _).bind fun p ↦ ?_
  rcases rt.pthreadJoin with _ | _ | _
  · exact FaultsIn.ite (FaultsIn.fault (by decide)) ((FaultsIn.modState _).bind fun _ ↦ .pure _)
  · exact FaultsIn.pure _
  · exact FaultsIn.fault (by decide)

/-- **No handler goes past an array.** -/
theorem faultsIn_handler (hroom : KeepsRoom E) (hr : IsReply reply) {handler : Handler}
    (hin : handler.LooksInside (request.buff.getD [])) :
    FaultsIn (· ≠ .outOfBounds) (handler.run E rt request reply) := by
  have htotal : (∀ n ∈ portOf handler (request.buff.getD []), n < 64) → handler ≠ .switchInit →
      handler ≠ .switchReset → FaultsIn (· ≠ .outOfBounds) (handler.run E rt request reply) :=
    fun hport hinit hreset ↦ (total_handler hroom hr hport hinit hreset).faultsIn
  cases handler with
  | switchInit => exact faultsIn_switchInit hroom request hr
  | switchReset => exact faultsIn_switchReset request hr
  | vlanPortSet | vlanPvidSet =>
    refine htotal (fun n hn ↦ ?_) nofun nofun
    obtain rfl := Option.some.inj hn
    exact hin
  | portAttrSet =>
    by_cases hphy : (PresteraMsgPortAttrReq.ofBuff (request.buff.getD [])).attr =
        PresteraCmdPortAttr.phyMode
    · refine htotal (fun n hn ↦ ?_) nofun nofun
      obtain rfl := Option.some.inj hn
      exact hin hphy
    · rw [Handler.run, saiagentIpcProcessPortAttrSet, if_neg hphy]
      exact (total_putReplyAck hr _).faultsIn
  | portInfoGet =>
    exact (total_replaceWith hr (n := 5) (PresteraMsgPortInfoResp.length_bytes _)
      (by decide)).faultsIn
  | keepaliveInit | portAttrGet | switchAttrSet | vlanCreate | vlanDelete | stpPortSet
  | fdbFlushPort | routerMpHashSet | routerVrCreate | routerVrDel | routerLpmAdd
  | routerLpmDel => exact htotal nofun nofun nofun

/-! ### Requests -/

/-- Whatever port the request has looked up is inside the arrays. -/
def Session.LooksInside (s : Session σ) (i : SessionInput) : Prop :=
  ∀ handler ∈ selected s.world.state.ipcCbList i.buf.bytes i.size, handler.LooksInside i.buf.bytes

instance (s : Session σ) (i : SessionInput) : Decidable (s.LooksInside i) :=
  inferInstanceAs (Decidable (∀ _ ∈ _, _))

/-- Handling the request goes past no array. -/
def Session.StaysInside (E : SaiBackend σ) (s : Session σ) (i : SessionInput) : Prop :=
  ∀ w', Session.handle E s.world i ≠ .error .outOfBounds w'

/-- **A request whose port numbers are inside the arrays stays inside them.** -/
theorem staysInside_of_looksInside (hroom : KeepsRoom E) {s : Session σ} {i : SessionInput}
    (h : s.LooksInside i) : s.StaysInside E i := by
  intro w' hrun
  rcases hsel : selected s.world.state.ipcCbList i.buf.bytes i.size with _ | handler
  · obtain ⟨reply, hreply⟩ := Session.handle_of_not_selected (E := E) hsel
    cases hreply.symm.trans hrun
  · have hin : handler.LooksInside ((handedRequest i.buf.bytes i.size).buff.getD []) :=
      h handler hsel
    rw [Session.handle_of_selected hsel] at hrun
    exact faultsIn_handler hroom (isReply_freshReply i.out.length_eq) hin s.world _ w' hrun rfl

/-- Over a run. -/
theorem along_staysInside (hroom : KeepsRoom E) {s : Session σ} {is : List SessionInput}
    (h : Along Session.Live (Session.step E) Session.LooksInside s is) :
    Along Session.Live (Session.step E) (Session.StaysInside E) s is :=
  h.mono fun _ _ ↦ staysInside_of_looksInside hroom

end SaiAgent
