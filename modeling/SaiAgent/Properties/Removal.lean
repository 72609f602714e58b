import SaiAgent.Properties.Confinement
import SaiAgent.Properties.Keepalive

/-!
# The end of a session

The switch is removed when a SWITCH_RESET finds one. The session is over with that request, whether
the keepalive thread can be destroyed or not: `removed_last` says that in a run over any SAI the
switch is removed at most once, and that SAI is asked nothing afterwards.
-/

namespace SaiAgent

open Effects Effects.Proc Effects.Run

variable {σ : Type} {E : SaiBackend σ} {s : Session σ} {i : SessionInput}

/-- The call removes a switch. -/
def SaiCall.removes : SaiCall → Bool
  | .removeSwitch _ => true
  | _ => false

/-- Nothing was removed, or a switch was with the very last call, and the session is over. -/
def RemovedLast (s : Session σ) : Prop :=
  (∀ e ∈ s.world.trace, e.1.removes = false) ∨
    ∃ u o r, s.world.trace = u ++ [(.removeSwitch o, r)] ∧ o ≠ saiNullObjectId ∧
      (∀ e ∈ u, e.1.removes = false) ∧ ¬s.Live

theorem SaiCall.changes_of_removes {c : SaiCall} (h : c.removes = true) : c.changes = true := by
  cases c with
  | removeSwitch o => rfl
  | _ => cases h

/-- Only a SWITCH_RESET of an initialised switch asks for its removal. -/
theorem Handler.AskedFor.of_removes {a : Agent} {buf : List UInt8} {c : SaiCall} {handler : Handler}
    (h : handler.AskedFor a buf c) (hc : c.removes = true) :
    handler = .switchReset ∧ a.swInfo.switchOid ≠ saiNullObjectId := by
  cases handler with
  | switchInit =>
    obtain rfl | ⟨o, rfl⟩ := h
    · cases hc
    · cases hc
  | switchReset => exact ⟨rfl, h.2⟩
  | portAttrSet =>
    obtain ⟨-, o, -, rfl⟩ := h
    cases hc
  | vlanPvidSet =>
    obtain ⟨o, -, rfl⟩ := h
    cases hc
  | vlanPortSet =>
    cases h <;> cases hc
  | keepaliveInit | switchAttrSet | portInfoGet | portAttrGet | vlanCreate | vlanDelete | stpPortSet
  | fdbFlushPort | routerMpHashSet | routerVrCreate | routerVrDel | routerLpmAdd
  | routerLpmDel => exact h.elim

/-- What a SWITCH_RESET of an initialised switch asks of SAI. -/
theorem trace_switchReset
    (hsel : selected s.world.state.ipcCbList i.buf.bytes i.size = some .switchReset)
    (hoid : s.world.state.swInfo.switchOid ≠ saiNullObjectId) :
    ∃ u, (∀ e ∈ u, e.1.removes = false) ∧
      ((s.step E i).world.trace = s.world.trace ++ u ∨
        ∃ r, (s.step E i).world.trace =
          s.world.trace ++ u ++ [(.removeSwitch s.world.state.swInfo.switchOid, r)]) := by
  rw [Session.step_world, Session.handle_of_selected hsel, Handler.run]
  rcases hderef : derefThread s.world.state.threads s.world.state.swInfo.keepaliveCtx with e | ⟨k,
    slot⟩
  · rw [run_switchReset_error hoid hderef]
    exact ⟨[], fun e he ↦ absurd he List.not_mem_nil, Or.inl (List.append_nil _).symm⟩
  have hquiet : ∀ e ∈ [(SaiCall.saiApiQuery .switch, (E (.saiApiQuery .switch) s.world.env).1)],
      e.1.removes = false := fun e he ↦ by
    rw [List.mem_singleton.1 he]
    rfl
  refine ⟨_, hquiet, ?_⟩
  rcases hquery : (E (.saiApiQuery .switch) s.world.env).1.ok with _ | _
  · rw [run_switchReset_of_refused hoid hderef hquery]
    exact Or.inl rfl
  · rw [run_switchReset hoid hderef hquery]
    refine Or.inr ?_
    rcases i.rt.destroyFault with _ | e
    · obtain ⟨reply, hack, -⟩ :=
        run_lift_putReplyAck (isReply_freshReply i.out.length_eq) rcStatusOk
          ((beforeDestroy E s.world k slot).mapState fun a ↦ (a.setThreads (a.threads.set k
            (i.rt.destroyed slot))).setRunning false)
      exact ⟨_, congrArg (fun r ↦ (worldOf r).trace) hack⟩
    · exact ⟨_, rfl⟩

/-- The step lemma. -/
theorem RemovedLast.step (h : RemovedLast s) (hl : s.Live) (i : SessionInput) :
    RemovedLast (s.step E i) := by
  obtain hnone | ⟨u, o, r, -, -, -, hdead⟩ := h
  swap
  · exact absurd hl hdead
  by_cases hreset : selected s.world.state.ipcCbList i.buf.bytes i.size = some .switchReset ∧
      s.world.state.swInfo.switchOid ≠ saiNullObjectId
  · obtain ⟨hsel, hoid⟩ := hreset
    obtain ⟨u, hu, htrace | ⟨r, htrace⟩⟩ := trace_switchReset (E := E) hsel hoid
    · refine Or.inl ?_
      rw [htrace]
      exact List.forall_mem_append.2 ⟨hnone, hu⟩
    · exact Or.inr ⟨_, _, r, htrace, hoid, List.forall_mem_append.2 ⟨hnone, hu⟩,
        (resetRun hsel hoid).not_live⟩
  · obtain ⟨u, hu, hasked⟩ := asked_step (E := E) s i
    refine Or.inl ?_
    rw [hu]
    refine List.forall_mem_append.2 ⟨hnone, fun e he ↦ Bool.eq_false_iff.2 fun hremoves ↦ ?_⟩
    obtain ⟨handler, hsel, hfor⟩ := hasked e he (SaiCall.changes_of_removes hremoves)
    obtain ⟨rfl, hoid⟩ := hfor.of_removes hremoves
    exact hreset ⟨hsel, hoid⟩

/-- **Nothing follows the removal of the switch.** In every run over any SAI the calls that remove a
switch are at most one, the last call of all, on an object that is not null, and the session is over
with it. -/
theorem removed_last (E : SaiBackend σ) (env : σ) (is : List SessionInput) :
    RemovedLast (Session.exec E (Session.start env) is) :=
  exec_invariant_of_all (fun _ i hl h ↦ h.step hl i) is _
    (Or.inl fun _ he ↦ absurd he List.not_mem_nil)

end SaiAgent
