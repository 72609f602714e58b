import SaiAgent.Model.Program

/-!
# The command line and the profile

Each `-p` parses a profile, and the program goes on with the last one that was parsed to its end: a
file with a line that does not parse is skipped without a word. `main_profile` says when the program
gets as far as calling a library, and that the services then look at that profile for as long as the
program runs: SAI looks names up in all of it, and enumerates it from its head on.
-/

namespace SaiAgent

open Effects Effects.Proc

/-! ### The options -/

/-- What becomes of an option: its status, and the parameters it stores, if it stores any. -/
def CmdOpt.outcome : CmdOpt → Except Fault (Rc × Option (List Param))
  | .profile file calloc => saiProfileParse file calloc
  | .portmap opens => .ok (if opens then rcStatusOk else rcStatusErr, none)
  | .unknown => .ok (rcStatusErr, none)

/-- The option is accepted. -/
def CmdOpt.Accepted (o : CmdOpt) : Prop := ∃ stored, o.outcome = .ok (rcStatusOk, stored)

/-- The parameters an option stores. -/
def CmdOpt.stored (o : CmdOpt) : Option (List Param) :=
  match o.outcome with
  | .ok (_, stored) => stored
  | .error _ => none

/-- The parameters of the last profile that stores any. -/
def profileOf (opts : List CmdOpt) : Option (List Param) := (opts.filterMap CmdOpt.stored).getLast?

variable {o : CmdOpt} {opts : List CmdOpt} {params params₀ : List Param}

/-- The options behind an accepted one go on with what it stores. -/
theorem cmdLineProcess_cons_of_accepted (h : o.Accepted) (opts : List CmdOpt)
    (params₀ : List Param) :
    cmdLineProcess (o :: opts) params₀ = cmdLineProcess opts (o.stored.getD params₀) := by
  obtain ⟨stored, ho⟩ := h
  rw [CmdOpt.stored, ho]
  cases o with
  | profile file calloc =>
    rw [CmdOpt.outcome] at ho
    rw [cmdLineProcess, ho]
    exact if_neg fun hne ↦ hne rfl
  | portmap opens =>
    cases opens with
    | false => cases ho
    | true =>
      cases ho
      rfl
  | unknown => cases ho

/-- At an option that is not accepted the command line is given up. -/
theorem cmdLineProcess_cons_of_not_accepted (h : ¬o.Accepted) (opts : List CmdOpt)
    (params₀ params : List Param) :
    cmdLineProcess (o :: opts) params₀ ≠ .ok (rcStatusOk, params) := by
  intro hok
  cases o with
  | profile file calloc =>
    rw [cmdLineProcess] at hok
    rcases hparse : saiProfileParse file calloc with e | ⟨status, stored⟩
    · rw [hparse] at hok
      cases hok
    · have hne : status ≠ rcStatusOk := fun heq ↦ h ⟨stored, by rw [CmdOpt.outcome, hparse, heq]⟩
      rw [hparse] at hok
      cases (if_pos hne).symm.trans hok
  | portmap opens =>
    cases opens with
    | false => cases hok
    | true => exact h ⟨none, rfl⟩
  | unknown => cases hok

/-- **What the command line comes to**: every option is accepted, and the last profile counts. The
induction is over the options. -/
theorem cmdLineProcess_eq_ok_iff (opts : List CmdOpt) :
    ∀ params₀ params, cmdLineProcess opts params₀ = .ok (rcStatusOk, params) ↔
      (∀ o ∈ opts, o.Accepted) ∧ params = (profileOf opts).getD params₀ := by
  induction opts with
  | nil =>
    intro params₀ params
    constructor
    · intro h
      cases h
      exact ⟨fun o ho ↦ absurd ho List.not_mem_nil, rfl⟩
    · rintro ⟨-, rfl⟩
      rfl
  | cons o opts ih =>
    intro params₀ params
    by_cases ho : o.Accepted
    · rw [cmdLineProcess_cons_of_accepted ho, ih, List.forall_mem_cons, and_iff_right ho]
      rw [profileOf, profileOf, List.filterMap_cons]
      cases o.stored with
      | none => rfl
      | some stored =>
        rw [List.getLast?_cons]
        rfl
    · exact iff_of_false (cmdLineProcess_cons_of_not_accepted ho opts params₀ params) fun h ↦
        ho (h.1 o List.mem_cons_self)

namespace Program

variable {σ τ : Type} {E : SaiBackend σ} {L : LibBackend τ}

/-! ### The program keeps the profile -/

/-- The enumeration stays inside the profile. -/
theorem iterAfter_suffix (calls : List ProfileCall) :
    ∀ {iter : List Param}, iter <:+ params → iterAfter params iter calls <:+ params := by
  induction calls with
  | nil => exact id
  | cons call calls ih =>
    intro iter h
    cases call with
    | getValue varName => exact ih h
    | getNextValue varPtr =>
      refine ih ?_
      cases varPtr with
      | false => exact List.suffix_rfl
      | true =>
        cases iter with
        | nil => exact List.suffix_rfl
        | cons param next => exact (List.suffix_cons param next).trans h

/-- The enumeration goes on where it is. -/
theorem iterAfter_append (params : List Param) (calls' calls : List ProfileCall) :
    ∀ iter : List Param, iterAfter params iter (calls ++ calls') =
      iterAfter params (iterAfter params iter calls) calls' := by
  induction calls with
  | nil => exact fun _ ↦ rfl
  | cons call calls ih =>
    intro iter
    cases call with
    | getValue varName => exact ih iter
    | getNextValue varPtr => exact ih _

/-- What SAI called the services with, from the first library call on. -/
def servicesCalled (t : List (LibCall × LibResp)) : List ProfileCall :=
  t.flatMap fun e ↦ e.2.services

/-- A library was called, this is the profile the services look at, and the enumeration is where the
calls of the services took it from the head. -/
structure Profiled (params : List Param) (w : OracleWorld (Statics σ) LibCall LibResp τ) :
    Prop where
  called : w.trace ≠ []
  gProfileParams : w.state.gProfileParams = params
  gIter : w.state.gIter = iterAfter params params (servicesCalled w.trace)

variable {α β : Type} {c : LibCall}

/-- Whatever SAI asks of the services during a library call. -/
theorem profiled_asked {w : OracleWorld (Statics σ) LibCall LibResp τ}
    (hparams : w.state.gProfileParams = params)
    (hiter : w.state.gIter = iterAfter params params (servicesCalled w.trace)) :
    Profiled params ((w.asked L c).mapState fun g ↦ g.serve (L c w.env).1.services) := by
  obtain rfl := hparams
  refine ⟨List.append_ne_nil_of_right_ne_nil _ (List.cons_ne_nil _ _), rfl, ?_⟩
  show iterAfter _ w.state.gIter _ = iterAfter _ _ (servicesCalled (w.trace ++ [(c, _)]))
  rw [servicesCalled, List.flatMap_append, List.flatMap_singleton, iterAfter_append, hiter]
  rfl

theorem profiled_lib : Preserves (Profiled params) (lib L c : ProgM σ τ LibResp) := fun _ hw ↦
  profiled_asked hw.gProfileParams hw.gIter

theorem profiled_getState {f : Statics σ → α} :
    Preserves (Profiled params) (getState f : ProgM σ τ α) := fun _ hw ↦ hw

theorem profiled_deref (h : Option Handle) :
    Preserves (Profiled params) (deref h : ProgM σ τ Handle) := by
  cases h with
  | none => exact Preserves.fault _
  | some h => exact Preserves.pure _

theorem profiled_ctxSock : Preserves (Profiled params) (ctxSock : ProgM σ τ Handle) :=
  profiled_getState.bind profiled_deref

theorem profiled_onAgent {p : AgentM σ α} :
    Preserves (Profiled params) (onAgent p : ProgM σ τ α) := by
  intro w hw
  rcases hr : EStateM.run p w.state.agent with ⟨a, g⟩ | ⟨f, g⟩
  · rw [run_onAgent_of_ok hr]
    exact ⟨hw.called, hw.gProfileParams, hw.gIter⟩
  · rw [run_onAgent_of_error hr]
    exact ⟨hw.called, hw.gProfileParams, hw.gIter⟩

theorem profiled_lib_bind {k : LibResp → ProgM σ τ α}
    (h : ∀ r, Preserves (Profiled params) (k r)) :
    Preserves (Profiled params) (lib L c >>= k) :=
  profiled_lib.bind h

theorem profiled_errInit (sock : Handle) :
    Preserves (Profiled params) (errInit L sock : ProgM σ τ Rc) :=
  profiled_lib_bind fun _ ↦ Preserves.pure _

theorem profiled_awaitFamily (sock : Handle) (n : ℕ) :
    Preserves (Profiled params) (awaitFamily L sock n : ProgM σ τ Int32) := by
  induction n with
  | zero => exact Preserves.fault _
  | succ n ih =>
    exact profiled_lib_bind fun r ↦ Preserves.ite (profiled_lib_bind fun _ ↦ ih) (Preserves.pure _)

theorem profiled_saiagentIpcInit (n : ℕ) :
    Preserves (Profiled params) (saiagentIpcInit L n : ProgM σ τ Rc) := by
  refine profiled_lib_bind fun r ↦ ?_
  cases r.ptr with
  | none => exact Preserves.pure _
  | some s =>
    refine profiled_lib_bind fun _ ↦ Preserves.ite (profiled_errInit s) ?_
    refine (profiled_awaitFamily s n).bind fun family ↦ ?_
    refine profiled_lib_bind fun _ ↦ Preserves.ite (profiled_errInit s) ?_
    refine profiled_lib_bind fun _ ↦ Preserves.ite (profiled_errInit s) ?_
    refine profiled_lib_bind fun _ ↦ Preserves.ite (profiled_errInit s) ?_
    refine profiled_lib_bind fun _ ↦ ?_
    exact Preserves.bind (Preserves.change fun _ hw ↦ ⟨hw.called, hw.gProfileParams, hw.gIter⟩)
      fun _ ↦ Preserves.pure _

theorem profiled_saiagentIpcDeinit :
    Preserves (Profiled params) (saiagentIpcDeinit L : ProgM σ τ Unit) :=
  profiled_getState.bind fun _ ↦ profiled_lib_bind fun _ ↦ Preserves.pure _

theorem profiled_sendAuto (m : Handle) :
    Preserves (Profiled params) (sendAuto L m : ProgM σ τ Rc) :=
  profiled_ctxSock.bind fun _ ↦ profiled_lib_bind fun _ ↦ profiled_lib_bind fun _ ↦
    Preserves.ite (Preserves.pure _) (Preserves.pure _)

theorem profiled_errSend (m : Handle) :
    Preserves (Profiled params) (errSend L m : ProgM σ τ Rc) :=
  profiled_lib_bind fun _ ↦ Preserves.pure _

theorem profiled_saiagentIpcSend (src : Option Handle) (msg : Option (List UInt8))
    (msgSize : UInt64) (type : SaiagentNlType) (pid seq : UInt32) : Preserves (Profiled params)
      (saiagentIpcSend L src msg msgSize type pid seq : ProgM σ τ Rc) := by
  refine profiled_lib_bind fun r ↦ ?_
  cases r.ptr with
  | none => exact Preserves.pure _
  | some m =>
    refine profiled_getState.bind fun _ ↦ profiled_lib_bind fun hdr ↦
      Preserves.ite (profiled_errSend m) ?_
    cases if msgSize > 0 then msg.map (List.take msgSize.toNat) else none with
    | none => exact profiled_sendAuto m
    | some data =>
      exact profiled_lib_bind fun _ ↦ Preserves.ite (profiled_errSend m) (profiled_sendAuto m)

theorem profiled_recvmsgs (cb : Option Handle) {callback : List NlPacket → ProgM σ τ Unit}
    (hcallback : ∀ batch, Preserves (Profiled params) (callback batch)) :
    Preserves (Profiled params) (recvmsgs L cb callback : ProgM σ τ LibResp) :=
  (profiled_deref cb).bind fun _ ↦ profiled_lib_bind fun _ ↦ profiled_ctxSock.bind fun _ ↦
    profiled_lib_bind fun r ↦ (hcallback r.batch).bind fun _ ↦ profiled_lib_bind fun _ ↦
      Preserves.pure _

theorem profiled_saiagentIpcDrvInit :
    Preserves (Profiled params) (saiagentIpcDrvInit L : ProgM σ τ Rc) :=
  profiled_lib_bind fun _ ↦ (profiled_saiagentIpcSend _ _ _ _ _ _).bind fun _ ↦
    (profiled_recvmsgs _ fun _ ↦ Preserves.pure _).bind fun _ ↦
      Preserves.ite (Preserves.pure _) (Preserves.pure _)

theorem profiled_copyAll (inPtr : Option Handle) (size : UInt64) (msgs : List NlPacket) :
    Preserves (Profiled params) (copyAll L inPtr size msgs : ProgM σ τ Unit) := by
  induction msgs with
  | nil => exact Preserves.pure _
  | cons msg msgs ih =>
    exact Preserves.ite ih ((profiled_deref inPtr).bind fun _ ↦ profiled_lib_bind fun _ ↦ ih)

theorem profiled_readRequest (inPtr : Option Handle) (payloadSize : UInt64) :
    Preserves (Profiled params) (readRequest L inPtr payloadSize : ProgM σ τ Unit) :=
  Preserves.ite ((profiled_deref inPtr).bind fun _ ↦ profiled_lib_bind fun _ ↦ Preserves.pure _)
    (Preserves.pure _)

theorem profiled_writeReply (outPtr : Option Handle) :
    Preserves (Profiled params) (writeReply L outPtr : ProgM σ τ Unit) := by
  cases outPtr with
  | none => exact Preserves.pure _
  | some h => exact profiled_lib_bind fun _ ↦ Preserves.pure _

theorem profiled_loopRounds (inPtr outPtr : Option Handle) (n : ℕ) :
    ∀ (inMsg : SaiagentNlRecvMsg) (outBuf : Option (List UInt8)), Preserves (Profiled params)
      (loopRounds E L inPtr outPtr n inMsg outBuf : ProgM σ τ Unit) := by
  induction n with
  | zero => exact fun _ _ ↦ Preserves.fault _
  | succ n ih =>
    intro inMsg outBuf
    refine profiled_getState.bind fun _ ↦ Preserves.ite (Preserves.pure _) ?_
    refine Preserves.bind (profiled_lib_bind fun _ ↦ (profiled_recvmsgs _ fun batch ↦
      profiled_copyAll _ _ batch).bind fun _ ↦ Preserves.pure _) fun res ↦
        Preserves.ite (ih _ _) ?_
    refine (profiled_readRequest _ _).bind fun _ ↦ profiled_onAgent.bind fun _ ↦ ?_
    exact (profiled_writeReply _).bind fun _ ↦ (profiled_saiagentIpcSend _ _ _ _ _ _).bind fun _ ↦
      ih _ _

theorem profiled_serveDriver (n : ℕ) (stack : StackRecord) :
    Preserves (Profiled params) (serveDriver E L n stack : ProgM σ τ Int32) := by
  have herr : Preserves (Profiled params) (errIpcInit L : ProgM σ τ Int32) :=
    profiled_saiagentIpcDeinit.bind fun _ ↦ Preserves.pure _
  refine (profiled_saiagentIpcInit n).bind fun _ ↦ Preserves.ite herr ?_
  refine profiled_onAgent.bind fun _ ↦ Preserves.ite herr ?_
  refine profiled_saiagentIpcDrvInit.bind fun _ ↦ Preserves.ite herr ?_
  refine Preserves.bind ?_ fun _ ↦ profiled_lib_bind fun _ ↦ herr
  refine profiled_lib_bind fun _ ↦ profiled_lib_bind fun _ ↦ profiled_getState.bind fun _ ↦ ?_
  refine Preserves.bind (Preserves.change fun _ hw ↦
    ⟨hw.called, hw.gProfileParams, hw.gIter⟩) fun _ ↦ ?_
  exact (profiled_loopRounds _ _ n _ _).bind fun _ ↦ profiled_lib_bind fun _ ↦
    profiled_lib_bind fun _ ↦ Preserves.pure _

/-- A program with this profile calls a library and keeps the profile. -/
theorem profiled_main {cmd : List CmdOpt} (hcmd : cmdLineProcess cmd [] = .ok (rcStatusOk, params))
    (hne : params ≠ []) (n : ℕ) (stack : StackRecord) (env : σ) (libs : τ) :
    Profiled params (worldOf (EStateM.run (main E L n cmd stack) (load env libs))) := by
  have hrest : ∀ r : LibResp, Preserves (Profiled params)
      (if saiStatusSuccess ≠ r.rc then pure exitFailure
        else do
          let r ← lib L (.saiLogSet .switch .info)
          if saiStatusSuccess ≠ r.rc then return exitFailure else serveDriver E L n stack :
            ProgM σ τ Int32) := fun r ↦
    Preserves.ite (Preserves.pure _) (profiled_lib_bind fun _ ↦
      Preserves.ite (Preserves.pure _) (profiled_serveDriver n stack))
  rw [main, hcmd]
  dsimp only
  rw [if_neg fun h ↦ h rfl, if_neg hne, run_modState_bind]
  exact hrest _ _ (profiled_asked rfl rfl)

variable (E L)

/-- **The profile of the program.** It calls a library exactly if every option is accepted and the
last profile is not empty, and as long as it runs the services look at that profile: the enumeration
began at its head, and `g_iter` is the place in it where the calls so far have taken it. -/
theorem main_profile (n : ℕ) (cmd : List CmdOpt) (stack : StackRecord) (env : σ) (libs : τ) :
    let w := worldOf (EStateM.run (main E L n cmd stack) (load env libs))
    (w.trace ≠ [] ↔ (∀ o ∈ cmd, o.Accepted) ∧ (profileOf cmd).getD [] ≠ []) ∧
      (w.trace ≠ [] → w.state.gProfileParams = (profileOf cmd).getD [] ∧
        w.state.gIter = iterAfter ((profileOf cmd).getD []) ((profileOf cmd).getD [])
          (servicesCalled w.trace) ∧
        w.state.gIter <:+ (profileOf cmd).getD []) := by
  intro w
  by_cases hgood : (∀ o ∈ cmd, o.Accepted) ∧ (profileOf cmd).getD [] ≠ []
  · obtain ⟨htrace, hprofile, hiter⟩ : Profiled ((profileOf cmd).getD []) w :=
      profiled_main ((cmdLineProcess_eq_ok_iff cmd _ _).2 ⟨hgood.1, rfl⟩) hgood.2 n stack env libs
    refine ⟨iff_of_true htrace hgood, fun _ ↦ ⟨hprofile, hiter, ?_⟩⟩
    rw [hiter]
    exact iterAfter_suffix _ List.suffix_rfl
  · have htrace : w.trace = [] := by
      show (worldOf (EStateM.run (main E L n cmd stack) (load env libs))).trace = []
      rw [main]
      rcases hcmd : cmdLineProcess cmd [] with e | ⟨status, params⟩
      · rfl
      dsimp only
      by_cases hstatus : rcStatusOk ≠ status
      · rw [if_pos hstatus]
        rfl
      obtain rfl := not_ne_iff.1 hstatus
      obtain ⟨haccepted, hparams⟩ := (cmdLineProcess_eq_ok_iff cmd _ _).1 hcmd
      have hnil : params = [] := by
        by_contra hne
        exact hgood ⟨haccepted, hparams ▸ hne⟩
      rw [if_neg hstatus, if_pos hnil]
      rfl
    exact ⟨iff_of_false (fun h ↦ h htrace) hgood, fun h ↦ absurd htrace h⟩

end Program

end SaiAgent
