import SaiAgent.Properties.Frames

/-!
# What reaches a handler

Three facts every statement about requests rests on:

* `run_processReq`: `saiagent_ipc_process_req` is one of three things — the refusal of a request
  without a command word, the refusal of a command nobody registered, or the registered handler;
* `ReachableTable`: dispatch tables the agent can have. Every registration puts a handler under
  its own command number, so an entry determines its handler (`ReachableTable.cmdType_eq`);
* `preserves_reachableTable`: handling a request leads from reachable tables to reachable tables.
-/

namespace SaiAgent

open Effects Effects.Proc Effects.Bytes

variable {σ : Type} {E : SaiBackend σ} {rt : Runtime}

/-! ### Dispatch -/

/-- The command word of a request. -/
def cmdOf (buf : List UInt8) : ℕ := (readLe32 buf 0).toNat

/-- The table entry a request selects: it must have a command word, in range and registered. -/
def selected (table : ℕ → Option Handler) (buf : List UInt8) (size : UInt64) : Option Handler :=
  if 4 ≤ size then
    if cmdOf buf < PresteraCmdType.max then table (cmdOf buf) else none
  else
    none

/-- A request that selects a handler holds a command. -/
theorem four_le_of_selected {table : ℕ → Option Handler} {buf : List UInt8} {size : UInt64}
    {handler : Handler} (h : selected table buf size = some handler) : 4 ≤ size := by
  by_contra hsize
  rw [selected, if_neg hsize] at h
  cases h

/-- A request shorter than a command word is not read. -/
theorem saiagentMsgTypeGet_of_short {buf dst : List UInt8} {size : UInt64} (h : ¬4 ≤ size) :
    saiagentMsgTypeGet (requestMsg buf size) dst = .ok (rcStatusErr, requestMsg buf size, dst) := by
  have hpad : saiagentMsgPadsize 4 = 4 := by decide
  have hlt : size < 4 := UInt64.not_le.1 h
  simp only [saiagentMsgTypeGet, saiagentMsgGetData, requestMsg, hpad, Option.getD_none,
    UInt64.zero_add, hlt, if_true, ite_self]

/-- Reading the command word of a request leaves the message with its cursor behind it. -/
theorem saiagentMsgTypeGet_requestMsg {buf : List UInt8} (hbuf : 4 ≤ buf.length) (size : UInt64)
    (dst : List UInt8) (hdst : dst.length = 4) :
    saiagentMsgTypeGet (requestMsg buf size) dst =
      if 4 ≤ size then
        .ok (0, { requestMsg buf size with tail := some 4 }, buf.take 4)
      else .ok (rcStatusErr, requestMsg buf size, dst) := by
  have hpad : saiagentMsgPadsize 4 = 4 := by decide
  have hcopy : saiagentBufCopy32 dst buf 4 = .ok (buf.take 4) := by
    have h := saiagentBufCopy32_words 1 dst buf (by decide) (by omega) (by omega)
    rw [List.drop_of_length_le (by omega), List.append_nil] at h
    exact h
  by_cases hsize : 4 ≤ size
  · have hne : ¬size = 0 := by
      rintro rfl
      exact absurd hsize (by decide)
    have hlt : ¬size < 4 := by
      rw [UInt64.not_lt]
      exact hsize
    simp only [saiagentMsgTypeGet, saiagentMsgGetData, requestMsg, hpad, hne, if_false, hsize,
      if_true, Option.getD_none, UInt64.zero_add, hlt, UInt64.reduceToNat, List.drop_zero, hcopy]
  · rw [if_neg hsize]
    exact saiagentMsgTypeGet_of_short hsize

/-- The reply message a request starts with. -/
def freshReply (out : List UInt8) : SaiagentMsg :=
  ⟨some out, UInt64.ofNat saiagentMsgMaxSize, 0, none⟩

theorem isReply_freshReply {out : List UInt8} (h : out.length = saiagentMsgMaxSize) :
    IsReply (freshReply out) :=
  ⟨⟨out, rfl, h⟩, rfl, Nat.zero_le _⟩

/-- A request at the start of a receive buffer that is zero behind it. -/
def bufferOf (request : List UInt8) : List UInt8 :=
  request ++ List.replicate (saiagentMsgMaxSize - request.length) 0

/-- The reply buffer before anything was put into it. -/
def zeroBuffer : List UInt8 := bufferOf []

theorem length_bufferOf {request : List UInt8} (h : request.length ≤ saiagentMsgMaxSize) :
    (bufferOf request).length = saiagentMsgMaxSize := by
  rw [bufferOf, List.length_append, List.length_replicate]
  omega

theorem length_zeroBuffer : zeroBuffer.length = saiagentMsgMaxSize :=
  length_bufferOf (Nat.zero_le _)

/-- The request message a handler is given. -/
def handedRequest (buf : List UInt8) (size : UInt64) : SaiagentMsg :=
  { requestMsg buf size with tail := some 4 }

/-- **Dispatch.** -/
theorem run_processReq {buf : List UInt8} (hbuf : 4 ≤ buf.length) (size : UInt64)
    (out : List UInt8) (w : World σ) :
    EStateM.run (saiagentIpcProcessReq E rt buf size (some out)
        (UInt64.ofNat saiagentMsgMaxSize)) w =
      match selected w.state.ipcCbList buf size with
      | some handler =>
        EStateM.run (handler.run E rt (handedRequest buf size) (freshReply out)) w
      | none =>
        EStateM.run (lift (saiagentIpcPutReplyAck (freshReply out)
          (if 4 ≤ size then rcStatusNotSupp else rcStatusErr))) w := by
  have hcmd : (readLe32 (buf.take 4) 0).toNat = cmdOf buf :=
    congrArg UInt32.toNat
      (AgreeBelow.readLe32 (AgreeBelow.of_take_eq (n := 4) (by rw [List.take_take]; rfl))
        (Nat.le_refl 4))
  rw [saiagentIpcProcessReq, saiagentMsgTypeGet_requestMsg hbuf size _ rfl]
  by_cases hsize : 4 ≤ size
  · have hok : ¬rcStatusOk ≠ (0 : Rc) := by decide
    simp only [if_pos hsize, EStateM.run_bind, run_lift_ok, if_neg hok,
      run_getState, hcmd, selected]
    cases (if cmdOf buf < PresteraCmdType.max then w.state.ipcCbList (cmdOf buf) else none) with
    | some handler => rfl
    | none => rfl
  · have hne : rcStatusOk ≠ rcStatusErr := by decide
    simp only [if_neg hsize, EStateM.run_bind, run_lift_ok, if_pos hne, selected]
    rfl

/-- A request shorter than a command word changes nothing. -/
theorem keeps_processReq_of_short {γ : Type} {f : World σ → γ} {buf : List UInt8} {size : UInt64}
    (h : ¬4 ≤ size) (out : Option (List UInt8)) (outSize : UInt64) :
    Keeps f (saiagentIpcProcessReq E rt buf size out outSize) := by
  intro w
  have hne : rcStatusOk ≠ rcStatusErr := by decide
  rw [saiagentIpcProcessReq, saiagentMsgTypeGet_of_short h, EStateM.run_bind, run_lift_ok]
  simp only [if_pos hne]
  exact Keeps.lift _ w

/-- A request whose command has the handler registered is the handler's. -/
theorem selected_register {a : Agent} {buf : List UInt8} {size : UInt64} {handler : Handler}
    (hsize : 4 ≤ size) (hcmd : cmdOf buf = handler.cmdType) :
    selected (a.register handler.cmdType handler).ipcCbList buf size = some handler := by
  have hmax : handler.cmdType < PresteraCmdType.max := by cases handler <;> decide
  rw [selected, if_pos hsize, hcmd, if_pos hmax]
  exact Function.update_self ..

/-! ### Reachable tables -/

/-- The dispatch tables registrations can build, in any order and with any repetitions. -/
inductive ReachableTable : (ℕ → Option Handler) → Prop where
  /-- The static table starts empty. -/
  | empty : ReachableTable fun _ ↦ none
  /-- A handler goes under its own number. -/
  | register {table : ℕ → Option Handler} (h : ReachableTable table) (handler : Handler) :
    ReachableTable (Function.update table handler.cmdType (some handler))

/-- In a reachable table an entry's number is its handler's. -/
theorem ReachableTable.cmdType_eq {table : ℕ → Option Handler} (h : ReachableTable table) {c : ℕ}
    {handler : Handler} (hc : table c = some handler) : handler.cmdType = c := by
  induction h with
  | empty => cases hc
  | register h g ih =>
    by_cases hg : c = g.cmdType
    · subst hg
      rw [Function.update_self] at hc
      cases hc
      rfl
    · rw [Function.update_of_ne hg] at hc
      exact ih hc

/-- In a reachable table a request's command is its handler's. -/
theorem ReachableTable.cmdType_eq_of_selected {table : ℕ → Option Handler}
    (h : ReachableTable table) {buf : List UInt8} {size : UInt64} {handler : Handler}
    (hsel : selected table buf size = some handler) : handler.cmdType = cmdOf buf := by
  unfold selected at hsel
  split at hsel
  · split at hsel
    · exact h.cmdType_eq hsel
    · cases hsel
  · cases hsel

/-- A table with one handler. -/
theorem reachableTable_register_zero (handler : Handler) :
    ReachableTable (Agent.zero.register handler.cmdType handler).ipcCbList :=
  ReachableTable.register ReachableTable.empty handler

/-- The table of a world is reachable. -/
def HasReachableTable (w : World σ) : Prop := ReachableTable w.state.ipcCbList

theorem preserves_cbSet (handler : Handler) :
    Preserves HasReachableTable (saiagentIpcCbSet handler.cmdType handler : AgentM σ Rc) :=
  Preserves.ite (Preserves.pure _)
    (Preserves.bind (Preserves.change fun _ hw ↦ ReachableTable.register hw handler)
      fun _ ↦ Preserves.pure _)

/-- What never assigns the table preserves its reachability. -/
theorem preserves_of_keeps_table {α : Type} {p : AgentM σ α}
    (h : Keeps (fun w : World σ ↦ w.state.ipcCbList) p) : Preserves HasReachableTable p :=
  h.preserves ReachableTable

theorem preserves_saiagentSwitchInit : Preserves HasReachableTable (saiagentSwitchInit E rt) :=
  Preserves.bind
    (preserves_of_keeps_table (keeps_saiSwitchInit (fun _ _ ↦ rfl) (fun _ _ ↦ rfl) (fun _ _ ↦ rfl)
      (fun _ _ ↦ rfl) fun _ _ _ _ ↦ rfl))
    fun _ ↦ Preserves.ite (Preserves.pure _)
      (Preserves.bind (preserves_cbSet .switchReset) fun _ ↦
        Preserves.bind (preserves_cbSet .switchAttrSet) fun _ ↦
          Preserves.bind (preserves_cbSet .keepaliveInit) fun _ ↦ Preserves.pure _)

theorem preserves_saiagentPortInit :
    Preserves HasReachableTable (saiagentPortInit rt : AgentM σ Rc) :=
  Preserves.bind (preserves_cbSet .portInfoGet) fun _ ↦
    Preserves.bind (preserves_cbSet .portAttrSet) fun _ ↦
      Preserves.bind (preserves_cbSet .portAttrGet) fun _ ↦ Preserves.pure _

theorem preserves_saiagentFdbInit :
    Preserves HasReachableTable (saiagentFdbInit rt : AgentM σ Rc) :=
  Preserves.bind (preserves_cbSet .fdbFlushPort) fun _ ↦ Preserves.pure _

theorem preserves_saiagentVlanInit : Preserves HasReachableTable (saiagentVlanInit E rt) :=
  Preserves.bind (preserves_of_keeps_table (Keeps.ask fun _ ↦ rfl)) fun _ ↦
    Preserves.ite (Preserves.pure _)
      (Preserves.bind
        (preserves_of_keeps_table (keeps_saiVlanDefaultInit (fun _ _ _ ↦ rfl) fun _ _ ↦ rfl))
        fun _ ↦ Preserves.ite (Preserves.pure _)
          (Preserves.bind (preserves_cbSet .vlanCreate) fun _ ↦
            Preserves.bind (preserves_cbSet .vlanDelete) fun _ ↦
              Preserves.bind (preserves_cbSet .vlanPortSet) fun _ ↦
                Preserves.bind (preserves_cbSet .vlanPvidSet) fun _ ↦
                  Preserves.bind (preserves_cbSet .stpPortSet) fun _ ↦ Preserves.pure _))

theorem preserves_saiagentRouterInit :
    Preserves HasReachableTable (saiagentRouterInit rt : AgentM σ Rc) :=
  Preserves.bind (preserves_cbSet .routerMpHashSet) fun _ ↦
    Preserves.bind (preserves_cbSet .routerVrCreate) fun _ ↦
      Preserves.bind (preserves_cbSet .routerVrDel) fun _ ↦
        Preserves.bind (preserves_cbSet .routerLpmAdd) fun _ ↦
          Preserves.bind (preserves_cbSet .routerLpmDel) fun _ ↦ Preserves.pure _

/-- What no handler but `SWITCH_INIT` assigns is kept by all of them: the frame of a handler,
given the primitive steps the handlers take. -/
theorem keeps_handler {β : Type} {f : World σ → β} {handler : Handler} (h : Quiet E f)
    (hremove : handler = .switchReset → ∀ (w : World σ) o, f (w.asked E (.removeSwitch o)) = f w)
    (hv : handler = .vlanPortSet → Blind E f ∧ ∀ v, BlindTo (fun a ↦ a.pushVlan v) f)
    (ht : handler = .keepaliveInit ∨ handler = .switchReset →
      ∀ v : Agent → List ThreadSlot, BlindTo (fun a ↦ a.setThreads (v a)) f)
    (hk : handler = .keepaliveInit → ∀ v, BlindTo (fun a ↦ a.setKeepaliveCtx v) f)
    (hr : handler = .switchReset → BlindTo (fun a ↦ a.setRunning false) f)
    (hne : handler ≠ .switchInit) (request reply : SaiagentMsg) :
    Keeps f (handler.run E rt request reply) := by
  cases handler with
  | switchInit => exact absurd rfl hne
  | keepaliveInit =>
    refine Keeps.bind (keeps_saiagentThreadCreate (ht (Or.inl rfl)) _ _ _) fun ctx ↦ ?_
    cases ctx with
    | none => exact Keeps.lift _
    | some i => exact Keeps.bind (Keeps.modState (hk rfl _)) fun _ ↦ Keeps.lift _
  | switchReset =>
    refine Keeps.bind (Keeps.getState _) fun swInfo ↦ Keeps.ite ?_ (Keeps.lift _)
    refine Keeps.bind (keeps_saiagentThreadStop (ht (Or.inr rfl)) _) fun _ ↦
      Keeps.bind (h.ask rfl) fun _ ↦ ?_
    refine Keeps.ite (Keeps.fault _) (Keeps.bind (Keeps.ask fun w ↦ hremove rfl w _) fun _ ↦ ?_)
    exact Keeps.bind (keeps_saiagentThreadDestroy (ht (Or.inr rfl)) _) fun _ ↦
      Keeps.bind (Keeps.bind (Keeps.modState (hr rfl)) fun _ ↦ Keeps.pure _) fun _ ↦ Keeps.lift _
  | portAttrSet =>
    exact Keeps.ite (Keeps.bind (keeps_saiPortAdminStateSet h _ _) fun _ ↦
      Keeps.ite (Keeps.lift _) (Keeps.lift _)) (Keeps.lift _)
  | vlanPortSet =>
    exact Keeps.bind (keeps_saiVlanAddPortMember (hv rfl).1 (hv rfl).2 _ _ _) fun _ ↦
      Keeps.ite (Keeps.lift _) (Keeps.lift _)
  | vlanPvidSet =>
    exact Keeps.bind (Keeps.bind (keeps_saiPortPvidSet h _ _) fun _ ↦
      Keeps.ite (Keeps.pure _) (Keeps.pure _)) fun _ ↦ Keeps.lift _
  | switchAttrSet | portInfoGet | portAttrGet | vlanCreate | vlanDelete | stpPortSet
  | fdbFlushPort | routerMpHashSet | routerVrCreate | routerVrDel | routerLpmAdd
  | routerLpmDel => exact Keeps.lift _

/-- **Handling a request leads from reachable tables to reachable tables.** -/
theorem preserves_reachableTable (handler : Handler) (request reply : SaiagentMsg) :
    Preserves HasReachableTable (handler.run E rt request reply) := by
  by_cases hne : handler = .switchInit
  · subst hne
    refine Preserves.bind preserves_saiagentSwitchInit fun _ ↦ Preserves.ite
      (preserves_of_keeps_table (Keeps.lift _)) (Preserves.bind
        (preserves_of_keeps_table (Keeps.getState _)) fun _ ↦ ?_)
    exact Preserves.bind preserves_saiagentPortInit fun _ ↦
      Preserves.bind preserves_saiagentFdbInit fun _ ↦
        Preserves.bind preserves_saiagentVlanInit fun _ ↦
          Preserves.bind preserves_saiagentRouterInit fun _ ↦ Preserves.ite
            (preserves_of_keeps_table (Keeps.lift _)) (preserves_of_keeps_table (Keeps.lift _))
  · exact preserves_of_keeps_table (keeps_handler (fun _ _ _ ↦ rfl) (fun _ _ _ ↦ rfl)
      (fun _ ↦ ⟨fun _ _ _ ↦ rfl, fun _ _ ↦ rfl⟩) (fun _ _ _ ↦ rfl) (fun _ _ _ ↦ rfl) (fun _ _ ↦ rfl)
        hne request reply)

end SaiAgent
