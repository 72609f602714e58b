import SaiAgent.Library.Books
import SaiAgent.Model.Program

/-!
# What the program allocates

The program holds a netlink socket, callback sets, messages, and the two buffers of the loop. It has
six ways out of `saiagent_ipc_init` and as many out of `main`, and it may crash or wait at any point
in between. Whatever the libraries answer, it never looks behind a pointer it has given back, never
gives one back twice, and holds nothing once `main` has returned (`main_gives_back`).
-/

namespace SaiAgent.Program

open Effects Effects.Proc

variable {σ τ α : Type} {E : SaiBackend σ} {L : LibBackend τ}

/-- An allocator returns a pointer, or null. -/
def acquiring : Option Handle → Dealing Handle
  | some h => .acquires h
  | none => .uses []

/-- What a library call means for the handles. -/
def dealing : LibCall × LibResp → Dealing Handle
  | (.nlSocketAlloc, r) | (.nlCbAlloc, r) | (.nlmsgAlloc, r) | (.malloc, r) => acquiring r.ptr
  | (.nlSocketFree (some h), _) | (.nlCbPut h, _) | (.nlmsgFree h, _) | (.free (some h), _) =>
    .releases h
  | (.genlConnect h, _) | (.genlCtrlResolve h _, _) | (.nlSocketSetBufferSize h _ _, _)
  | (.genlCtrlResolveGrp h _ _, _) | (.nlSocketAddMembership h _, _)
  | (.nlSocketDisableAutoAck h, _) | (.nlCbSet h, _) | (.genlmsgPut h _ _ _ _, _)
  | (.nlaMemcpy h, _) | (.access h, _) => .uses [h]
  | (.nlaPut h src _, _) => .uses (h :: src.toList)
  | (.nlRecvmsgs h h', _) | (.nlSendAuto h h', _) => .uses [h, h']
  | (.saiApiInitialize, _) | (.saiLogSet _ _, _) | (.saiApiUninit, _) | (.sleep _, _)
  | (.nlSocketFree none, _) | (.free none, _) => .uses []

/-- `ctx.nl.sock`, and what is held. -/
def Holds (sock : Option Handle) (held : Multiset Handle)
    (w : OracleWorld (Statics σ) LibCall LibResp τ) : Prop :=
  w.state.sock = sock ∧ books dealing w.trace = some held

/-- Nothing was used or released that was not held. -/
def Open (_ : Stop) (w : OracleWorld (Statics σ) LibCall LibResp τ) : Prop :=
  (books dealing w.trace).isSome

/-- A pointer with what else is held. -/
def withPtr : Option Handle → Multiset Handle → Multiset Handle
  | some h, held => h ::ₘ held
  | none, held => held

variable {sock : Option Handle} {s h : Handle} {held : Multiset Handle} {c : LibCall}

theorem Holds.isOpen {w : OracleWorld (Statics σ) LibCall LibResp τ} (hw : Holds sock held w)
    (e : Stop) : Open e w :=
  Option.isSome_iff_exists.2 ⟨held, hw.2⟩

/-! ### Library calls -/

/-- What a library call does to the books. -/
theorem ends_lib {held' : LibResp → Multiset Handle} (h : ∀ t r, books dealing t = some held →
      books dealing (t ++ [(c, r)]) = some (held' r)) :
    Ends (Holds sock held) (lib L c : ProgM σ τ LibResp) (fun r ↦ Holds sock (held' r)) Open :=
  Ends.bind (M := fun r ↦ Holds sock (held' r)) (Ends.ask fun _ hw ↦ ⟨hw.1, h _ _ hw.2⟩) fun _ ↦
    Ends.bind (M := fun _ ↦ Holds sock (held' _)) (Ends.change fun _ hw ↦ hw) fun _ ↦
      Ends.pure fun _ hw ↦ hw

theorem ends_use {hs : List Handle} (hc : ∀ r, dealing (c, r) = .uses hs)
    (hmem : ∀ h ∈ hs, h ∈ held) :
    Ends (Holds sock held) (lib L c : ProgM σ τ LibResp) (fun _ ↦ Holds sock held) Open :=
  ends_lib fun _ _ ht ↦ books_uses ht (hc _) hmem

/-- A call that uses one pointer. -/
theorem ends_use_ptr (hc : ∀ r, dealing (c, r) = .uses [h]) (hmem : h ∈ held) :
    Ends (Holds sock held) (lib L c : ProgM σ τ LibResp) (fun _ ↦ Holds sock held) Open :=
  ends_use hc fun _ hh ↦ List.mem_singleton.1 hh ▸ hmem

theorem ends_release (hc : ∀ r, dealing (c, r) = .releases h) :
    Ends (Holds sock (h ::ₘ held)) (lib L c : ProgM σ τ LibResp) (fun _ ↦ Holds sock held) Open :=
  ends_lib fun _ _ ht ↦ books_releases ht (hc _)

theorem ends_alloc (hc : ∀ r, dealing (c, r) = acquiring r.ptr) :
    Ends (Holds sock held) (lib L c : ProgM σ τ LibResp)
      (fun r ↦ Holds sock (withPtr r.ptr held)) Open := by
  refine ends_lib fun t r ht ↦ ?_
  have hdeal := hc r
  rcases hptr : r.ptr with _ | h
  · rw [hptr] at hdeal
    exact books_uses ht hdeal fun _ h ↦ absurd h List.not_mem_nil
  · rw [hptr] at hdeal
    exact books_acquires ht hdeal

/-- What gives a pointer back, and takes a null pointer, too. -/
theorem ends_free {call : Option Handle → LibCall} (hnone : ∀ r, dealing (call none, r) = .uses [])
    (hsome : ∀ h r, dealing (call (some h), r) = .releases h) (ptr : Option Handle) :
    Ends (Holds sock (withPtr ptr held)) (lib L (call ptr) : ProgM σ τ LibResp)
      (fun _ ↦ Holds sock held) Open := by
  rcases ptr with _ | h
  · exact ends_use hnone fun _ hh ↦ absurd hh List.not_mem_nil
  · exact ends_release (hsome h)

theorem ends_deref {P : OracleWorld (Statics σ) LibCall LibResp τ → Prop}
    (hP : ∀ w e, P w → Open e w) (ptr : Option Handle) :
    Ends P (deref ptr : ProgM σ τ Handle) (fun h w ↦ ptr = some h ∧ P w) Open := by
  cases ptr with
  | some h => exact Ends.pure fun _ hw ↦ ⟨rfl, hw⟩
  | none => exact Ends.fault fun w hw ↦ hP w _ hw

theorem ends_ctxSock : Ends (Holds sock held) (ctxSock : ProgM σ τ Handle)
    (fun s w ↦ sock = some s ∧ Holds sock held w) Open :=
  Ends.bind (M := fun ptr w ↦ ptr = sock ∧ Holds sock held w) (Ends.read fun _ hw ↦ ⟨hw.1, hw⟩)
    fun ptr ↦ (ends_deref (fun _ e (hw : ptr = sock ∧ Holds sock held _) ↦ hw.2.isOpen e) ptr).mono
      (fun _ hw ↦ hw) (fun _ _ hs ↦ ⟨hs.2.1.symm.trans hs.1, hs.2.2⟩) fun _ _ hw ↦ hw

/-- What the agent does in between deals in no handle of the libraries. -/
theorem ends_onAgent {p : AgentM σ α} :
    Ends (Holds sock held) (onAgent p : ProgM σ τ α) (fun _ ↦ Holds sock held) Open := by
  intro w hw
  rcases hr : EStateM.run p w.state.agent with ⟨a, agent⟩ | ⟨f, agent⟩
  · rw [run_onAgent_of_ok hr]
    exact hw
  · rw [run_onAgent_of_error hr]
    exact hw.isOpen (.crashed f)

/-! ### The socket -/

theorem ends_awaitFamily (hs : s ∈ held) (n : ℕ) : Ends (Holds sock held)
    (awaitFamily L s n : ProgM σ τ Int32) (fun _ ↦ Holds sock held) Open := by
  induction n with
  | zero => exact Ends.fault fun _ hw ↦ hw.isOpen _
  | succ n ih =>
    refine Ends.bind (ends_use_ptr (fun _ ↦ rfl) hs) fun r ↦ Ends.ite (fun _ ↦ ?_) fun _ ↦
      Ends.pure fun _ hw ↦ hw
    exact Ends.bind (ends_use (fun _ ↦ rfl) fun _ hh ↦ absurd hh List.not_mem_nil) fun _ ↦ ih

/-- The socket is `ctx.nl.sock` exactly if `saiagent_ipc_init` succeeded, and held then. -/
def InitDone (rc : Rc) (w : OracleWorld (Statics σ) LibCall LibResp τ) : Prop :=
  ∃ sock : Option Handle, (sock.isSome ↔ rc = rcStatusOk) ∧ Holds sock (withPtr sock 0) w

theorem ends_errInit (s : Handle) : Ends (Holds none (s ::ₘ 0)) (errInit L s : ProgM σ τ Rc)
    InitDone Open :=
  Ends.bind (ends_release fun _ ↦ rfl) fun _ ↦ Ends.pure fun _ hw ↦
    ⟨none, ⟨(by cases ·), fun h ↦ absurd h (by decide)⟩, hw⟩

theorem ends_saiagentIpcInit (n : ℕ) : Ends (Holds none 0) (saiagentIpcInit L n : ProgM σ τ Rc)
    InitDone Open := by
  refine Ends.bind (ends_alloc fun _ ↦ rfl) fun r ↦ ?_
  rcases r.ptr with _ | s
  · exact Ends.pure fun w hw ↦ ⟨none, ⟨(by cases ·), fun h ↦ absurd h (by decide)⟩, hw⟩
  have hs : s ∈ s ::ₘ (0 : Multiset Handle) := Multiset.mem_cons_self s 0
  have herr := @ends_errInit σ τ L s
  refine Ends.bind (ends_use_ptr (fun _ ↦ rfl) hs) fun r ↦ Ends.ite (fun _ ↦ herr) fun _ ↦ ?_
  refine Ends.bind (ends_awaitFamily hs n) fun family ↦ ?_
  refine Ends.bind (ends_use_ptr (fun _ ↦ rfl) hs) fun r ↦ Ends.ite (fun _ ↦ herr) fun _ ↦ ?_
  refine Ends.bind (ends_use_ptr (fun _ ↦ rfl) hs) fun r ↦ Ends.ite (fun _ ↦ herr) fun _ ↦ ?_
  refine Ends.bind (ends_use_ptr (fun _ ↦ rfl) hs) fun r' ↦ Ends.ite (fun _ ↦ herr) fun _ ↦ ?_
  refine Ends.bind (ends_use_ptr (fun _ ↦ rfl) hs) fun _ ↦ ?_
  refine Ends.bind (M := fun _ ↦ Holds (some s) (s ::ₘ 0)) (Ends.change fun _ hw ↦ ⟨rfl, hw.2⟩)
    fun _ ↦ Ends.pure fun _ hw ↦ ?_
  exact ⟨some s, ⟨fun _ ↦ rfl, fun _ ↦ rfl⟩, hw⟩

/-! ### Sending and receiving -/

theorem ends_errSend : Ends (Holds sock (h ::ₘ held)) (errSend L h : ProgM σ τ Rc)
    (fun _ ↦ Holds sock held) Open :=
  Ends.bind (ends_release fun _ ↦ rfl) fun _ ↦ Ends.pure fun _ hw ↦ hw

theorem ends_sendAuto (hsock : ∀ s, sock = some s → s ∈ held) :
    Ends (Holds sock (h ::ₘ held)) (sendAuto L h : ProgM σ τ Rc) (fun _ ↦ Holds sock held)
      Open := by
  refine Ends.bind ends_ctxSock fun s ↦ Ends.of_forall fun w₀ hw₀ ↦ ?_
  have hmem : ∀ h' ∈ [s, h], h' ∈ h ::ₘ held := by
    intro h' hh'
    rcases List.mem_cons.1 hh' with rfl | hh'
    · exact Multiset.mem_cons_of_mem (hsock _ hw₀.1)
    · rw [List.mem_singleton.1 hh']
      exact Multiset.mem_cons_self h held
  refine Ends.bind ((ends_use (fun _ ↦ rfl) hmem).known hw₀.2) fun r ↦ ?_
  refine Ends.bind (ends_release fun _ ↦ rfl) fun _ ↦ ?_
  exact Ends.ite (fun _ ↦ Ends.pure fun _ hw ↦ hw) fun _ ↦ Ends.pure fun _ hw ↦ hw

theorem ends_saiagentIpcSend (hsock : ∀ s, sock = some s → s ∈ held) {src : Option Handle}
    (hsrc : ∀ h ∈ src, h ∈ held) (msg : Option (List UInt8)) (msgSize : UInt64)
    (type : SaiagentNlType) (pid seq : UInt32) : Ends (Holds sock held)
      (saiagentIpcSend L src msg msgSize type pid seq : ProgM σ τ Rc) (fun _ ↦ Holds sock held)
        Open := by
  refine Ends.bind (ends_alloc fun _ ↦ rfl) fun r ↦ ?_
  rcases r.ptr with _ | m
  · exact Ends.pure fun _ hw ↦ hw
  have hm : m ∈ m ::ₘ held := Multiset.mem_cons_self m held
  refine Ends.bind (M := fun _ ↦ Holds sock (m ::ₘ held)) (Ends.read fun _ hw ↦ hw) fun family ↦ ?_
  refine Ends.bind (ends_use_ptr (fun _ ↦ rfl) hm) fun hdr ↦
    Ends.ite (fun _ ↦ ends_errSend) fun _ ↦ ?_
  rcases (if msgSize > 0 then msg.map (List.take msgSize.toNat) else none) with _ | data
  · exact ends_sendAuto hsock
  · have huses : ∀ h ∈ m :: src.toList, h ∈ m ::ₘ held := by
      intro h hh
      rcases List.mem_cons.1 hh with rfl | hh
      · exact hm
      · exact Multiset.mem_cons_of_mem (hsrc h (Option.mem_toList.1 hh))
    exact Ends.bind (ends_use (fun _ ↦ rfl) huses) fun r ↦
      Ends.ite (fun _ ↦ ends_errSend) fun _ ↦ ends_sendAuto hsock

theorem ends_recvmsgs (hsock : ∀ s, sock = some s → s ∈ held) (cb : Option Handle)
    {callback : List NlPacket → ProgM σ τ Unit} (hcallback : ∀ c batch,
      Ends (Holds sock (c ::ₘ held)) (callback batch) (fun _ ↦ Holds sock (c ::ₘ held)) Open) :
    Ends (Holds sock (withPtr cb held)) (recvmsgs L cb callback : ProgM σ τ LibResp)
      (fun _ ↦ Holds sock held) Open := by
  refine Ends.bind (ends_deref (fun _ _ hw ↦ hw.isOpen _) cb) fun c ↦
    Ends.of_forall fun w₀ hw₀ ↦ ?_
  obtain ⟨rfl, hw₀⟩ := hw₀
  have hc : c ∈ c ::ₘ held := Multiset.mem_cons_self c held
  refine Ends.bind ((ends_use_ptr (fun _ ↦ rfl) hc).known hw₀) fun _ ↦ ?_
  refine Ends.bind ends_ctxSock fun s ↦ Ends.of_forall fun w₁ hw₁ ↦ ?_
  have hmem : ∀ h' ∈ [s, c], h' ∈ c ::ₘ held := by
    intro h' hh'
    rcases List.mem_cons.1 hh' with rfl | hh'
    · exact Multiset.mem_cons_of_mem (hsock _ hw₁.1)
    · rw [List.mem_singleton.1 hh']
      exact hc
  refine Ends.bind ((ends_use (fun _ ↦ rfl) hmem).known hw₁.2) fun r ↦
    Ends.bind (hcallback c r.batch) fun _ ↦ ?_
  exact Ends.bind (ends_release fun _ ↦ rfl) fun _ ↦ Ends.pure fun _ hw ↦ hw

/-- Looking behind a pointer that is held, or crashing at null. -/
theorem ends_lookAt {ptr : Option Handle} (hptr : ∀ h ∈ ptr, h ∈ held) {f : Handle → LibCall}
    (hf : ∀ h r, dealing (f h, r) = .uses [h]) {k : ProgM σ τ α} {Q} (hk : Ends (Holds sock held) k
      Q Open) :
    Ends (Holds sock held) (do
      let h ← deref ptr
      let _ ← lib L (f h)
      k) Q Open := by
  refine Ends.bind (ends_deref (fun _ _ hw ↦ hw.isOpen _) ptr) fun h ↦
    Ends.of_forall fun w₀ hw₀ ↦ ?_
  exact Ends.bind ((ends_use_ptr (hf h) (hptr h hw₀.1)).known hw₀.2) fun _ ↦ hk

theorem ends_copyAll {inPtr : Option Handle} (hin : ∀ h ∈ inPtr, h ∈ held) (size : UInt64)
    (msgs : List NlPacket) : Ends (Holds sock held) (copyAll L inPtr size msgs : ProgM σ τ Unit)
      (fun _ ↦ Holds sock held) Open := by
  induction msgs with
  | nil => exact Ends.pure fun _ hw ↦ hw
  | cons msg msgs ih => exact Ends.ite (fun _ ↦ ih) fun _ ↦ ends_lookAt hin (fun _ _ ↦ rfl) ih

theorem ends_saiagentIpcRecv (hsock : ∀ s, sock = some s → s ∈ held) {inPtr : Option Handle}
    (hin : ∀ h ∈ inPtr, h ∈ held) (msg : SaiagentNlRecvMsg) :
    Ends (Holds sock held) (saiagentIpcRecv L inPtr msg : ProgM σ τ _) (fun _ ↦ Holds sock held)
      Open :=
  Ends.bind (ends_alloc fun _ ↦ rfl) fun r ↦ Ends.bind (ends_recvmsgs hsock r.ptr fun _ batch ↦
    ends_copyAll (fun h hh ↦ Multiset.mem_cons_of_mem (hin h hh)) msg.size batch) fun _ ↦
      Ends.pure fun _ hw ↦ hw

theorem ends_saiagentIpcDrvInit (hsock : ∀ s, sock = some s → s ∈ held) :
    Ends (Holds sock held) (saiagentIpcDrvInit L : ProgM σ τ Rc) (fun _ ↦ Holds sock held)
      Open := by
  refine Ends.bind (ends_alloc fun _ ↦ rfl) fun r ↦ ?_
  have hsock' : ∀ s, sock = some s → s ∈ withPtr r.ptr held := by
    intro s hs
    rcases r.ptr with _ | c
    · exact hsock s hs
    · exact Multiset.mem_cons_of_mem (hsock s hs)
  refine Ends.bind (ends_saiagentIpcSend hsock' (fun _ h ↦ by cases h) _ _ _ _ _) fun status ↦ ?_
  refine Ends.bind (ends_recvmsgs hsock r.ptr fun _ _ ↦ Ends.pure fun _ hw ↦ hw) fun r ↦ ?_
  exact Ends.ite (fun _ ↦ Ends.pure fun _ hw ↦ hw) fun _ ↦ Ends.pure fun _ hw ↦ hw

/-! ### The loop and `main` -/

/-- The two buffers, as `malloc` returned them, are held. -/
def Buffered (inPtr outPtr : Option Handle) (held : Multiset Handle) : Prop :=
  (∀ h ∈ inPtr, h ∈ held) ∧ ∀ h ∈ outPtr, h ∈ held

theorem mem_withPtr {ptr : Option Handle} : ∀ h ∈ ptr, h ∈ withPtr ptr held := by
  rintro h hh
  obtain rfl := Option.mem_def.1 hh
  exact Multiset.mem_cons_self h held

theorem mem_withPtr_of_mem (ptr : Option Handle) (hh : h ∈ held) : h ∈ withPtr ptr held := by
  cases ptr with
  | none => exact hh
  | some h' => exact Multiset.mem_cons_of_mem hh

theorem withPtr_comm (ptr ptr' : Option Handle) :
    withPtr ptr (withPtr ptr' held) = withPtr ptr' (withPtr ptr held) := by
  cases ptr with
  | none => rfl
  | some h =>
    cases ptr' with
    | none => rfl
    | some h' => exact Multiset.cons_swap h h' held

variable {inPtr outPtr : Option Handle}

theorem ends_readRequest (hin : ∀ h ∈ inPtr, h ∈ held) (payloadSize : UInt64) :
    Ends (Holds sock held) (readRequest L inPtr payloadSize : ProgM σ τ Unit)
      (fun _ ↦ Holds sock held) Open :=
  Ends.ite (fun _ ↦ ends_lookAt hin (fun _ _ ↦ rfl) (Ends.pure fun _ hw ↦ hw)) fun _ ↦
    Ends.pure fun _ hw ↦ hw

theorem ends_writeReply (hout : ∀ h ∈ outPtr, h ∈ held) :
    Ends (Holds sock held) (writeReply L outPtr : ProgM σ τ Unit) (fun _ ↦ Holds sock held)
      Open := by
  cases outPtr with
  | none => exact Ends.pure fun _ hw ↦ hw
  | some h =>
    exact Ends.bind (ends_use_ptr (fun _ ↦ rfl) (hout h rfl)) fun _ ↦ Ends.pure fun _ hw ↦ hw

theorem ends_loopRounds (hsock : ∀ s, sock = some s → s ∈ held) (hbuf : Buffered inPtr outPtr held)
    (n : ℕ) : ∀ inMsg outBuf, Ends (Holds sock held)
      (loopRounds E L inPtr outPtr n inMsg outBuf : ProgM σ τ Unit) (fun _ ↦ Holds sock held)
        Open := by
  induction n with
  | zero => exact fun _ _ ↦ Ends.fault fun _ hw ↦ hw.isOpen _
  | succ n ih =>
    intro inMsg outBuf
    refine Ends.bind (M := fun _ ↦ Holds sock held) (Ends.read fun _ hw ↦ hw) fun running ↦
      Ends.ite (fun _ ↦ Ends.pure fun _ hw ↦ hw) fun _ ↦ ?_
    refine Ends.bind (ends_saiagentIpcRecv hsock hbuf.1 inMsg) fun res ↦
      Ends.ite (fun _ ↦ ih _ _) fun _ ↦ ?_
    refine Ends.bind (ends_readRequest hbuf.1 _) fun _ ↦ Ends.bind ends_onAgent fun reply ↦ ?_
    exact Ends.bind (ends_writeReply hbuf.2) fun _ ↦
      Ends.bind (ends_saiagentIpcSend hsock hbuf.2 _ _ _ _ _) fun _ ↦ ih _ _

theorem ends_saiagentIpcEnterLoop (hsock : ∀ s, sock = some s → s ∈ held) (n : ℕ)
    (stack : StackRecord) : Ends (Holds sock held)
      (saiagentIpcEnterLoop E L n stack : ProgM σ τ Rc) (fun _ ↦ Holds sock held) Open := by
  refine Ends.bind (ends_alloc fun _ ↦ rfl) fun inMem ↦
    Ends.bind (ends_alloc fun _ ↦ rfl) fun outMem ↦ ?_
  have hsock' : ∀ s, sock = some s → s ∈ withPtr outMem.ptr (withPtr inMem.ptr held) :=
    fun s hs ↦ mem_withPtr_of_mem _ (mem_withPtr_of_mem _ (hsock s hs))
  have hbuf : Buffered inMem.ptr outMem.ptr (withPtr outMem.ptr (withPtr inMem.ptr held)) :=
    ⟨fun h hh ↦ mem_withPtr_of_mem _ (mem_withPtr h hh), mem_withPtr⟩
  -- The buffers are freed in the order they were allocated.
  rw [withPtr_comm] at hsock' hbuf ⊢
  refine Ends.bind (M := fun _ ↦ Holds sock (withPtr inMem.ptr (withPtr outMem.ptr held)))
    (Ends.read fun _ hw ↦ hw) fun start ↦ ?_
  refine Ends.bind (M := fun _ ↦ Holds sock (withPtr inMem.ptr (withPtr outMem.ptr held)))
    (Ends.change fun _ hw ↦ hw) fun _ ↦ ?_
  refine Ends.bind (ends_loopRounds hsock' hbuf n _ _) fun _ ↦ ?_
  exact Ends.bind (ends_free (fun _ ↦ rfl) (fun _ _ ↦ rfl) inMem.ptr) fun _ ↦
    Ends.bind (ends_free (fun _ ↦ rfl) (fun _ _ ↦ rfl) outMem.ptr) fun _ ↦
      Ends.pure fun _ hw ↦ hw

theorem ends_errIpcInit : Ends (Holds sock (withPtr sock 0)) (errIpcInit L : ProgM σ τ Int32)
    (fun _ ↦ Holds sock 0) Open := by
  refine Ends.bind (M := fun _ ↦ Holds sock 0) (Ends.bind
    (M := fun ptr w ↦ ptr = sock ∧ Holds sock (withPtr sock 0) w) (Ends.read fun _ hw ↦ ⟨hw.1, hw⟩)
      fun ptr ↦ Ends.of_forall ?_) fun _ ↦ Ends.pure fun _ hw ↦ hw
  rintro w₀ ⟨rfl, hw₀⟩
  exact Ends.bind (M := fun _ ↦ Holds ptr 0)
    ((ends_free (fun _ ↦ rfl) (fun _ _ ↦ rfl) ptr).known hw₀) fun _ ↦ Ends.pure fun _ hw ↦ hw

theorem ends_serveDriver (n : ℕ) (stack : StackRecord) : Ends (Holds none 0)
    (serveDriver E L n stack : ProgM σ τ Int32) (fun _ w ↦ ∃ sock, Holds sock 0 w) Open := by
  refine Ends.bind (ends_saiagentIpcInit n) fun status ↦ Ends.of_forall ?_
  rintro w₀ ⟨sock, hsock, hw₀⟩
  have hheld : ∀ s, sock = some s → s ∈ withPtr sock 0 := by
    rintro s rfl
    exact Multiset.mem_cons_self s 0
  have herr : Ends (Holds sock (withPtr sock 0)) (errIpcInit L : ProgM σ τ Int32)
      (fun _ w ↦ ∃ sock, Holds sock 0 w) Open :=
    ends_errIpcInit.mono (fun _ hw ↦ hw) (fun _ _ hw ↦ ⟨sock, hw⟩) fun _ _ hw ↦ hw
  refine Ends.known (P := Holds sock (withPtr sock 0)) (Ends.ite (fun _ ↦ herr) fun _ ↦ ?_) hw₀
  refine Ends.bind ends_onAgent fun status ↦ Ends.ite (fun _ ↦ herr) fun _ ↦ ?_
  refine Ends.bind (ends_saiagentIpcDrvInit hheld) fun status ↦ Ends.ite (fun _ ↦ herr) fun _ ↦ ?_
  refine Ends.bind (ends_saiagentIpcEnterLoop hheld n stack) fun _ ↦ ?_
  exact Ends.bind (ends_use (fun _ ↦ rfl) fun _ hh ↦ absurd hh List.not_mem_nil) fun _ ↦ herr

theorem ends_main (n : ℕ) (cmd : List CmdOpt) (stack : StackRecord) : Ends (Holds none 0)
    (main E L n cmd stack : ProgM σ τ Int32) (fun _ w ↦ ∃ sock, Holds sock 0 w) Open := by
  have hexit : Ends (Holds none 0) (pure exitFailure : ProgM σ τ Int32)
      (fun _ w ↦ ∃ sock, Holds sock 0 w) Open := Ends.pure fun _ hw ↦ ⟨none, hw⟩
  rw [main]
  rcases cmdLineProcess cmd [] with e | ⟨status, params⟩
  · exact Ends.fault fun _ hw ↦ hw.isOpen _
  refine Ends.ite (fun _ ↦ hexit) fun _ ↦ Ends.ite (fun _ ↦ hexit) fun _ ↦ ?_
  refine Ends.bind (M := fun _ ↦ Holds none 0) (Ends.change fun _ hw ↦ hw) fun _ ↦ ?_
  refine Ends.bind (ends_use (fun _ ↦ rfl) fun _ hh ↦ absurd hh List.not_mem_nil) fun r ↦
    Ends.ite (fun _ ↦ hexit) fun _ ↦ ?_
  exact Ends.bind (ends_use (fun _ ↦ rfl) fun _ hh ↦ absurd hh List.not_mem_nil) fun r ↦
    Ends.ite (fun _ ↦ hexit) fun _ ↦ ends_serveDriver n stack

/-- **The program gives back what it allocates.** However far it runs, whatever the libraries
answer, every socket, callback set, message and buffer that it or a library looks behind or that it
gives back is one it was given and still has; and where `main` returns, each was given back as often
as it was given. -/
theorem main_gives_back (E : SaiBackend σ) (L : LibBackend τ) (n : ℕ) (cmd : List CmdOpt)
    (stack : StackRecord) (env : σ) (libs : τ) :
    InOrder dealing (worldOf (EStateM.run (main E L n cmd stack) (load env libs))).trace ∧
      ∀ status w', EStateM.run (main E L n cmd stack) (load env libs) = .ok status w' →
        ∀ h, acquired dealing h w'.trace = released dealing h w'.trace := by
  have hends := @ends_main σ τ E L n cmd stack (load env libs) ⟨rfl, rfl⟩
  rcases hr : EStateM.run (main E L n cmd stack) (load env libs) with ⟨status, w'⟩ | ⟨e, w'⟩
  · rw [hr] at hends
    obtain ⟨sock, hholds⟩ := hends
    refine ⟨inOrder_of_books (hholds.isOpen .running), ?_⟩
    intro status' w'' h h'
    cases h
    rw [count_books h' hholds.2, Multiset.count_zero, Nat.add_zero]
  · rw [hr] at hends
    refine ⟨inOrder_of_books hends, ?_⟩
    intro status' w'' h
    cases h

end SaiAgent.Program
