import SaiAgent.Model.Sai
import SaiAgent.Model.HwCmd
import Mathlib.Logic.Function.Basic

/-!
# The agent's state, and how its functions run

The static variables of the agent's translation units as one record (`Agent`), what the C runtime
decides while a request is handled (`Runtime`), and the procedures its functions are (`AgentM`).

## `SAI_RET_ERR`

The macro of `saiagent_sai.h` mentions its argument twice, in the test and in the `return`,
so a call passed to it is made a second time when it fails and the status of the *second*
evaluation is returned (`saiRetErr`). Its argument reads and writes the locals of the function
around it; those it touches are threaded through both evaluations.
-/

namespace SaiAgent

open Effects Effects.Proc

/-! ### Static state -/

/-- The functions registered in the dispatch table, each under the name of the C handler. -/
inductive Handler where
  | switchInit
  | switchAttrSet
  | keepaliveInit
  | switchReset
  | portInfoGet
  | portAttrSet
  | portAttrGet
  | vlanCreate
  | vlanDelete
  | vlanPortSet
  | vlanPvidSet
  | stpPortSet
  | fdbFlushPort
  | routerMpHashSet
  | routerVrCreate
  | routerVrDel
  | routerLpmAdd
  | routerLpmDel
  deriving DecidableEq, Repr

/-- `saiagent_thread_type_t`. -/
inductive ThreadType where
  | normal
  | loop
  deriving DecidableEq, Repr

/-- The routines handed to `saiagent_thread_create`. -/
inductive Routine where
  | keepaliveRoutine
  deriving DecidableEq, Repr

/-- `struct saiagent_thread_ctx`, without the thread id `pthread_create` fills. -/
structure SaiagentThreadCtx where
  func : Routine
  running : Bool
  /-- Milliseconds. -/
  timeout : Int32
  type : ThreadType
  deriving DecidableEq, Repr

/-- A context `saiagent_thread_create` returned, at its place in the heap. -/
structure ThreadSlot where
  ctx : SaiagentThreadCtx
  /-- Its thread has been joined. -/
  joined : Bool
  /-- Its memory has been given back. -/
  freed : Bool
  deriving DecidableEq, Repr

/-- `struct saiagent_switch_info`. `keepaliveCtx` points into the thread heap. -/
structure SaiagentSwitchInfo where
  switchOid : Oid
  portList : OidArray
  brPortList : OidArray
  defaultDot1qBridgeOid : Oid
  defaultVlanOid : Oid
  keepaliveCtx : Option ℕ
  numPorts : UInt64

/-- `struct vlan_info`, without its list link. -/
structure VlanInfo where
  id : UInt16
  oid : Oid
  deriving DecidableEq, Repr

/-- The static variables of the agent. -/
structure Agent where
  /-- `sw_info`. -/
  swInfo : SaiagentSwitchInfo
  /-- `ctx.list` of `saiagent_vlan.c`, head first. -/
  vlanList : List VlanInfo
  /-- `ctx.ipc_cb_list`. -/
  ipcCbList : ℕ → Option Handler
  /-- `ctx.running`. -/
  running : Bool
  /-- The heap of thread contexts. -/
  threads : List ThreadSlot

namespace Agent

/-- The static variables before `main` runs: all zero. -/
def zero : Agent where
  swInfo :=
    { switchOid := 0
      portList := OidArray.replicate 0
      brPortList := OidArray.replicate 0
      defaultDot1qBridgeOid := 0
      defaultVlanOid := 0
      keepaliveCtx := none
      numPorts := 0 }
  vlanList := []
  ipcCbList := fun _ ↦ none
  running := false
  threads := []

def setSwitchOid (a : Agent) (v : Oid) : Agent := { a with swInfo.switchOid := v }

def setPortList (a : Agent) (v : OidArray) : Agent := { a with swInfo.portList := v }

def setBrPortList (a : Agent) (v : OidArray) : Agent := { a with swInfo.brPortList := v }

/-- The three assignments `sai_switch_init` makes from the switch attributes. -/
def setDefaults (a : Agent) (numPorts : UInt64) (bridge vlan : Oid) : Agent :=
  { a with
    swInfo.numPorts := numPorts
    swInfo.defaultDot1qBridgeOid := bridge
    swInfo.defaultVlanOid := vlan }

def setKeepaliveCtx (a : Agent) (v : Option ℕ) : Agent := { a with swInfo.keepaliveCtx := v }

def pushVlan (a : Agent) (v : VlanInfo) : Agent := { a with vlanList := v :: a.vlanList }

def register (a : Agent) (type : ℕ) (cb : Handler) : Agent :=
  { a with ipcCbList := Function.update a.ipcCbList type (some cb) }

def setRunning (a : Agent) (v : Bool) : Agent := { a with running := v }

def setThreads (a : Agent) (v : List ThreadSlot) : Agent := { a with threads := v }

end Agent

/-! ### What the C runtime decides during one request -/

/-- How `pthread_join` of a keepalive thread ends. -/
inductive PthreadJoin where
  /-- It returns 0. -/
  | joined
  /-- It returns an error. -/
  | failed
  /-- It never returns: `thread_loop` set `running` after its owner had cleared it for the last
  time. -/
  | blocked
  deriving DecidableEq, Repr

/-- The outcome of the library calls of one request that are not SAI calls, and the contents of the
locals that are read before they are assigned. -/
structure Runtime where
  /-- `malloc` of the hardware-info string in `sai_switch_init` returns memory. -/
  hwInfoMalloc : Bool
  /-- `calloc` in `saiagent_vlan_add_new` returns memory. -/
  vlanInfoCalloc : Bool
  /-- `pthread_attr_init` returns 0. -/
  pthreadAttrInit : Bool
  /-- `calloc` in `saiagent_thread_create` returns memory. -/
  threadCtxCalloc : Bool
  /-- `pthread_create` returns 0. -/
  pthreadCreate : Bool
  pthreadJoin : PthreadJoin
  /-- What `pthread_join` stores when it returns 0: `thread_loop` ends without a return value. -/
  threadResult : UInt64
  /-- `vlan_member_list` in `sai_vlan_add_port_member` before SAI fills it. -/
  vlanMemberList : OidArray
  /-- `status` in `saiagent_switch_init` before its first assignment. -/
  switchInitStatus : Rc
  /-- `status` in `saiagent_port_init` before its first assignment. -/
  portInitStatus : Rc
  /-- `status` in `saiagent_fdb_init` before its first assignment. -/
  fdbInitStatus : Rc
  /-- `status` in `saiagent_vlan_init` before its first assignment. -/
  vlanInitStatus : Rc
  /-- `status` in `saiagent_router_init` before its first assignment. -/
  routerInitStatus : Rc

namespace Runtime

/-- Every library call returns and succeeds, `vlan_member_list` is zero and the unassigned statuses
hold one value. -/
def calm (status : Rc) : Runtime where
  hwInfoMalloc := true
  vlanInfoCalloc := true
  pthreadAttrInit := true
  threadCtxCalloc := true
  pthreadCreate := true
  pthreadJoin := .joined
  threadResult := 0
  vlanMemberList := OidArray.replicate 0
  switchInitStatus := status
  portInitStatus := status
  fdbInitStatus := status
  vlanInitStatus := status
  routerInitStatus := status

end Runtime

/-! ### Running -/

/-- The agent and SAI. -/
abbrev World (σ : Type) := OracleWorld Agent SaiCall SaiResp σ

/-- A function of the agent over a SAI implementation with private state `σ`. -/
abbrev AgentM (σ α : Type) := Proc (World σ) Fault α

variable {σ A : Type}

/-- A SAI call in an expression: made with the locals' current values, it stores through the
pointers it was given and yields its status. -/
def saiCall (E : SaiBackend σ) (mk : A → SaiCall) (store : A → SaiResp → AgentM σ A) (a : A) :
    AgentM σ (SaiStatus × A) := do
  let r ← ask E (mk a)
  let a' ← store a r
  return (r.status, a')

/-- A SAI call that stores nothing. -/
def plainCall (E : SaiBackend σ) (c : SaiCall) : Unit → AgentM σ (SaiStatus × Unit) :=
  saiCall E (fun _ ↦ c) fun a _ ↦ pure a

/-- `SAI_RET_ERR(stmt, msg); rest`. On a failure `stmt` is evaluated again and its second status is
what the function returns. -/
def saiRetErr (stmt : A → AgentM σ (SaiStatus × A)) (a : A) (rest : A → AgentM σ SaiStatus) :
    AgentM σ SaiStatus := do
  let (status, a') ← stmt a
  if status ≠ saiStatusSuccess then
    let (status', _) ← stmt a'
    return status'
  else
    rest a'

/-- A wrapped call that succeeds: the function goes on from what it stored. -/
theorem run_saiRetErr_of_ok {E : SaiBackend σ} {mk : A → SaiCall} {store : A → SaiResp → AgentM σ A}
    {a a' : A} {rest : A → AgentM σ SaiStatus} {w w' : World σ} (h : (E (mk a) w.env).1.ok = true)
    (hstore : EStateM.run (store a (E (mk a) w.env).1) (w.asked E (mk a)) = .ok a' w') :
    EStateM.run (saiRetErr (saiCall E mk store) a rest) w = EStateM.run (rest a') w' := by
  simp only [saiRetErr, saiCall, EStateM.run_bind, run_ask, hstore, EStateM.run_pure,
    if_neg (not_ne_iff.2 (SaiResp.ok_iff.1 h))]

/-- A wrapped call that fails: the function returns the status of a second call, made with what
the first one stored. -/
theorem run_saiRetErr_of_refused {E : SaiBackend σ} {mk : A → SaiCall}
    {store : A → SaiResp → AgentM σ A} {a a' a'' : A} {rest : A → AgentM σ SaiStatus}
    {w w' w'' : World σ} (h : (E (mk a) w.env).1.ok = false)
    (hstore : EStateM.run (store a (E (mk a) w.env).1) (w.asked E (mk a)) = .ok a' w')
    (hstore' : EStateM.run (store a' (E (mk a') w'.env).1) (w'.asked E (mk a')) = .ok a'' w'') :
    EStateM.run (saiRetErr (saiCall E mk store) a rest) w =
      .ok (E (mk a') w'.env).1.status w'' := by
  simp only [saiRetErr, saiCall, EStateM.run_bind, run_ask, hstore, hstore', EStateM.run_pure,
    if_pos (SaiResp.ok_eq_false_iff.1 h)]

/-- A wrapped call that stores nothing and succeeds. -/
theorem run_saiRetErr_plainCall_of_ok {E : SaiBackend σ} {c : SaiCall}
    {rest : Unit → AgentM σ SaiStatus} {w : World σ} (h : (E c w.env).1.ok = true) :
    EStateM.run (saiRetErr (plainCall E c) () rest) w = EStateM.run (rest ()) (w.asked E c) :=
  @run_saiRetErr_of_ok σ Unit E (fun _ ↦ c) (fun a _ ↦ pure a) () () rest w _ h rfl

/-- A wrapped call that stores nothing and fails: the function returns the status of a second
call. -/
theorem run_saiRetErr_plainCall_of_refused {E : SaiBackend σ} {c : SaiCall}
    {rest : Unit → AgentM σ SaiStatus} {w : World σ} (h : (E c w.env).1.ok = false) :
    EStateM.run (saiRetErr (plainCall E c) () rest) w =
      .ok (E c (w.asked E c).env).1.status ((w.asked E c).asked E c) :=
  @run_saiRetErr_of_refused σ Unit E (fun _ ↦ c) (fun a _ ↦ pure a) () () () rest w _ _ h rfl rfl

/-- `saiagent_ipc_cb_set`. -/
def saiagentIpcCbSet (type : ℕ) (cb : Handler) : AgentM σ Rc :=
  if type ≥ PresteraCmdType.max then
    return rcStatusErr
  else do
    modState fun a ↦ a.register type cb
    return rcStatusOk

/-- `saiagent_ipc_loop_stop`. -/
def saiagentIpcLoopStop : AgentM σ Rc := do
  modState fun a ↦ a.setRunning false
  return rcStatusOk

end SaiAgent
