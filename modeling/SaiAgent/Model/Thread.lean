import SaiAgent.Model.Agent

/-!
# Thread contexts

The functions of `saiagent_thread.c` that run in the request handlers. A context is named by
its place in the heap; a null, freed or foreign pointer faults where the C function dereferences it.
`pthread_join` waits for ever for a thread that sets `running` after it was cleared. `free` of what
it stored is sound for the null pointer only: the thread's function flows off its end without a
return value.
-/

namespace SaiAgent

open Effects Effects.Proc

variable {σ : Type}

/-- `saiagent_thread_create`. The context is reachable only when all three library calls succeed. -/
def saiagentThreadCreate (rt : Runtime) (routine : Routine) (type : ThreadType) (timeout : Int32) :
    AgentM σ (Option ℕ) :=
  if rt.pthreadAttrInit && rt.threadCtxCalloc && rt.pthreadCreate then do
    let threads ← getState fun a ↦ a.threads
    modState fun a ↦ a.setThreads
      (a.threads ++ [⟨⟨routine, false, timeout, type⟩, false, false⟩])
    return some threads.length
  else
    return none

/-- The live context a pointer refers to. -/
def derefThread (threads : List ThreadSlot) : Option ℕ → Except Fault (ℕ × ThreadSlot)
  | none => .error .nullDeref
  | some i =>
    match threads[i]? with
    | none => .error .wildPointer
    | some slot => if slot.freed then .error .useAfterFree else .ok (i, slot)

/-- `ctx->running = 0`. -/
def clearRunning (ctx : Option ℕ) : AgentM σ (ℕ × ThreadSlot) := do
  let threads ← getState fun a ↦ a.threads
  let (i, slot) ← lift (derefThread threads ctx)
  let slot := { slot with ctx.running := false }
  modState fun a ↦ a.setThreads (a.threads.set i slot)
  return (i, slot)

/-- `saiagent_thread_stop`. -/
def saiagentThreadStop (ctx : Option ℕ) : AgentM σ Rc := do
  let _ ← clearRunning ctx
  return rcStatusOk

/-- `saiagent_thread_destroy`. -/
def saiagentThreadDestroy (rt : Runtime) (ctx : Option ℕ) : AgentM σ Rc := do
  let (i, slot) ← clearRunning ctx
  match rt.pthreadJoin with
  | .blocked => fault .blocked
  | .failed => return rcStatusErr
  | .joined =>
    if rt.threadResult ≠ 0 then
      fault .invalidFree
    else do
      modState fun a ↦ a.setThreads (a.threads.set i { slot with joined := true, freed := true })
      return rcStatusOk

end SaiAgent
