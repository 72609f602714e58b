import SaiAgent.Library.Run
import SaiAgent.Model.Thread

/-!
# A thread and its owner

A context of type `THREAD_TYPE_LOOP` in `saiagent_thread.c`, from the moment
`saiagent_thread_create` has returned: the new thread runs `thread_loop`, its owner calls
`saiagent_thread_stop` and `saiagent_thread_destroy`. Both write `running`. A scheduler decides
whose turn it is; each turn is one access of the shared flag, one call of the routine, or one look
at whether the thread ended, and the accesses are sequentially consistent.

`SaiAgent.Model.Thread` has the same functions as the request handlers call them, where the thread's
own steps are not seen.
-/

namespace SaiAgent

open Effects

/-- Where the thread is in `thread_loop`. -/
inductive ThreadPc where
  /-- `pthread_create` returned; the thread has not run yet. -/
  | created
  /-- Before the loop's test. -/
  | testing
  /-- Before the call of the routine. -/
  | calling
  /-- The routine was called; the thread sleeps before its next test. -/
  | sleeping
  | ended
  deriving DecidableEq, Repr

/-- Where the owner is. -/
inductive OwnerPc where
  /-- In none of the functions. -/
  | free
  /-- In `saiagent_thread_destroy`, waiting in `pthread_join`. -/
  | joining
  /-- `saiagent_thread_destroy` returned; the context is gone. -/
  | joined
  deriving DecidableEq, Repr

/-- The context, its thread and its owner, with what the owner has asked for. -/
structure LoopThread where
  ctx : SaiagentThreadCtx
  thread : ThreadPc
  owner : OwnerPc
  /-- The owner has executed `running = 0`. -/
  cleared : Bool
  /-- How often the routine was started since then. -/
  startsSince : ℕ
  deriving DecidableEq, Repr

/-- Whose turn it is, and what the owner calls on its turn. -/
inductive Turn where
  | thread
  | stop
  | destroy
  deriving DecidableEq, Repr

namespace LoopThread

/-- What `saiagent_thread_create` leaves behind. -/
def create (routine : Routine) (timeout : Int32) : LoopThread where
  ctx := ⟨routine, false, timeout, .loop⟩
  thread := .created
  owner := .free
  cleared := false
  startsSince := 0

/-- One step of `thread_loop`. How long the thread sleeps plays no part here, nor that the product
`ctx->timeout * 1000` may exceed an `int`. -/
def threadLoop (s : LoopThread) : LoopThread :=
  match s.thread with
  | .created => { s with ctx.running := true, thread := .testing }
  | .testing => { s with thread := if s.ctx.running then .calling else .ended }
  | .calling =>
    { s with
      thread := .sleeping
      startsSince := if s.cleared then s.startsSince + 1 else s.startsSince }
  | .sleeping => { s with thread := .testing }
  | .ended => s

/-- `ctx->running = 0`, by the owner. -/
def clear (s : LoopThread) : LoopThread := { s with ctx.running := false, cleared := true }

/-- `saiagent_thread_stop`. -/
def stop (s : LoopThread) : LoopThread :=
  match s.owner with
  | .free => s.clear
  | .joining | .joined => s

/-- One step of `saiagent_thread_destroy`: it clears the flag, then waits for the thread to end. -/
def destroy (s : LoopThread) : LoopThread :=
  match s.owner with
  | .free => { s.clear with owner := .joining }
  | .joining => if s.thread = .ended then { s with owner := .joined } else s
  | .joined => s

/-- One turn. -/
def step (s : LoopThread) : Turn → LoopThread
  | .thread => s.threadLoop
  | .stop => s.stop
  | .destroy => s.destroy

/-- A schedule. -/
def run : LoopThread → List Turn → LoopThread := Run.exec (fun _ ↦ True) step

end LoopThread

end SaiAgent
