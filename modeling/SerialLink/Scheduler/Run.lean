import SerialLink.Scheduler.Service

/-!
Runs of a scheduler: calls in any order, at any times, while the transport may change on its own
between any two of them. A run keeps every call with its outcome, so that what was accepted can be
compared with what the scheduler holds and what it has told.
-/
namespace SerialLink.Scheduler

/-- What is done to a scheduler. -/
inductive Act (τ : Type) where
  | openSession
  | closeSession
  | killAll (status : CompletionStatus)
  | enqueue (command : Command) (callback : Option Callback)
  | submitRequest (id : RequestId)
  | handleEvent (event : SessionEvent) (now : Nat)
  | processInbound (now : Nat)
  | tick (now : Nat)
  | takeCompletions
  | setResolver (resolve : RequestId → Option Command)
  /-- Nobody calls, but the transport changes. -/
  | changeTransport (change : τ → τ)

/-- The time that a call says it is. -/
def Act.time? {τ : Type} : Act τ → Option Nat
  | .handleEvent _ now | .processInbound now | .tick now => some now
  | _ => none

/-- What comes of it. -/
inductive Outcome where
  | nothing
  | started (result : Except TransportFault Unit)
  | queued (result : Except ScheduleFault ItemHandle)
  | accepted (result : Except ScheduleFault Unit)
  | due (time : Option Nat)
  | taken (completions : List Completion)

variable {τ : Type} [Transport τ]

/-- Does it. -/
def perform (s : Scheduler τ) : Act τ → Outcome × Scheduler τ
  | .openSession => s.openSession.map .started id
  | .closeSession => (.nothing, s.closeSession)
  | .killAll status => (.nothing, s.killAll status)
  | .enqueue command callback => (s.enqueue command callback).map .queued id
  | .submitRequest request => (s.submitRequest request).map .accepted id
  | .handleEvent event now => (.nothing, s.handleEvent event now)
  | .processInbound now => (.nothing, s.processInbound now)
  | .tick now => (s.tick now).map .due id
  | .takeCompletions => s.takeCompletions.map .taken id
  | .setResolver resolve => (.nothing, s.setResolver resolve)
  | .changeTransport change => (.nothing, s.mapTransport change)

/-- What was done, with what came of it, oldest first. -/
abbrev Trace (τ : Type) := List (Act τ × Outcome)

/-- The trace leads from one state to the other. -/
inductive Run (start : Scheduler τ) : Trace τ → Scheduler τ → Prop where
  | nil : Run start [] start
  | snoc {trace : Trace τ} {s : Scheduler τ} (run : Run start trace s) (act : Act τ) :
    Run start (trace ++ [(act, (s.perform act).1)]) (s.perform act).2

namespace Trace

omit [Transport τ]

/-- Callbacks of the commands that were accepted, oldest first. -/
def callbacks (trace : Trace τ) : List Callback :=
  trace.filterMap fun
    | (.enqueue _ callback, .queued (.ok _)) => callback
    | _ => none

/-- Bulk requests that were accepted, oldest first. -/
def requests (trace : Trace τ) : List RequestId :=
  trace.filterMap fun
    | (.submitRequest id, .accepted (.ok ())) => some id
    | _ => none

/-- Completions that were handed out, oldest first. -/
def taken (trace : Trace τ) : List Completion :=
  trace.flatMap fun
    | (_, .taken completions) => completions
    | _ => []

/-- The resolver that was set last, or else the one from before the trace. -/
def resolver (trace : Trace τ) (before : RequestId → Option Command) :
    RequestId → Option Command :=
  (trace.filterMap fun
    | (.setResolver resolve, _) => some resolve
    | _ => none).getLastD before

/-- The times that the calls said it was, oldest first. -/
def times (trace : Trace τ) : List Nat := trace.filterMap fun entry => entry.1.time?

end Trace

end SerialLink.Scheduler
