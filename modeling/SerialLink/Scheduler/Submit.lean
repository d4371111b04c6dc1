import SerialLink.Scheduler

/-! Giving work to the scheduler: commands, and bulk requests whose command is made later. -/
namespace SerialLink.Scheduler

variable {τ : Type}

/-- Queues a command under a sequence number that no queued command has. A command that cannot be
written is refused first, and takes neither a slot nor a number. -/
def insert (s : Scheduler τ) (command : Command) (origin : Origin) :
    Except ScheduleFault ItemHandle × Scheduler τ :=
  match s.table.encode command Command.maxLength with
  | .error cause => (.error (.rejected cause), s)
  | .ok _ =>
    if s.queue.isFull then (.error (.queueFull SendQueue.capacity), s)
    else
      let seq := s.queue.freeSeq s.lastSeq
      match s.queue.insert? { command := { command with seq }, origin } with
      | none => (.error (.queueFull SendQueue.capacity), { s with lastSeq := seq })
      | some (slot, queue) =>
        let s := { s with queue, lastSeq := seq }
        (.ok ⟨slot, seq⟩, { s with wake := s.wake || s.hasCredit }.updateGauges)

/-- Queues a command for a caller. The callback of a command that cannot be written is told so; that
of a command refused for another reason is never called. -/
def enqueue (s : Scheduler τ) (command : Command) (callback : Option Callback) :
    Except ScheduleFault ItemHandle × Scheduler τ :=
  if s.connection = .off then (.error .notConnected, s)
  else
    match s.insert command (.caller callback) with
    | (.ok handle, s) => (.ok handle, s)
    | (.error (.rejected cause), s) =>
      let told := callback.map fun callback => Completion.command callback .rejected none
      (.error (.rejected cause), (s.countReason .rejected "encode").tell told.toList)
    | (.error fault, s) => (.error fault, s.countReason .rejected "queue_full")

/-- Accepts a bulk request. -/
def submitRequest (s : Scheduler τ) (id : RequestId) : Except ScheduleFault Unit × Scheduler τ :=
  if s.connection = .off then (.error .notConnected, s)
  else
    match s.pending.push? id with
    | none =>
      (.error (.pendingFull PendingRing.capacity), s.countReason .rejected "pending_full")
    | some pending => (.ok (), { s with pending, wake := true })

/-- Queues a request of the scheduler's own, with every field zero. -/
def enqueueOwn (s : Scheduler τ) (id : UInt8) : Scheduler τ :=
  match s.table.zeroed? id with
  | none => s
  | some command => (s.insert command .scheduler).2

/-- Queues the command of the oldest bulk request. A request without command, or with one that is
refused, ends here. -/
def materialize (s : Scheduler τ) : Scheduler τ :=
  match s.pending.pop with
  | (none, pending) => { s with pending }
  | (some id, pending) =>
    let s := { s with pending }
    match s.resolve id with
    | none => s.tell [.request id .rejected]
    | some command =>
      match s.insert command (.request id) with
      | (.ok _, s) => s
      | (.error _, s) => s.tell [.request id .rejected]

/-- Queues at most one command of the scheduler's own: a probe, a fetch or a bulk request. -/
def scheduleBackground (s : Scheduler τ) (now : Nat) : Scheduler τ :=
  if s.queue.isFull then s
  else if s.keepaliveDue now && !s.queue.holdsId Command.deviceStatus then
    s.enqueueOwn Command.deviceStatus
  else if s.confirmReady then s.enqueueOwn Command.dataConfirm
  else if s.indicationReady then s.enqueueOwn Command.dataIndication
  else if s.requestReady then s.materialize
  else s

end SerialLink.Scheduler
