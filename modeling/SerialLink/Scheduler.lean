import SerialLink.Frame.Receiver
import SerialLink.Command.Decode
import SerialLink.Metric
import SerialLink.Transport
import SerialLink.Scheduler.PendingRing
import SerialLink.Scheduler.SendQueue

/-!
The scheduler of a link. It keeps the commands to be sent, sends a few at a time, matches what the
device answers, gives up on what it does not answer, and probes and fetches on its own.

It acts only when called, and each call says what time it is, in milliseconds. What users are to be
told is collected as completions, and handed out when nothing is going on.

This module holds the scheduler's state and what can be read off it. What changes it follows by
occasion: `Session` (starts and ends), `Submit` (work given to it), `Inbound` (bytes received) and
`Service` (the passing of time).
-/
namespace SerialLink

/-- The connection as the scheduler sees it. -/
inductive ConnectionState where
  /-- There is no session. -/
  | off
  /-- A session is on its way. -/
  | connecting
  /-- Commands flow. -/
  | operational
  deriving DecidableEq, Repr

def ConnectionState.name : ConnectionState → String
  | .off => "off"
  | .connecting => "connecting"
  | .operational => "operational"

/-- What the scheduler counts. -/
structure SchedulerCounts where
  /-- Frames sent, those sent again included. -/
  sent : Nat := 0
  /-- Confirms that matched a command. -/
  confirmed : Nat := 0
  /-- Commands put back to be sent again. -/
  retries : Nat := 0
  /-- Commands given up. -/
  timeouts : Nat := 0
  /-- Frames received that held no command. -/
  decodeErrors : Nat := 0
  deriving DecidableEq, Repr

/-- The scheduler, over a transport with state `τ`. -/
structure Scheduler (τ : Type) where
  transport : τ
  settings : SchedulerSettings := {}
  table : CommandTable := .builtin
  labels : LinkLabels := {}
  /-- The command that carries a bulk request. -/
  resolve : RequestId → Option Command := fun _ => none
  receiver : Receiver := {}
  queue : SendQueue := {}
  pending : PendingRing := {}
  device : DeviceStatus := {}
  connection : ConnectionState := .off
  /-- The transport session whose reports are heard. -/
  session : Option Nat := none
  /-- The sequence number given last. -/
  lastSeq : UInt8 := 0
  connectedAt : Option Nat := none
  lastSent : Option Nat := none
  lastConfirm : Option Nat := none
  /-- Commands given up in a row. Between calls these are fewer than the threshold, and a tick gives
  up at most one for each of the 32 slots, so a word of 32 bits holds the number if the threshold is
  at most 2^32 - 32 (`Run.failures_lt_size`). -/
  failures : Nat := 0
  bootloaderSeen : Bool := false
  /-- There may be something to do right away. -/
  wake : Bool := false
  counts : SchedulerCounts := {}
  completions : List Completion := []
  metrics : Recording := {}

namespace Scheduler

variable {τ : Type}

/-- Number of commands that wait for their confirm. -/
def inFlight (s : Scheduler τ) : Nat := s.queue.count .waitConfirm

/-- Another command may be sent. -/
def hasCredit (s : Scheduler τ) : Bool := s.inFlight < s.settings.window

/-- Hands out the completions collected so far. -/
def takeCompletions (s : Scheduler τ) : List Completion × Scheduler τ :=
  (s.completions, { s with completions := [] })

/-- The same scheduler when something has happened to its transport. -/
def mapTransport (s : Scheduler τ) (change : τ → τ) : Scheduler τ :=
  { s with transport := change s.transport }

/-- Says where the commands of bulk requests come from, from now on. -/
def setResolver (s : Scheduler τ) (resolve : RequestId → Option Command) : Scheduler τ :=
  { s with resolve }

/-- Collects completions behind the others. -/
def tell (s : Scheduler τ) (completions : List Completion) : Scheduler τ :=
  { s with completions := s.completions ++ completions }

/-- Adds to a counter of the link. -/
def addMetric (s : Scheduler τ) (metric : Metric) (amount : Nat) : Scheduler τ :=
  { s with metrics := s.metrics.add metric s.labels.toList amount }

/-- Counts something about the link. -/
def countMetric (s : Scheduler τ) (metric : Metric) : Scheduler τ := s.addMetric metric 1

/-- Counts something about one command. -/
def countCommand (s : Scheduler τ) (metric : Metric) (id : UInt8) : Scheduler τ :=
  { s with metrics := s.metrics.add metric (s.labels.withCommand (s.table.name id)) 1 }

/-- Counts something that has a reason. -/
def countReason (s : Scheduler τ) (metric : Metric) (reason : String) : Scheduler τ :=
  { s with metrics := s.metrics.add metric (s.labels.withReason reason) 1 }

/-- Sets a gauge of the link. -/
def setGauge (s : Scheduler τ) (metric : Metric) (value : Nat) : Scheduler τ :=
  { s with metrics := s.metrics.set metric s.labels.toList value }

/-- Sets the gauges that tell how much work is outstanding. -/
def updateGauges (s : Scheduler τ) : Scheduler τ :=
  ((s.setGauge .queueDepth s.queue.size).setGauge .inFlight s.inFlight).setGauge
    .pendingRequests s.pending.length

/-- Collects what is to be told when an item has ended. -/
def finish (s : Scheduler τ) (item : QueueItem) (status : CompletionStatus)
    (response : Option Command) : Scheduler τ :=
  s.tell (item.origin.outcome status response).toList

/-! ### What there is to do -/

/-- A bulk request is among the queued commands. -/
def requestQueued (s : Scheduler τ) : Bool :=
  s.queue.items.any fun item => match item.origin with
    | .request _ => true
    | _ => false

/-- The confirm of a data request can be fetched. -/
def confirmReady (s : Scheduler τ) : Bool :=
  s.device.confirmPending && !s.queue.holdsId Command.dataConfirm

/-- Received application data can be fetched. -/
def indicationReady (s : Scheduler τ) : Bool :=
  s.device.indicationPending && !s.queue.holdsId Command.dataIndication

/-- A bulk request waits and the device has room for one. One at a time is queued, so that they keep
their order. -/
def requestReady (s : Scheduler τ) : Bool :=
  s.device.isJoined && s.device.hasFreeSlot && !s.pending.isEmpty && !s.requestQueued

def backgroundReady (s : Scheduler τ) : Bool :=
  s.confirmReady || s.indicationReady || s.requestReady

/-- The time from which on the lack of confirms is measured. -/
def stalledSince (s : Scheduler τ) : Option Nat := s.lastConfirm <|> s.connectedAt

/-- The device is to be probed: nothing was sent for a while, or the window is full and no confirm
came for a longer while. -/
def keepaliveDue (s : Scheduler τ) (now : Nat) : Bool :=
  let idle := s.lastSent.all fun t => now - t ≥ s.settings.keepaliveInterval
  let stalled :=
    !s.hasCredit && s.stalledSince.any fun t => now - t ≥ s.settings.stallInterval
  idle || stalled

/-- The earliest time at which there is something to do, as far as it is known now. -/
def nextDeadline (s : Scheduler τ) (now : Nat) : Option Nat :=
  if s.connection ≠ .operational then none
  else if s.wake || (s.hasCredit && s.queue.nextToSend?.isSome) || s.backgroundReady then
    some now
  else
    let awaiting := s.queue.items.filter fun item => item.state = .waitConfirm
    let timeouts := awaiting.filterMap fun item =>
      item.sentAt.map (· + s.settings.confirmTimeout)
    let probed := s.queue.holdsId Command.deviceStatus
    let keepalive :=
      if probed then []
      else [(s.lastSent.map (· + s.settings.keepaliveInterval)).getD now]
    let stall :=
      if probed || s.hasCredit then []
      else (s.stalledSince.map (· + s.settings.stallInterval)).toList
    (timeouts ++ keepalive ++ stall).min?.map (max now)

end Scheduler

end SerialLink
