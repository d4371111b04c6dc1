import SerialLink.Proofs.Scheduler.Numbering
import SerialLink.Scheduler.Run

/-!
What a scheduler does, cut into steps that are not divided further: an item is queued, sent, put
back or ended, everything is failed, a session starts or ends, users are told something. Each call
is a sequence of such steps (`Proofs.Scheduler.Calls`), so what every step keeps is kept by every
run.

A step is labelled with what it does to the work, its `Deed`. The deeds of a run are its history,
in which items can be followed from the slot they were queued in to their end.
-/

namespace SerialLink

/-- The item that is queued under a handle. -/
def ItemHandle.item (handle : ItemHandle) (command : Command) (origin : Origin) : QueueItem :=
  { command := { command with seq := handle.seq }, origin }

/-- The item once its frame has been taken. -/
def QueueItem.sending (now : Nat) (item : QueueItem) : QueueItem :=
  { item with
    state := .waitConfirm
    sentAt := some now
    firstSentAt := item.firstSentAt <|> some now }

/-- The item once it has been put back. -/
def QueueItem.again (item : QueueItem) : QueueItem :=
  { item with retries := item.retries + 1, state := .waitSend }

@[simp] theorem QueueItem.state_sending (now : Nat) (item : QueueItem) :
    (item.sending now).state = .waitConfirm := rfl

@[simp] theorem QueueItem.state_again (item : QueueItem) : item.again.state = .waitSend := rfl

namespace Scheduler

/-! ### Deeds -/

/-- What a step does. Items are given as they were before it. -/
inductive Deed where
  /-- Nothing that concerns the work. -/
  | quiet
  /-- An item was put into a slot. -/
  | queued (slot : Nat) (item : QueueItem)
  /-- The transport took the frame of an item. -/
  | sent (slot : Nat) (item : QueueItem) (frame : Bytes) (now : Nat)
  /-- The transport refused a frame. -/
  | turnedBack (frame : Bytes)
  /-- An item was put back to be sent again. -/
  | retried (slot : Nat) (item : QueueItem) (now : Nat)
  /-- An item left its slot. -/
  | ended (slot : Nat) (item : QueueItem) (status : CompletionStatus) (response : Option Command)
    (now : Nat)
  /-- Everything outstanding was failed. -/
  | killed (items : List QueueItem) (ids : List RequestId) (status : CompletionStatus)
  /-- A bulk request was accepted. -/
  | submitted (id : RequestId)
  /-- A bulk request was taken out of the ring and refused. -/
  | dropped (id : RequestId)
  /-- The callback of a command that cannot be written was told so. -/
  | refused (callback : Callback)
  | told (event : LinkEvent)
  /-- The session became operational. -/
  | connected (now : Nat)
  /-- A session was asked for, and has this number if there is one. -/
  | opened (session : Option Nat)
  /-- Too many commands in a row were given up. -/
  | tornDown
  | taken (completions : List Completion)
  /-- The commands of bulk requests come from elsewhere now. -/
  | resolverSet
  /-- The transport changed on its own. -/
  | changed
  deriving DecidableEq, Repr

namespace Deed

/-- The deed is on the queue. -/
def onQueue : Deed → Bool
  | .queued .. | .sent .. | .retried .. | .ended .. | .killed .. => true
  | _ => false

/-- The slot that it is about, if it is about one. -/
def slot? : Deed → Option Nat
  | .queued slot _ | .sent slot _ _ _ | .retried slot _ _ | .ended slot _ _ _ _ => some slot
  | _ => none

/-- The items that enter the queue. -/
def entering : Deed → List QueueItem
  | .queued _ item => [item]
  | _ => []

/-- The items that leave the queue. -/
def leaving : Deed → List QueueItem
  | .ended _ item _ _ _ => [item]
  | .killed items _ _ => items
  | _ => []

theorem eq_nil_of_not_onQueue {deed : Deed} (apart : deed.onQueue = false) :
    deed.entering = [] ∧ deed.leaving = [] := by
  cases deed <;> first | exact ⟨rfl, rfl⟩ | cases apart

theorem slot?_of_not_onQueue {deed : Deed} (apart : deed.onQueue = false) : deed.slot? = none := by
  cases deed <;> first | rfl | cases apart

/-- What is collected to be told. -/
def completions : Deed → List Completion
  | .ended _ item status response _ => (item.origin.outcome status response).toList
  | .killed items ids status =>
    items.filterMap (fun item => item.origin.outcome status none) ++
      ids.map fun id => .request id status
  | .dropped id => [.request id .rejected]
  | .refused callback => [.command callback .rejected none]
  | .told event => [.event event]
  | .connected _ => [.event .connected]
  | _ => []

/-- What is handed out of the collected. -/
def handedOut : Deed → List Completion
  | .taken completions => completions
  | _ => []

/-- The frame that is handed to the transport. -/
def frame? : Deed → Option Bytes
  | .sent _ _ frame _ | .turnedBack frame => some frame
  | _ => none

/-- The time at which it is done, where that matters. -/
def time? : Deed → Option Nat
  | .sent _ _ _ now | .retried _ _ now | .ended _ _ _ _ now | .connected now => some now
  | _ => none

end Deed

/-! ### Steps -/

variable {τ : Type}

/-- The confirm of the item has been waited for long enough. -/
def overdue (s : Scheduler τ) (now : Nat) (item : QueueItem) : Bool :=
  item.state = .waitConfirm && item.sentAt.any fun t => now - t ≥ s.settings.confirmTimeout

/-- Everything outstanding has just been failed. -/
def Cleared (s : Scheduler τ) : Prop :=
  ∃ (before : Scheduler τ) (status : CompletionStatus), before.killAll status = s

/-- Ready for a session of the transport. -/
def opening (s : Scheduler τ) : Scheduler τ :=
  { s with
    receiver := s.receiver.reset
    device := {}
    bootloaderSeen := false
    failures := 0
    connection := .connecting }

/-- Without a connection. -/
def leaving (s : Scheduler τ) : Scheduler τ := { s with connection := .off, connectedAt := none }

/-- With a command queued under the handle. -/
def taking (s : Scheduler τ) (handle : ItemHandle) (queue : SendQueue) (wake : Bool) :
    Scheduler τ :=
  { s with queue, lastSeq := handle.seq, wake }.updateGauges

/-- With the item in a slot put back to be sent again. -/
def puttingBack (s : Scheduler τ) (slot : Nat) (item : QueueItem) : Scheduler τ :=
  { s with
    queue := s.queue.modify slot QueueItem.again
    counts := { s.counts with retries := s.counts.retries + 1 } }.countCommand
      .retries item.command.id

/-- With the item in a slot given up. -/
def givingUp (s : Scheduler τ) (slot : Nat) (item : QueueItem) : Scheduler τ :=
  ({ s with
    queue := (s.queue.remove slot).2
    failures := s.failures + 1
    counts := { s.counts with timeouts := s.counts.timeouts + 1 } }.countCommand
      .timeouts item.command.id).finish item .timeout none

/-- With the item in a slot confirmed by the command. -/
def confirming (s : Scheduler τ) (slot : Nat) (item : QueueItem) (command : Command) (now : Nat)
    (metrics : Recording) : Scheduler τ :=
  { s with
    queue := (s.queue.remove slot).2
    metrics
    failures := 0
    lastConfirm := some now
    counts := { s.counts with confirmed := s.counts.confirmed + 1 }
    wake := true }.finish item .success (some command)

variable [Transport τ]

/-- Steps beside the work: on the transport, the receiver, the counters and the gauges. -/
inductive Aside : Scheduler τ → Scheduler τ → Prop where
  | wake (s : Scheduler τ) (wake : Bool) : Aside s { s with wake }
  | gauge (s : Scheduler τ) (metric : Metric) (value : Nat) : Aside s (s.setGauge metric value)
  | rejection (s : Scheduler τ) (reason : String) : Aside s (s.countReason .rejected reason)
  | reconnect (s : Scheduler τ) : Aside s (s.countMetric .reconnects)
  | receive (s : Scheduler τ) : Aside s { s with transport := (Transport.receive s.transport).2 }
  | stop (s : Scheduler τ) (reason : DisconnectReason) :
    Aside s { s with transport := Transport.stop reason s.transport }
  | byte {s : Scheduler τ} {b : UInt8} {receiver : Receiver}
    (fed : s.receiver.feed b = (none, receiver)) : Aside s { s with receiver }
  | frame {s : Scheduler τ} {b : UInt8} {payload : Bytes} {receiver : Receiver}
    (fed : s.receiver.feed b = (some payload, receiver)) :
    Aside s ({ s with receiver }.countMetric .framesReceived)
  | undecodable (s : Scheduler τ) :
    Aside s
      ({ s with counts := { s.counts with decodeErrors := s.counts.decodeErrors + 1 } }.countMetric
        .decodeErrors)
  | decoded (s : Scheduler τ) (id : UInt8) : Aside s (s.countCommand .commandsReceived id)
  | receiverErrors {s : Scheduler τ} {before : ReceiverCounts} {metrics : Recording}
    (counted : s.countReceiverErrors before = { s with metrics }) : Aside s { s with metrics }

/-- One step, with its deed. -/
inductive Step : Scheduler τ → Deed → Scheduler τ → Prop where
  | quiet {s s' : Scheduler τ} (aside : Aside s s') : Step s .quiet s'
  | submit {s : Scheduler τ} {id : RequestId} {pending : PendingRing}
    (connected : s.connection ≠ .off) (pushed : s.pending.push? id = some pending) :
    Step s (.submitted id) { s with pending, wake := true }
  | queueCaller {s : Scheduler τ} {command : Command} {callback : Option Callback}
    {handle : ItemHandle} {queue : SendQueue} {wake : Bool} (connected : s.connection ≠ .off)
    (inserted : s.insert command (.caller callback) = (.ok handle, s.taking handle queue wake)) :
    Step s (.queued handle.slot (handle.item command (.caller callback)))
      (s.taking handle queue wake)
  | refuse {s : Scheduler τ} {command : Command} {cause : EncodeError} (callback : Callback)
    (connected : s.connection ≠ .off)
    (unwritable : s.table.encode command Command.maxLength = .error cause) :
    Step s (.refused callback) (s.tell [.command callback .rejected none])
  | queueOwn {s : Scheduler τ} {id : UInt8} {command : Command} {handle : ItemHandle}
    {queue : SendQueue} {wake : Bool} (operational : s.connection = .operational)
    (known : id ∈ [Command.deviceStatus, Command.dataConfirm, Command.dataIndication])
    (single : s.queue.holdsId id = false) (zeroed : s.table.zeroed? id = some command)
    (inserted : s.insert command .scheduler = (.ok handle, s.taking handle queue wake)) :
    Step s (.queued handle.slot (handle.item command .scheduler)) (s.taking handle queue wake)
  | queueRequest {s : Scheduler τ} {id : RequestId} {pending : PendingRing} {command : Command}
    {handle : ItemHandle} {queue : SendQueue} {wake : Bool}
    (operational : s.connection = .operational)
    (ready : s.requestReady = true) (popped : s.pending.pop = (some id, pending))
    (resolved : s.resolve id = some command)
    (inserted : { s with pending }.insert command (.request id) =
      (.ok handle, { s with pending }.taking handle queue wake)) :
    Step s (.queued handle.slot (handle.item command (.request id)))
      ({ s with pending }.taking handle queue wake)
  | dropRequest {s : Scheduler τ} {id : RequestId} {pending : PendingRing}
    (operational : s.connection = .operational)
    (ready : s.requestReady = true) (popped : s.pending.pop = (some id, pending))
    (unresolved : ∀ command, s.resolve id = some command →
      ∃ cause, s.table.encode command Command.maxLength = .error cause) :
    Step s (.dropped id) ({ s with pending }.tell [.request id .rejected])
  | skipRequest {s : Scheduler τ} {pending : PendingRing} (ready : s.requestReady = true)
    (popped : s.pending.pop = (none, pending)) : Step s .quiet { s with pending }
  | send {s : Scheduler τ} {slot : Nat} {item : QueueItem} {payload : Bytes} {transport : τ}
    (now : Nat) (operational : s.connection = .operational) (credit : s.hasCredit = true)
    (next : s.queue.nextToSend? = some slot) (held : s.queue.get? slot = some item)
    (written : s.table.encode item.command Command.maxLength = .ok payload)
    (taken : Transport.send (Frame.encode payload) s.transport = (.ok (), transport)) :
    Step s (.sent slot item (Frame.encode payload) now)
      ({ s with transport }.noteSent slot item.command.id now)
  | turnBack {s : Scheduler τ} {frame : Bytes} {fault : TransportFault} {transport : τ}
    (operational : s.connection = .operational)
    (refused : Transport.send frame s.transport = (.error fault, transport)) :
    Step s (.turnedBack frame) { s with transport }
  | discard {s : Scheduler τ} {slot : Nat} {item : QueueItem} {cause : EncodeError} (now : Nat)
    (operational : s.connection = .operational) (held : s.queue.get? slot = some item)
    (unwritable : s.table.encode item.command Command.maxLength = .error cause) :
    Step s (.ended slot item .rejected none now)
      ({ s with queue := (s.queue.remove slot).2 }.finish item .rejected none)
  | retry {s : Scheduler τ} {slot : Nat} {item : QueueItem} {now : Nat}
    (operational : s.connection = .operational) (held : s.queue.get? slot = some item)
    (overdue : s.overdue now item = true) (left : item.retries < s.settings.maxRetries) :
    Step s (.retried slot item now) (s.puttingBack slot item)
  | giveUp {s : Scheduler τ} {slot : Nat} {item : QueueItem} {now : Nat}
    (operational : s.connection = .operational) (held : s.queue.get? slot = some item)
    (overdue : s.overdue now item = true) (spent : ¬ item.retries < s.settings.maxRetries) :
    Step s (.ended slot item .timeout none now) (s.givingUp slot item)
  | confirm {s : Scheduler τ} {command : Command} {slot : Nat} {item : QueueItem} {now : Nat}
    {metrics : Recording} (found : s.queue.findConfirm? command.id command.seq = some slot)
    (held : s.queue.get? slot = some item)
    (confirmed : s.confirm command now = s.confirming slot item command now metrics) :
    Step s (.ended slot item .success (some command) now)
      (s.confirming slot item command now metrics)
  | kill (s : Scheduler τ) (status : CompletionStatus) :
    Step s (.killed s.queue.items s.pending.drain.1 status) (s.killAll status)
  | leave {s : Scheduler τ} (cleared : s.Cleared) (alone : s.session = none) :
    Step s .quiet s.leaving
  | disconnect {s : Scheduler τ} {session : Nat} (reason : DisconnectReason) (cleared : s.Cleared)
    (joined : s.session = some session) :
    Step s (.told (.disconnected reason))
      (({ s.leaving with session := none }.countReason .disconnects reason.name).tell
        [.event (.disconnected reason)])
  | start {s : Scheduler τ} {transport : τ} (cleared : s.Cleared)
    (started : Transport.start s.transport = (.ok (), transport)) :
    Step s (.opened (some (Transport.session transport)))
      { s.opening with transport, session := some (Transport.session transport) }
  | startFailed {s : Scheduler τ} {fault : TransportFault} {transport : τ} (cleared : s.Cleared)
    (failed : Transport.start s.transport = (.error fault, transport)) :
    Step s (.opened none) { s.opening with transport, connection := .off }
  | tearDown {s : Scheduler τ} (operational : s.connection = .operational)
    (many : s.failures ≥ s.settings.failureThreshold) : Step s .tornDown { s with failures := 0 }
  | connect {s : Scheduler τ} {session : Nat} (now : Nat) (joined : s.session = some session) :
    Step s (.connected now)
      ({ s with
        connection := .operational
        connectedAt := some now
        lastSent := none
        lastConfirm := none
        failures := 0
        wake := true }.tell [.event .connected])
  | bootloader {s : Scheduler τ} {session : Nat} (joined : s.session = some session) :
    Step s (.told .bootloaderActive)
      ({ s with bootloaderSeen := true }.tell [.event .bootloaderActive])
  | statusChange {s : Scheduler τ} {command : Command} {update : StatusUpdate}
    (carried : s.table.statusUpdate? command = some update)
    (new : s.device.apply update ≠ s.device) :
    Step s (.told (.deviceStatusChanged (s.device.apply update)))
      ({ s with device := s.device.apply update, wake := true }.tell
        [.event (.deviceStatusChanged (s.device.apply update))])
  | hear (s : Scheduler τ) (command : Command) :
    Step s (.told (.command command)) (s.tell [.event (.command command)])
  | take (s : Scheduler τ) : Step s (.taken s.completions) { s with completions := [] }
  | setResolver (s : Scheduler τ) (resolve : RequestId → Option Command) :
    Step s .resolverSet (s.setResolver resolve)
  | change (s : Scheduler τ) (change : τ → τ) : Step s .changed (s.mapTransport change)

/-- Steps one after the other, with their deeds. -/
inductive Steps : Scheduler τ → List Deed → Scheduler τ → Prop where
  | nil (s : Scheduler τ) : Steps s [] s
  | cons {s s' s'' : Scheduler τ} {deed : Deed} {deeds : List Deed} (step : Step s deed s')
    (rest : Steps s' deeds s'') : Steps s (deed :: deeds) s''

theorem Steps.append {s s' s'' : Scheduler τ} {first second : List Deed}
    (before : Steps s first s') (after : Steps s' second s'') : Steps s (first ++ second) s'' := by
  induction before with
  | nil s => exact after
  | cons step rest ih => exact .cons step (ih after)

theorem Steps.keep {keeps : Scheduler τ → Prop}
    (each : ∀ {s s' : Scheduler τ} {deed : Deed}, Step s deed s' → keeps s → keeps s')
    {s s' : Scheduler τ} {deeds : List Deed} (steps : Steps s deeds s') (holds : keeps s) :
    keeps s' := by
  induction steps with
  | nil s => exact holds
  | cons step rest ih => exact ih (each step holds)

/-- If each step that is not a change from outside adds what its deed notes to a log, so does a row
of them, one after the other. -/
theorem Steps.log_eq {α : Type} (log : Scheduler τ → List α) (noted : Deed → Option α)
    (each : ∀ {s s' : Scheduler τ} {deed : Deed}, Step s deed s' → deed ≠ .changed →
      log s' = log s ++ (noted deed).toList)
    {s s' : Scheduler τ} {deeds : List Deed} (steps : Steps s deeds s')
    (kept : ∀ deed ∈ deeds, deed ≠ .changed) : log s' = log s ++ deeds.filterMap noted := by
  induction steps with
  | nil s => exact (List.append_nil _).symm
  | cons step rest ih =>
    obtain ⟨first, later⟩ := List.forall_mem_cons.mp kept
    rw [ih later, each step first, List.append_assoc]
    congr 1
    rw [List.filterMap_cons]
    cases noted _ <;> rfl

end Scheduler

end SerialLink
