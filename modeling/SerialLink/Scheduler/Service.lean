import SerialLink.Scheduler.Inbound
import SerialLink.Scheduler.Session
import SerialLink.Scheduler.Submit

/-! The scheduler over time: sending, giving up on confirms, and hearing the transport's reports. -/
namespace SerialLink.Scheduler

variable {τ : Type}

/-! ### Timeouts -/

/-- The slots whose confirm has been waited for long enough. -/
def expired (s : Scheduler τ) (now : Nat) : List Nat :=
  (s.queue.entries.filter fun (_, item) =>
    item.state = .waitConfirm &&
      item.sentAt.any fun t => now - t ≥ s.settings.confirmTimeout).map Prod.fst

/-- Puts an item back to be sent again, or gives it up if that has been done often enough. -/
def expire (s : Scheduler τ) (slot : Nat) : Scheduler τ :=
  match s.queue.get? slot with
  | none => s
  | some item =>
    if item.retries < s.settings.maxRetries then
      let again (item : QueueItem) : QueueItem :=
        { item with retries := item.retries + 1, state := .waitSend }
      { s with
        queue := s.queue.modify slot again
        counts := { s.counts with retries := s.counts.retries + 1 } }.countCommand
          .retries item.command.id
    else
      ({ s with
        queue := (s.queue.remove slot).2
        failures := s.failures + 1
        counts := { s.counts with timeouts := s.counts.timeouts + 1 } }.countCommand
          .timeouts item.command.id).finish item .timeout none

/-! ### Sending -/

/-- Notes that the item in a slot has been sent. -/
def noteSent (s : Scheduler τ) (slot : Nat) (id : UInt8) (now : Nat) : Scheduler τ :=
  let sent (item : QueueItem) : QueueItem :=
    { item with
      state := .waitConfirm
      sentAt := some now
      firstSentAt := item.firstSentAt <|> some now }
  ({ s with
    queue := (s.queue.modify slot sent).markSent slot
    lastSent := some now
    counts := { s.counts with sent := s.counts.sent + 1 } }.countMetric .framesSent).countCommand
      .commandsSent id

variable [Transport τ]

/-- Sends the item whose turn it is, and tells whether there may be another. An item that cannot be
written any more ends here. -/
def sendNext (s : Scheduler τ) (now : Nat) : Bool × Scheduler τ :=
  if !s.hasCredit then (false, s)
  else
    match s.queue.nextToSend? with
    | none => (false, s)
    | some slot =>
      match s.queue.get? slot with
      | none => (false, s)
      | some item =>
        match s.table.encode item.command Command.maxLength with
        | .error _ =>
          (true, { s with queue := (s.queue.remove slot).2 }.finish item .rejected none)
        | .ok payload =>
          match Transport.send (Frame.encode payload) s.transport with
          | (.error _, transport) => (false, { s with transport })
          | (.ok (), transport) =>
            (true, { s with transport }.noteSent slot item.command.id now)

/-- Sends up to `most` items. -/
def sendUpTo (now : Nat) : (most : Nat) → Scheduler τ → Scheduler τ
  | 0, s => s
  | most + 1, s =>
    match s.sendNext now with
    | (true, s) => sendUpTo now most s
    | (false, s) => s

/-- Sends waiting items until the window is full, the transport refuses, or none is left. -/
def sendReady (s : Scheduler τ) (now : Nat) : Scheduler τ :=
  sendUpTo now (s.queue.count .waitSend) s

/-- Acts on the confirms that have been waited for long enough, and ends the session if too many
commands in a row were given up. -/
def sweepTimeouts (s : Scheduler τ) (now : Nat) : Scheduler τ :=
  let s := (s.expired now).foldl expire s
  let s := s.setGauge .failureCount s.failures
  if s.failures ≥ s.settings.failureThreshold then s.teardown else s

/-- Does what there is to do at this time, and gives the time of the next. -/
def tick (s : Scheduler τ) (now : Nat) : Option Nat × Scheduler τ :=
  let s := { s with wake := false }
  if s.connection ≠ .operational then (none, s)
  else
    let s := s.sweepTimeouts now
    if s.connection ≠ .operational then (none, s)
    else
      let s := (s.scheduleBackground now).sendReady now
      let s := { s with wake := false }.updateGauges
      (s.nextDeadline now, s)

/-- Hears a report of the transport. One about another session is passed over. -/
def handleEvent (s : Scheduler τ) (event : SessionEvent) (now : Nat) : Scheduler τ :=
  if s.session ≠ some event.session then s
  else
    match event.event with
    | .readable => s.processInbound now
    | .connected =>
      { s with
        connection := .operational
        connectedAt := some now
        lastSent := none
        lastConfirm := none
        failures := 0
        wake := true }.tell [.event .connected]
    | .bootloaderActive => { s with bootloaderSeen := true }.tell [.event .bootloaderActive]
    | .disconnected reason => s.endSession reason

/-- Hears the reports that wait, oldest first, but no more than so many. -/
def handleEvents (now : Nat) : (most : Nat) → Scheduler τ → Scheduler τ
  | 0, s => s
  | most + 1, s =>
    match Transport.nextEvent? s.transport with
    | none => s
    | some (event, transport) => handleEvents now most ({ s with transport }.handleEvent event now)

end SerialLink.Scheduler
