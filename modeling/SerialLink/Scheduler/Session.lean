import SerialLink.Scheduler

/-!
Starts and ends of sessions. Work that is outstanding when a session starts or ends is failed, so
that everyone who waits is told.
-/
namespace SerialLink.Scheduler

variable {τ : Type}

/-- Fails everything outstanding: the queued commands by slot, then the bulk requests by age. -/
def killAll (s : Scheduler τ) (status : CompletionStatus) : Scheduler τ :=
  let (items, queue) := s.queue.drain
  let (ids, pending) := s.pending.drain
  let outcomes := items.filterMap fun item => item.origin.outcome status none
  let requests := ids.map fun id => Completion.request id status
  ({ s with queue, pending }.tell (outcomes ++ requests)).updateGauges

/-- Ends the session towards the users, who are told once per session. -/
def endSession (s : Scheduler τ) (reason : DisconnectReason) : Scheduler τ :=
  let s := { s.killAll .disconnected with connection := .off, connectedAt := none }
  match s.session with
  | none => s
  | some _ =>
    ({ s with session := none }.countReason .disconnects reason.name).tell
      [.event (.disconnected reason)]

variable [Transport τ]

/-- Starts a session of the transport. -/
def openSession (s : Scheduler τ) : Except TransportFault Unit × Scheduler τ :=
  let s :=
    { s.killAll .disconnected with
      receiver := s.receiver.reset
      device := {}
      bootloaderSeen := false
      failures := 0
      connection := .connecting }
  match Transport.start s.transport with
  | (.error fault, transport) => (.error fault, { s with transport, connection := .off })
  | (.ok (), transport) =>
    (.ok (), { s with transport, session := some (Transport.session transport) })

/-- Ends the session and the transport's. The transport's report of it will not be heard. -/
def closeSession (s : Scheduler τ) : Scheduler τ :=
  let s := s.endSession .normal
  { s with transport := Transport.stop .normal s.transport }

/-- Ends a session in which too many commands in a row went unanswered, and starts another if that
is wanted. -/
def teardown (s : Scheduler τ) : Scheduler τ :=
  let reason : DisconnectReason := if s.bootloaderSeen then .bootloaderOnly else .timeout
  let s := { s with failures := 0 }.endSession reason
  let s := { s with transport := Transport.stop reason s.transport }
  if s.settings.autoReconnect then (s.countMetric .reconnects).openSession.2 else s

end SerialLink.Scheduler
