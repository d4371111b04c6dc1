import SerialLink.Scheduler

/-! Bytes from the device: frames, the commands in them, and the commands that they confirm. -/
namespace SerialLink.Scheduler

variable {τ : Type}

/-- Ends the item that waits for this confirm, if one does. -/
def confirm (s : Scheduler τ) (command : Command) (now : Nat) : Scheduler τ :=
  match s.queue.findConfirm? command.id command.seq with
  | none => s
  | some slot =>
    match s.queue.remove slot with
    | (none, queue) => { s with queue }
    | (some item, queue) =>
      let s := { s with queue }
      let s :=
        match item.firstSentAt with
        | none => s
        | some sent =>
          let labels := s.labels.withCommand (s.table.name command.id)
          { s with metrics := s.metrics.sample .confirmLatency labels (now - sent) }
      { s with
        failures := 0
        lastConfirm := some now
        counts := { s.counts with confirmed := s.counts.confirmed + 1 }
        wake := true }.finish item .success (some command)

/-- Takes over the device status that the command carries, and tells of it if it is a new one. -/
def updateDevice (s : Scheduler τ) (command : Command) : Scheduler τ :=
  match s.table.statusUpdate? command with
  | none => s
  | some update =>
    let device := s.device.apply update
    if device = s.device then s
    else { s with device, wake := true }.tell [.event (.deviceStatusChanged device)]

/-- Acts on a command of the device. -/
def dispatch (s : Scheduler τ) (command : Command) (now : Nat) : Scheduler τ :=
  let s := s.countCommand .commandsReceived command.id
  ((s.confirm command now).updateDevice command).tell [.event (.command command)]

/-- Acts on the payload of a frame. -/
def acceptPayload (s : Scheduler τ) (payload : Bytes) (now : Nat) : Scheduler τ :=
  let s := s.countMetric .framesReceived
  match s.table.decode payload with
  | .ok command => s.dispatch command now
  | .error _ =>
    { s with counts := { s.counts with decodeErrors := s.counts.decodeErrors + 1 } }.countMetric
      .decodeErrors

/-- Acts on one byte of the device. -/
def acceptByte (now : Nat) (s : Scheduler τ) (b : UInt8) : Scheduler τ :=
  match s.receiver.feed b with
  | (none, receiver) => { s with receiver }
  | (some payload, receiver) => { s with receiver }.acceptPayload payload now

/-- Counts what the receiver has dropped since it had the given counts. -/
def countReceiverErrors (s : Scheduler τ) (before : ReceiverCounts) : Scheduler τ :=
  let after := s.receiver.counts
  let count (metric : Metric) (before after : Nat) (s : Scheduler τ) : Scheduler τ :=
    if after > before then s.addMetric metric (after - before) else s
  count .overflowBytes before.overflowBytes after.overflowBytes
    (count .escapeErrors before.escapeErrors after.escapeErrors
      (count .checksumErrors before.checksumErrors after.checksumErrors s))

variable [Transport τ]

/-- Acts on the bytes that the transport has received. -/
def processInbound (s : Scheduler τ) (now : Nat) : Scheduler τ :=
  let (data, transport) := Transport.receive s.transport
  let s := { s with transport }
  if data.isEmpty then s
  else (data.foldl (acceptByte now) s).countReceiverErrors s.receiver.counts

end SerialLink.Scheduler
