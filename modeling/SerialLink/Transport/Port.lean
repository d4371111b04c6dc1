import SerialLink.Metric
import SerialLink.Transport
import SerialLink.Transport.Banner
import SerialLink.Transport.ByteRing

/-!
A transport over a port, such as a serial line, that can only be read and written by waiting. A
worker does that beside the owner of the transport; the two share the session's state, a ring of
bytes in each direction, and a wish to stop.

The worker opens the port, writes a probe for the update loader, and waits for its banner until
the session is operational. From then on it goes round and round: it takes what is to be sent,
writes it, reads what has arrived, and looks at the clock.

`PortTransport.step` is one step of the worker: it does at most one thing that the owner can
observe, so the owner's calls may fall between any two steps. What the port and the clock answer is
given to the step.
-/
namespace SerialLink

/-- Why the port could not be read. -/
inductive PortFault where
  | timedOut
  | wouldBlock
  | interrupted
  | brokenPipe
  | notFound
  | permissionDenied
  | unexpectedEnd
  deriving DecidableEq, Repr

/-- Nothing is wrong with the port; there was nothing to read. -/
def PortFault.isTransient : PortFault → Bool
  | .timedOut | .wouldBlock | .interrupted => true
  | _ => false

/-- What the port and the clock answer when the worker asks them next. -/
structure PortAnswers where
  /-- The port is opened, or why not. -/
  opened : Except TransportFault Unit := .ok ()
  /-- The port takes what is written, all of it or nothing. -/
  written : Bool := true
  /-- The bytes read, if any have arrived. -/
  read : Except PortFault Bytes := .error .timedOut
  /-- The time in milliseconds. -/
  now : Nat := 0

/-- What the worker does next. `operational` is the state of the session as it was when the round
began. -/
inductive WorkerPhase where
  /-- There is no session to work on. -/
  | ended
  | opening
  /-- Write the probe. -/
  | probing
  /-- Begin a round: look for a wish to stop, and take what is to be sent. -/
  | beginning
  | writing (operational : Bool)
  | reading (operational : Bool)
  /-- Report what was read. -/
  | reporting (operational : Bool) (event : TransportEvent)
  /-- Look at the clock. -/
  | timing (operational : Bool)
  /-- Report that the session is operational, which it is already. -/
  | announcing
  /-- Close the session. -/
  | closing (reason : DisconnectReason)
  /-- Report that the session has ended, which it has already. -/
  | leaving (reason : DisconnectReason)
  deriving DecidableEq, Repr

/-- A transport over a port. -/
structure PortTransport where
  settings : TransportSettings := {}
  labels : LinkLabels := {}
  /-- Number of the session that runs, or of the last one. -/
  session : Nat := 0
  /-- Reports not handed over yet, oldest first. -/
  events : List SessionEvent := []
  state : TransportState := .closed
  inbound : ByteRing := { capacity := 4096 }
  outbound : ByteRing := { capacity := 4096 }
  /-- The worker is to end the session for this reason. -/
  stopWish : Option DisconnectReason := none
  phase : WorkerPhase := .ended
  /-- The time from which on the session is operational. -/
  deadline : Nat := 0
  watch : BannerWatch := {}
  /-- Bytes that the worker has taken and not written yet. -/
  outgoing : Bytes := []
  /-- Failed writes in a row. -/
  writeErrors : Nat := 0
  /-- What the port took in this session, one entry for each write. -/
  written : List Bytes := []
  metrics : Recording := {}
  deriving DecidableEq, Repr

namespace PortTransport

/-- The identification request to which the update loader answers with its banner. -/
def probe : Bytes := [0x49, 0x44, 0x0D, 0x0A]

/-- Most bytes read at a time. -/
def readLength : Nat := 512

/-! ### The owner's calls -/

/-- Starts a session, unless the worker of another one has not ended. -/
def start (t : PortTransport) : Except TransportFault Unit × PortTransport :=
  if t.phase ≠ .ended then (.error .alreadyOpen, t)
  else
    (.ok (),
      { t with
        session := t.session + 1
        state := .opening
        inbound := t.inbound.clear
        outbound := t.outbound.clear
        stopWish := none
        phase := .opening
        watch := {}
        outgoing := []
        writeErrors := 0
        written := [] })

/-- Wishes the session to end. -/
def requestStop (reason : DisconnectReason) (t : PortTransport) : PortTransport :=
  if t.phase = .ended then t else { t with stopWish := some reason }

/-- Takes a frame to be sent. -/
def send (frame : Bytes) (t : PortTransport) : Except TransportFault Unit × PortTransport :=
  if t.state ≠ .operational then (.error .notConnected, t)
  else
    match t.outbound.pushAll? frame with
    | none => (.error (.outboundFull frame.length t.outbound.free), t)
    | some outbound => (.ok (), { t with outbound })

/-- Hands over the bytes received. -/
def receive (t : PortTransport) : Bytes × PortTransport :=
  let (bytes, inbound) := t.inbound.drain
  (bytes, { t with inbound })

/-- Hands over the oldest report. -/
def nextEvent? (t : PortTransport) : Option (SessionEvent × PortTransport) :=
  match t.events with
  | [] => none
  | event :: events => some (event, { t with events })

/-! ### The worker's steps -/

/-- Reports something about the session. -/
def report (t : PortTransport) (event : TransportEvent) : PortTransport :=
  { t with events := t.events ++ [⟨t.session, event⟩] }

/-- Opens the port. -/
def openPort (t : PortTransport) (opened : Except TransportFault Unit) : PortTransport :=
  match opened with
  | .ok () => { t with state := .probing, phase := .probing }
  | .error fault => { t with phase := .closing fault.disconnectReason }

/-- Writes the probe. -/
def writeProbe (t : PortTransport) (written : Bool) (now : Nat) : PortTransport :=
  if written then
    { t with
      written := t.written ++ [probe]
      state := .awaitingBootloader
      deadline := now + t.settings.bootloaderWait
      phase := .beginning }
  else { t with phase := .closing .ioError }

/-- Begins a round. -/
def beginRound (t : PortTransport) : PortTransport :=
  match t.stopWish with
  | some reason => { t with phase := .closing reason }
  | none =>
    let (bytes, outbound) := t.outbound.drain
    let outgoing := t.outgoing ++ bytes
    let operational : Bool := t.state = .operational
    { t with
      outbound
      outgoing
      phase := if outgoing.isEmpty then .reading operational else .writing operational }

/-- Writes what has been taken. What could not be written is kept for the next round. -/
def writeOutgoing (t : PortTransport) (operational written : Bool) : PortTransport :=
  if written then
    { t with
      written := t.written ++ [t.outgoing]
      metrics := t.metrics.add .bytesSent t.labels.toList t.outgoing.length
      outgoing := []
      writeErrors := 0
      phase := .reading operational }
  else
    let writeErrors := t.writeErrors + 1
    if writeErrors ≥ t.settings.maxWriteErrors then
      { t with writeErrors, phase := .closing .ioError }
    else { t with writeErrors, phase := .reading operational }

/-- Takes bytes read from the port: for the owner, who is told if there were none before, or in
search of the banner. -/
def takeBytes (t : PortTransport) (operational : Bool) (bytes : Bytes) : PortTransport :=
  let t := { t with metrics := t.metrics.add .bytesReceived t.labels.toList bytes.length }
  if operational then
    { t with
      inbound := t.inbound.pushLossy bytes
      phase := if t.inbound.isEmpty then .reporting true .readable else .timing true }
  else
    let (found, watch) := t.watch.feed bytes
    { t with
      watch
      phase := if found then .reporting false .bootloaderActive else .timing false }

/-- Reads the port. -/
def readPort (t : PortTransport) (operational : Bool) (read : Except PortFault Bytes) :
    PortTransport :=
  match read with
  | .ok [] => { t with phase := .timing operational }
  | .ok bytes => t.takeBytes operational bytes
  | .error fault =>
    if fault.isTransient then { t with phase := .timing operational }
    else { t with phase := .closing .ioError }

/-- Looks at the clock, and makes the session operational if it is time. -/
def lookAtClock (t : PortTransport) (operational : Bool) (now : Nat) : PortTransport :=
  if !operational && now ≥ t.deadline then
    { t with state := .operational, phase := .announcing }
  else { t with phase := .beginning }

/-- One step of the worker. -/
def step (answers : PortAnswers) (t : PortTransport) : PortTransport :=
  match t.phase with
  | .ended => t
  | .opening => t.openPort answers.opened
  | .probing => t.writeProbe answers.written answers.now
  | .beginning => t.beginRound
  | .writing operational => t.writeOutgoing operational answers.written
  | .reading operational => t.readPort operational answers.read
  | .reporting operational event => { t.report event with phase := .timing operational }
  | .timing operational => t.lookAtClock operational answers.now
  | .announcing => { t.report .connected with phase := .beginning }
  | .closing reason =>
    { t with state := .closed, outbound := t.outbound.clear, phase := .leaving reason }
  | .leaving reason => { t.report (.disconnected reason) with phase := .ended }

/-- The worker waits in a read of the port, or has ended. -/
def isWaiting (t : PortTransport) : Bool :=
  match t.phase with
  | .ended | .reading _ => true
  | _ => false

instance : Transport PortTransport where
  start := start
  session := PortTransport.session
  stop := requestStop
  send := send
  receive := receive
  nextEvent? := nextEvent?

end PortTransport

end SerialLink
