import SerialLink.Channel
import SerialLink.Transport

/-!
A transport without a port: a simulated device takes the frames and answers them at once, or not at
all. Faults can be armed, and everything that happens is kept to be looked at.
-/
namespace SerialLink

/-- What the simulated device does with a frame. -/
inductive DeviceMode where
  /-- Nothing. -/
  | silent
  /-- Confirms it. -/
  | echo
  /-- Breaks the connection. -/
  | drop
  deriving DecidableEq, Repr

/-- How what the device sends differs from a command that was sent to it. -/
structure Deviation where
  /-- All values. -/
  values : Option (List Value) := none
  /-- The first value, if that has one byte. -/
  state : Option UInt8 := none
  /-- Added to the sequence number. -/
  seqAdd : UInt8 := 0
  /-- The status byte of the header. -/
  status : Option UInt8 := none

/-- Puts the state byte in the place of a first value of one byte. -/
def withState (state : UInt8) : List Value → List Value
  | .u8 _ :: rest => .u8 state :: rest
  | values => values

/-- What the device sends. -/
def Deviation.apply (d : Deviation) (command : Command) : Command :=
  let values := d.values.getD command.values
  let values := match d.state with
    | some state => withState state values
    | none => values
  { command with seq := command.seq + d.seqAdd, status := d.status.getD command.status, values }

/-- The transport and the device behind it. -/
structure SimulatedTransport where
  table : CommandTable := .builtin
  state : TransportState := .closed
  session : Nat := 0
  /-- Reports not handed over yet, oldest first. -/
  events : List SessionEvent := []
  /-- Bytes from the device not handed over yet. -/
  inbound : Bytes := []
  /-- Every frame taken, oldest first. -/
  frames : List Bytes := []
  /-- How often a session was asked for. -/
  opens : Nat := 0
  /-- Why sessions were ended from this side. -/
  closes : List DisconnectReason := []
  /-- A session is operational from its start. -/
  autoConnect : Bool := false
  mode : DeviceMode := .silent
  /-- The device state byte in the device's answers. -/
  deviceState : UInt8 := 0
  /-- So many starts will fail, with this fault. -/
  failingStarts : Nat := 0
  startFault : TransportFault := .alreadyOpen
  /-- So many sends will fail. -/
  failingSends : Nat := 0

namespace SimulatedTransport

/-- Reports something about the current session. -/
def report (t : SimulatedTransport) (event : TransportEvent) : SimulatedTransport :=
  { t with events := t.events ++ [⟨t.session, event⟩] }

/-- The payload of a frame. -/
def payload? (frame : Bytes) : Option Bytes := (({} : Receiver).feedAll frame).1.head?

/-- The command in a frame. One that is a header and nothing else has no values. -/
def command? (t : SimulatedTransport) (frame : Bytes) : Option Command :=
  match payload? frame with
  | none => none
  | some payload =>
    match t.table.decode payload, payload with
    | .ok command, _ => some command
    | .error (.noLayout _), id :: seq :: status :: _ => some { id, seq, status }
    | .error _, _ => none

/-- The device's answer to a command. -/
def answer (t : SimulatedTransport) (command : Command) : Command :=
  let values :=
    if command.id = Command.deviceStatus then [.u8 t.deviceState, .u8 0]
    else if command.id = Command.version then [.u32 0x26700500]
    else withState t.deviceState command.values
  { command with values }

/-- The device sends bytes, without a report. -/
def arrive (t : SimulatedTransport) (bytes : Bytes) : SimulatedTransport :=
  { t with inbound := t.inbound ++ bytes }

/-- The device sends a command; one that cannot be written is not sent. -/
def arriveCommand (t : SimulatedTransport) (command : Command) : SimulatedTransport :=
  match ({ table := t.table : Channel }).encode command with
  | .ok frame => t.arrive frame
  | .error _ => t

/-- The frame of the given number among those taken; a negative number counts from the last one
back. -/
def frame? (t : SimulatedTransport) (number : Int) : Option Bytes :=
  if number ≥ 0 then t.frames[number.toNat]?
  else if t.frames.length < number.natAbs then none
  else t.frames[t.frames.length - number.natAbs]?

/-- The command in the frame of the given number. -/
def sent? (t : SimulatedTransport) (number : Int) : Option Command :=
  (t.frame? number).bind t.command?

/-- Starts a session. -/
def start (t : SimulatedTransport) : Except TransportFault Unit × SimulatedTransport :=
  let t := { t with opens := t.opens + 1 }
  if t.failingStarts > 0 then
    (.error t.startFault, { t with failingStarts := t.failingStarts - 1 })
  else
    let t := { t with session := t.session + 1, state := .opening }
    (.ok (), if t.autoConnect then { t with state := .operational }.report .connected else t)

/-- Ends the session. -/
def stop (reason : DisconnectReason) (t : SimulatedTransport) : SimulatedTransport :=
  if t.state = .closed then t
  else { t with state := .closed, closes := t.closes ++ [reason] }.report (.disconnected reason)

/-- Takes a frame. -/
def send (frame : Bytes) (t : SimulatedTransport) :
    Except TransportFault Unit × SimulatedTransport :=
  if t.state ≠ .operational then (.error .notConnected, t)
  else if t.failingSends > 0 then
    (.error (.outboundFull frame.length 0), { t with failingSends := t.failingSends - 1 })
  else
    let t := { t with frames := t.frames ++ [frame] }
    match t.mode with
    | .silent => (.ok (), t)
    | .drop => (.ok (), { t with state := .closed }.report (.disconnected .ioError))
    | .echo =>
      match t.command? frame with
      | none => (.ok (), t)
      | some command => (.ok (), (t.arriveCommand (t.answer command)).report .readable)

instance : Transport SimulatedTransport where
  start := start
  session := SimulatedTransport.session
  stop := stop
  send := send
  receive t := (t.inbound, { t with inbound := [] })
  nextEvent? t :=
    match t.events with
    | [] => none
    | event :: events => some (event, { t with events })

end SimulatedTransport

end SerialLink
