import SerialLink.Transport.Port

/-!
One session of a transport over a port: steps of its worker and calls of its owner, in any order and
whatever the port and the clock answer. A session keeps each of them with what came of it, so that
what went in can be compared with what came out.
-/
namespace SerialLink

/-- Bytes that the worker has read for the owner, and how many of them there was room for. -/
structure Arrival where
  chunk : Bytes
  room : Nat
  deriving DecidableEq, Repr

namespace Arrival

/-- What the owner will receive of it. -/
def kept (arrival : Arrival) : Bytes := arrival.chunk.take arrival.room

/-- What is lost of it. -/
def cutOff (arrival : Arrival) : Bytes := arrival.chunk.drop arrival.room

end Arrival

namespace PortTransport

/-- What happens in a session. -/
inductive Act where
  /-- The worker makes a step, and the port and the clock answer this. -/
  | work (answers : PortAnswers)
  | requestStop (reason : DisconnectReason)
  | send (frame : Bytes)
  | receive
  | nextEvent

/-- What comes of it. -/
inductive Outcome where
  | nothing
  | worked (arrival : Option Arrival)
  | sent (result : Except TransportFault Unit)
  | received (bytes : Bytes)
  | heard (event : Option SessionEvent)

/-- What the worker reads for the owner in its next step, if the port answers this. -/
def arrival? (t : PortTransport) (answers : PortAnswers) : Option Arrival :=
  match t.phase, answers.read with
  | .reading true, .ok (b :: chunk) => some ⟨b :: chunk, t.inbound.free⟩
  | _, _ => none

/-- Does it. -/
def perform (t : PortTransport) : Act → Outcome × PortTransport
  | .work answers => (.worked (t.arrival? answers), t.step answers)
  | .requestStop reason => (.nothing, t.requestStop reason)
  | .send frame => (t.send frame).map .sent id
  | .receive => t.receive.map .received id
  | .nextEvent =>
    match t.nextEvent? with
    | none => (.heard none, t)
    | some (event, t) => (.heard (some event), t)

/-- What was done, with what came of it, oldest first. -/
abbrev Trace := List (Act × Outcome)

/-- The transport starts a session while it has none, and the trace leads to this state. -/
inductive Session (idle : PortTransport) : Trace → PortTransport → Prop where
  | started (free : idle.phase = .ended) : Session idle [] idle.start.2
  | next {trace : Trace} {t : PortTransport} (session : Session idle trace t) (act : Act) :
    Session idle (trace ++ [(act, (t.perform act).1)]) (t.perform act).2

/-- Does one act after the other. -/
def performAll (t : PortTransport) : List Act → Trace × PortTransport
  | [] => ([], t)
  | act :: acts =>
    let (outcome, next) := t.perform act
    let (trace, last) := next.performAll acts
    ((act, outcome) :: trace, last)

namespace Trace

/-- The frames that were taken to be sent, oldest first. -/
def accepted (trace : Trace) : List Bytes :=
  trace.filterMap fun
    | (.send frame, .sent (.ok ())) => some frame
    | _ => none

/-- The bytes that the owner has received, oldest first. -/
def received (trace : Trace) : Bytes :=
  trace.flatMap fun
    | (_, .received bytes) => bytes
    | _ => []

/-- What the worker has read for the owner, oldest first. -/
def arrivals (trace : Trace) : List Arrival :=
  trace.filterMap fun
    | (_, .worked arrival) => arrival
    | _ => none

/-- The reports that the owner has heard, oldest first. -/
def heard (trace : Trace) : List SessionEvent :=
  trace.filterMap fun
    | (_, .heard event) => event
    | _ => none

/-- The owner has heard that bytes of the session can be received, and has not received any
since. -/
def Prompted (session : Nat) (trace : Trace) : Prop :=
  ∃ earlier later : Trace,
    trace = earlier ++ (.nextEvent, .heard (some ⟨session, .readable⟩)) :: later ∧
      ∀ entry ∈ later, ∀ bytes, entry ≠ (.receive, .received bytes)

end Trace

end PortTransport

end SerialLink
