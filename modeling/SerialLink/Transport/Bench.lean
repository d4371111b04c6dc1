import SerialLink.Transport.Port

/-!
A bench for the transport over a port: a clock that stands still until it is moved, and a port whose
answers are set. Between two calls the worker waits in a read of the port, or has ended.
-/
namespace SerialLink

/-- The bench. -/
structure PortBench where
  transport : PortTransport
  now : Nat := 0
  /-- Opening the port gives this. -/
  opened : Except TransportFault Unit := .ok ()
  /-- So many writes of the port will fail. -/
  failingWrites : Nat := 0

namespace PortBench

/-- One step of the worker, with the given answer to a read. -/
def step (bench : PortBench) (read : Except PortFault Bytes) : PortBench :=
  let fails : Bool := bench.failingWrites > 0
  let writes : Bool := match bench.transport.phase with
    | .probing | .writing _ => true
    | _ => false
  let answers : PortAnswers :=
    { opened := bench.opened, written := !fails, read, now := bench.now }
  { bench with
    transport := bench.transport.step answers
    failingWrites := bench.failingWrites - if writes then 1 else 0 }

/-- Steps until the worker waits in a read. From any phase there are fewer than ten steps to it. -/
def settle (bench : PortBench) : PortBench :=
  (List.range 10).foldl
    (fun bench _ => if bench.transport.isWaiting then bench else bench.step (.error .timedOut))
    bench

/-- The read in which the worker waits gives this answer. -/
def answer (bench : PortBench) (read : Except PortFault Bytes) : PortBench :=
  if bench.transport.phase = .ended then bench else (bench.step read).settle

/-- The bytes arrive, and are read in pieces of the length that is read at a time. -/
def arrive (bench : PortBench) (bytes : Bytes) : PortBench :=
  pieces bytes.length bytes |>.foldl (fun bench piece => bench.answer (.ok piece)) bench
where
  pieces : (most : Nat) → Bytes → List Bytes
    | 0, _ => []
    | _, [] => []
    | most + 1, bytes =>
      bytes.take PortTransport.readLength :: pieces most (bytes.drop PortTransport.readLength)

/-- Starts a session on a port that opens as given, and whose first write fails if `probeFails`. -/
def start (bench : PortBench) (opened : Except TransportFault Unit) (probeFails : Bool) :
    Except TransportFault Unit × PortBench :=
  match bench.transport.start with
  | (.error fault, _) => (.error fault, bench)
  | (.ok (), transport) =>
    (.ok (), { bench with
      transport, opened, failingWrites := if probeFails then 1 else 0 }.settle)

/-- Ends the session, after one more round in which the port takes everything. -/
def stop (bench : PortBench) (reason : DisconnectReason) : PortBench :=
  if bench.transport.phase = .ended then bench
  else
    let bench := { bench with failingWrites := 0 }.answer (.error .timedOut)
    { bench with transport := bench.transport.requestStop reason }.answer (.error .timedOut)

end PortBench

end SerialLink
