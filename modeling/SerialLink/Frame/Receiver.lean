import SerialLink.Frame

/-!
Receiving frames one byte at a time. A `Receiver` collects the body of the frame in progress with
its stuffing undone, and hands out the payload at the closing delimiter if the checksum agrees.

Three things are counted and end in no payload: a body whose checksum differs, an escape marker
that no substitute follows, and bytes beyond the receiver's capacity, which are left out of the
body.
-/
namespace SerialLink

/-- What a receiver has counted since it was made. -/
structure ReceiverCounts where
  /-- Frames handed out. -/
  frames : Nat := 0
  /-- Bodies dropped because their checksum differs. -/
  checksumErrors : Nat := 0
  /-- Bodies dropped because no substitute followed an escape marker. -/
  escapeErrors : Nat := 0
  /-- Bytes left out because the body had reached the capacity. -/
  overflowBytes : Nat := 0
  deriving DecidableEq, Repr

/-- A frame receiver. -/
structure Receiver where
  /-- Most bytes that a body may hold, checksum included. -/
  capacity : Nat := 512
  /-- The body in progress. -/
  buffer : Array UInt8 := #[]
  /-- The last byte was an escape marker. -/
  escaped : Bool := false
  /-- Bytes of the body in progress were left out. -/
  exceeded : Bool := false
  counts : ReceiverCounts := {}
  deriving DecidableEq, Repr

namespace Receiver

/-- Drops the body in progress. -/
def reset (r : Receiver) : Receiver :=
  { r with buffer := #[], escaped := false, exceeded := false }

/-- Adds a byte to the body in progress, or counts it if there is no room. -/
def append (r : Receiver) (b : UInt8) : Receiver :=
  if r.buffer.size < r.capacity then { r with buffer := r.buffer.push b }
  else
    { r with
      exceeded := true
      counts := { r.counts with overflowBytes := r.counts.overflowBytes + 1 } }

/-- Counts a broken escape sequence and drops the body in progress. -/
def rejectEscape (r : Receiver) : Receiver :=
  reset { r with counts := { r.counts with escapeErrors := r.counts.escapeErrors + 1 } }

/-- Ends the body in progress. One too short for a checksum is passed over silently: two delimiters
in a row enclose nothing. -/
def finish (r : Receiver) : Option Bytes × Receiver :=
  let body := r.buffer.toList
  let payload := body.take (body.length - Frame.trailerLength)
  if body.length < Frame.trailerLength then (none, r.reset)
  else if body.drop payload.length = Frame.trailer payload then
    (some payload,
      reset { r with counts := { r.counts with frames := r.counts.frames + 1 } })
  else
    (none,
      reset { r with counts := { r.counts with checksumErrors := r.counts.checksumErrors + 1 } })

/-- Takes one byte from the line, and gives the payload that it completes, if any. -/
def feed (r : Receiver) (b : UInt8) : Option Bytes × Receiver :=
  if b = Frame.delimiter then
    if r.escaped then (none, r.rejectEscape) else r.finish
  else if r.escaped then
    let r := { r with escaped := false }
    if b = Frame.escapedDelimiter then (none, r.append Frame.delimiter)
    else if b = Frame.escapedEscape then (none, r.append Frame.escape)
    else (none, r.rejectEscape)
  else if b = Frame.escape then (none, { r with escaped := true })
  else (none, r.append b)

/-- Takes bytes from the line, and gives the payloads that they complete, in order. -/
def feedAll (r : Receiver) (bytes : Bytes) : List Bytes × Receiver :=
  bytes.foldl
    (fun (payloads, r) b =>
      let (payload, r) := r.feed b
      (payloads ++ payload.toList, r))
    ([], r)

end Receiver

end SerialLink
