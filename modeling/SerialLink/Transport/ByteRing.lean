import SerialLink.Bytes

/-! A buffer of bytes with bounded room, oldest first. -/
namespace SerialLink

structure ByteRing where
  /-- Most bytes that it holds. -/
  capacity : Nat
  bytes : Bytes := []
  /-- Bytes that were turned away by `pushLossy`. -/
  dropped : Nat := 0
  deriving DecidableEq, Repr

namespace ByteRing

def isEmpty (r : ByteRing) : Bool := r.bytes.isEmpty

/-- Room left. -/
def free (r : ByteRing) : Nat := r.capacity - r.bytes.length

/-- Adds all of the data, if there is room for all of it. -/
def pushAll? (r : ByteRing) (data : Bytes) : Option ByteRing :=
  if data.length > r.free then none else some { r with bytes := r.bytes ++ data }

theorem pushAll?_of_room {r : ByteRing} {data : Bytes} (room : data.length ≤ r.free) :
    r.pushAll? data = some { r with bytes := r.bytes ++ data } :=
  if_neg (Nat.not_lt.mpr room)

theorem pushAll?_of_short {r : ByteRing} {data : Bytes} (short : r.free < data.length) :
    r.pushAll? data = none :=
  if_pos short

/-- Adds as much of the data as there is room for, and counts the rest as dropped. -/
def pushLossy (r : ByteRing) (data : Bytes) : ByteRing :=
  { r with
    bytes := r.bytes ++ data.take r.free
    dropped := r.dropped + (data.length - r.free) }

/-- Takes all bytes. -/
def drain (r : ByteRing) : Bytes × ByteRing := (r.bytes, { r with bytes := [] })

/-- Drops all bytes, without counting them. -/
def clear (r : ByteRing) : ByteRing := { r with bytes := [] }

end ByteRing

end SerialLink
