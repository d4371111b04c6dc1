import SerialLink.Bytes
import SerialLink.Command.Field

/-! Values of fields, and which field each can be written as. -/
namespace SerialLink

/-- The value of one field. Elements of a list are kept as 64-bit words, whatever their width. -/
inductive Value where
  | u8 (n : UInt8)
  | u16 (n : UInt16)
  | u32 (n : UInt32)
  | u64 (n : UInt64)
  | text (s : String)
  | words (items : List UInt64)
  | data (bytes : Bytes)
  deriving DecidableEq, Repr

namespace Value

/-- The word of the given width with the given number, modulo its range. -/
def ofNat (n : Nat) : Width → Value
  | .one => .u8 (.ofNat n)
  | .two => .u16 (.ofNat n)
  | .four => .u32 (.ofNat n)
  | .eight => .u64 (.ofNat n)

/-- The value of a field in a request that carries no information of its own. -/
def zero : Field → Value
  | .word width => .ofNat 0 width
  | .text => .text ""
  | .words _ => .words []
  | .data => .data []

/-- Whether the value can be written as the field. -/
def fits : Value → Field → Bool
  | .u8 _, .word .one => true
  | .u16 _, .word .two => true
  | .u32 _, .word .four => true
  | .u64 _, .word .eight => true
  | .text _, .text => true
  | .words _, .words _ => true
  | .data _, .data => true
  | _, _ => false

/-- The number that a word holds. -/
def toNat? : Value → Option Nat
  | .u8 n => some n.toNat
  | .u16 n => some n.toNat
  | .u32 n => some n.toNat
  | .u64 n => some n.toNat
  | _ => none

/-- The number that a one-byte word holds. -/
def u8? : Value → Option UInt8
  | .u8 n => some n
  | _ => none

/-- The text of a text value. -/
def text? : Value → Option String
  | .text s => some s
  | _ => none

/-- The bytes of a raw data value. -/
def data? : Value → Option Bytes
  | .data bytes => some bytes
  | _ => none

@[simp] theorem fits_zero (field : Field) : (zero field).fits field = true := by
  rcases field with (_ | _ | _ | _) | _ | (_ | _ | _ | _) | _ <;> rfl

end Value

end SerialLink
