import SerialLink.Command.Table
import SerialLink.Text.Utf8

/-!
Writing commands.

```text
+----+-----+--------+--------+---------+-----------------------+
| id | seq | status | len_lo | len_hi  | fields of the layout  |
+----+-----+--------+--------+---------+-----------------------+
```

The stored length counts the whole command, header included. The acknowledgment ends after the
status byte.
-/
namespace SerialLink

/-- Why a command cannot be written. Fields are given by their place in the layout. -/
inductive EncodeError where
  | unknownCommand (id : UInt8)
  /-- There is no room for what precedes the fields. -/
  | headerOverflow (limit : Nat)
  /-- There is room up to this field only. -/
  | fieldOverflow (index limit : Nat)
  /-- Raw data is longer than a field may hold. -/
  | dataTooLarge (length most : Nat)
  /-- The value at this place is missing, surplus or of another kind than its field. -/
  | layoutMismatch (index : Nat)
  /-- Text holds the byte that would close it. -/
  | interiorNul (index : Nat)
  /-- An element of a list is too large for the width of the field's words. -/
  | elementOutOfRange (index element : Nat)
  /-- A list is longer than its count can tell. -/
  | listTooLong (index length : Nat)
  deriving DecidableEq, Repr

def EncodeError.message : EncodeError → String
  | .unknownCommand id => s!"unknown command id: 0x{hexByte id}"
  | .headerOverflow limit => s!"header does not fit in {limit} bytes"
  | .fieldOverflow index limit => s!"field {index} does not fit in {limit} bytes"
  | .dataTooLarge length most => s!"raw buffer of {length} bytes exceeds capacity {most}"
  | .layoutMismatch index => s!"value {index} does not match the command layout"
  | .interiorNul index => s!"string value {index} contains NUL"
  | .elementOutOfRange index element =>
    s!"repeated field {index} element {element} exceeds the field width"
  | .listTooLong index length => s!"repeated field {index} holds {length} elements"

/-- The bytes of a value in the field at place `index` of its layout. -/
def Field.encode (index : Nat) : Field → Value → Except EncodeError Bytes
  | .word .one, .u8 n => .ok (littleEndian 1 n.toNat)
  | .word .two, .u16 n => .ok (littleEndian 2 n.toNat)
  | .word .four, .u32 n => .ok (littleEndian 4 n.toNat)
  | .word .eight, .u64 n => .ok (littleEndian 8 n.toNat)
  | .text, .text s =>
    let bytes := Utf8.encode s
    if bytes.contains 0 then .error (.interiorNul index) else .ok (bytes ++ [0])
  | .words width, .words items =>
    if items.length > 255 then .error (.listTooLong index items.length)
    else
      match items.find? fun item => item.toNat > width.largest with
      | some item => .error (.elementOutOfRange index item.toNat)
      | none =>
        .ok (.ofNat items.length ::
          items.flatMap fun item => littleEndian width.bytes item.toNat)
  | .data, .data bytes =>
    if bytes.length > Command.maxData then .error (.dataTooLarge bytes.length Command.maxData)
    else .ok (littleEndian 2 bytes.length ++ bytes)
  | _, _ => .error (.layoutMismatch index)

namespace Layout

/-- Writes values as fields from place `index` on, behind `used` bytes and within `limit`. A fault
of a value is reported before lack of room for it. -/
def encodeFrom (limit : Nat) (index used : Nat) : Layout → List Value → Except EncodeError Bytes
  | field :: fields, value :: values =>
    match field.encode index value with
    | .error e => .error e
    | .ok bytes =>
      if used + bytes.length > limit then .error (.fieldOverflow index limit)
      else
        (encodeFrom limit (index + 1) (used + bytes.length) fields values).map (bytes ++ ·)
  | _, _ => .ok []

end Layout

namespace CommandTable

/-- Writes a command in at most `limit` bytes. A limit above the largest length that can be stored
counts as that length. -/
def encode (table : CommandTable) (command : Command) (limit : Nat) : Except EncodeError Bytes :=
  let limit := min limit 65535
  let header := [command.id, command.seq, command.status]
  if limit < Command.headerLength then .error (.headerOverflow limit)
  else
    match table.get? command.id with
    | none => .error (.unknownCommand command.id)
    | some spec =>
      let layout := spec.layout.getD []
      if command.id = Command.acknowledge then .ok header
      else if limit < Command.prologueLength then .error (.headerOverflow limit)
      else if command.values.length ≠ layout.length then
        .error (.layoutMismatch (min command.values.length layout.length))
      else
        match layout.encodeFrom limit 0 Command.prologueLength command.values with
        | .error e => .error e
        | .ok fields =>
          .ok (header ++ littleEndian 2 (Command.prologueLength + fields.length) ++ fields)

/-- Writes a command over the start of `target`. Gives the number of bytes written and the bytes of
`target` afterwards: all of them as before, and zero written, if the command does not fit. -/
def encodeInto (table : CommandTable) (command : Command) (target : Bytes) : Nat × Bytes :=
  match table.encode command target.length with
  | .ok bytes => (bytes.length, bytes ++ target.drop bytes.length)
  | .error _ => (0, target)

end CommandTable

end SerialLink
