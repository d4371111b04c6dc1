import SerialLink.Command.Table
import SerialLink.Text.Utf8

/-!
Reading commands. A `Cursor` moves through the bytes field by field; bytes behind the last field are
passed over.

The stored length is looked at if there are bytes for it. A header with at most one byte behind it
has none, and that byte belongs to the fields already.
-/
namespace SerialLink

/-- Why bytes are no command. -/
inductive DecodeError where
  /-- There are fewer bytes than a header has. -/
  | bufferTooSmall (expected actual : Nat)
  | unknownCommand (id : UInt8)
  /-- The command is a header and nothing else, so there is nothing to read. -/
  | noLayout (id : UInt8)
  | wrongStoredLength (stored actual : Nat)
  /-- A word at this place of the layout has too few bytes left. -/
  | wordOverflow (index : Nat)
  /-- There are too few bytes left for the length of raw data. -/
  | dataIncomplete
  /-- Raw data is said to be longer than what is left. -/
  | dataOverflow (length remaining : Nat)
  /-- Raw data is longer than a field may hold. -/
  | dataTooLarge (length most : Nat)
  /-- Text is not closed, or a list breaks off, and reading stopped at this offset. -/
  | readOverflow (offset : Nat)
  deriving DecidableEq, Repr

def DecodeError.message : DecodeError → String
  | .bufferTooSmall expected actual =>
    s!"buffer too small: expected at least {expected} bytes, got {actual}"
  | .unknownCommand id => s!"unknown command id: 0x{hexByte id}"
  | .noLayout id => s!"command 0x{hexByte id} has no field layout"
  | .wrongStoredLength stored actual =>
    s!"stored length {stored} does not match buffer length {actual}"
  | .wordOverflow index => s!"scalar field {index} overflows the input"
  | .dataIncomplete => "raw buffer length field incomplete"
  | .dataOverflow length remaining =>
    s!"raw buffer length {length} exceeds remaining {remaining} bytes"
  | .dataTooLarge length most => s!"raw buffer length {length} exceeds capacity {most}"
  | .readOverflow offset => s!"read past end of input at offset {offset}"

/-- A place in the bytes of a command. -/
structure Cursor where
  /-- Bytes before the place. -/
  offset : Nat
  /-- Bytes from the place on. -/
  rest : Bytes
  deriving DecidableEq, Repr

namespace Cursor

/-- The place `count` bytes further on. -/
def advance (c : Cursor) (count : Nat) : Cursor := ⟨c.offset + count, c.rest.drop count⟩

/-- Reads `count` bytes. -/
def take (c : Cursor) (count : Nat) : Except DecodeError (Bytes × Cursor) :=
  if c.rest.length < count then .error (.readOverflow c.offset)
  else .ok (c.rest.take count, c.advance count)

/-- Reads a word. -/
def word (c : Cursor) (width : Width) : Except DecodeError (Nat × Cursor) :=
  (c.take width.bytes).map fun (bytes, c) => (ofLittleEndian bytes, c)

/-- Reads `count` words. -/
def words (width : Width) : (count : Nat) → Cursor → Except DecodeError (List UInt64 × Cursor)
  | 0, c => .ok ([], c)
  | count + 1, c => do
    let (n, c) ← c.word width
    let (items, c) ← words width count c
    .ok (.ofNat n :: items, c)

/-- Reads text up to its closing zero byte. Bytes that are not UTF-8 are replaced, since firmware
text is expected to be ASCII. -/
def text (c : Cursor) : Except DecodeError (String × Cursor) :=
  let bytes := c.rest.takeWhile (· ≠ 0)
  if bytes.length = c.rest.length then .error (.readOverflow (c.offset + c.rest.length))
  else .ok (Utf8.decode bytes, c.advance (bytes.length + 1))

/-- Reads raw data behind its length. -/
def data (c : Cursor) : Except DecodeError (Bytes × Cursor) :=
  if c.rest.length < 2 then .error .dataIncomplete
  else
    let length := ofLittleEndian (c.rest.take 2)
    let c := c.advance 2
    if length > c.rest.length then .error (.dataOverflow length c.rest.length)
    else if length > Command.maxData then .error (.dataTooLarge length Command.maxData)
    else .ok (c.rest.take length, c.advance length)

/-- Reads the field at place `index` of the layout of `id`. In a device status report a word with
too few bytes left uses them up and is zero: older firmware leaves the last fields out. -/
def field (id : UInt8) (index : Nat) (c : Cursor) : Field → Except DecodeError (Value × Cursor)
  | .word width =>
    if c.rest.length < width.bytes then
      if id = Command.deviceStatus then
        .ok (Value.zero (.word width), c.advance c.rest.length)
      else .error (.wordOverflow index)
    else
      .ok (Value.ofNat (ofLittleEndian (c.rest.take width.bytes)) width, c.advance width.bytes)
  | .text => c.text.map fun (s, c) => (.text s, c)
  | .words width => do
    let (count, c) ← c.word .one
    let (items, c) ← words width count c
    .ok (.words items, c)
  | .data => c.data.map fun (bytes, c) => (.data bytes, c)

/-- Reads the fields of a layout from place `index` on. -/
def fields (id : UInt8) (index : Nat) (c : Cursor) : Layout → Except DecodeError (List Value)
  | [] => .ok []
  | f :: layout => do
    let (value, c) ← c.field id index f
    let values ← fields id (index + 1) c layout
    .ok (value :: values)

end Cursor

namespace CommandTable

/-- Reads a command. -/
def decode (table : CommandTable) (bytes : Bytes) : Except DecodeError Command :=
  match bytes with
  | id :: seq :: status :: rest =>
    match table.get? id with
    | none => .error (.unknownCommand id)
    | some spec =>
      match spec.layout with
      | none => .error (.noLayout id)
      | some layout =>
        let start : Cursor := ⟨Command.headerLength, rest⟩
        match rest with
        | low :: high :: _ =>
          let stored := ofLittleEndian [low, high]
          if stored ≠ bytes.length then .error (.wrongStoredLength stored bytes.length)
          else
            ((start.advance 2).fields id 0 layout).map fun values => { id, seq, status, values }
        | _ => (start.fields id 0 layout).map fun values => { id, seq, status, values }
  | _ => .error (.bufferTooSmall Command.headerLength bytes.length)

end CommandTable

end SerialLink
