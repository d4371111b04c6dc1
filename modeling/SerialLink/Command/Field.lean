import SerialLink.Bytes
import SerialLink.Text.Quoted

/-!
The shape of a command's payload: a `Layout` is a list of fields, and is written as a descriptor,
one letter a field. `B W L Q` are unsigned words of 1, 2, 4 and 8 bytes, the same letters in lower
case are lists of such words, `S` is text and `D` is raw data.

`Field.ofChar?_toChar`: the letter of a field is read as that field.
-/
namespace SerialLink

/-- Width of a word. -/
inductive Width where
  | one
  | two
  | four
  | eight
  deriving DecidableEq, Repr

/-- Bytes that a word of this width takes on the line. -/
def Width.bytes : Width → Nat
  | .one => 1
  | .two => 2
  | .four => 4
  | .eight => 8

/-- The largest word of this width. -/
def Width.largest (w : Width) : Nat := wordCount w.bytes - 1

/-- One field of a layout. -/
inductive Field where
  /-- An unsigned word. -/
  | word (width : Width)
  /-- Text, closed by a zero byte. -/
  | text
  /-- Words behind a one-byte count. -/
  | words (width : Width)
  /-- Raw data behind a two-byte length. -/
  | data
  deriving DecidableEq, Repr

namespace Field

/-- The letter that stands for the field in a descriptor. -/
def toChar : Field → Char
  | .word .one => 'B'
  | .word .two => 'W'
  | .word .four => 'L'
  | .word .eight => 'Q'
  | .text => 'S'
  | .words .one => 'b'
  | .words .two => 'w'
  | .words .four => 'l'
  | .words .eight => 'q'
  | .data => 'D'

/-- Every field, in the order in which the letters are listed. -/
def all : List Field :=
  [.word .one, .word .two, .word .four, .word .eight, .text,
    .words .one, .words .two, .words .four, .words .eight, .data]

/-- The field that a letter stands for. -/
def ofChar? (c : Char) : Option Field := all.find? fun field => field.toChar == c

@[simp] theorem ofChar?_toChar (field : Field) : ofChar? field.toChar = some field := by
  rcases field with (_ | _ | _ | _) | _ | (_ | _ | _ | _) | _ <;> decide

theorem toChar_of_ofChar? {c : Char} {field : Field} (h : ofChar? c = some field) :
    field.toChar = c := by
  simpa using List.find?_some h

end Field

/-- The fields of a payload, first to last. -/
abbrev Layout := List Field

/-- Why a descriptor describes no layout. -/
inductive LayoutError where
  /-- The letter stands for no field. -/
  | unknownField (letter : Char)
  /-- Raw data occurs more than once. -/
  | duplicateData
  deriving DecidableEq, Repr

def LayoutError.message : LayoutError → String
  | .unknownField letter => s!"unknown field type {quoted letter}"
  | .duplicateData => "layout declares more than one raw buffer field"

namespace Layout

/-- The fields that the letters stand for, or the first letter that stands for none. -/
def fields : List Char → Except LayoutError Layout
  | [] => .ok []
  | c :: rest =>
    match Field.ofChar? c with
    | none => .error (.unknownField c)
    | some field => (fields rest).map (field :: ·)

/-- Reads a descriptor. An unknown letter is reported before raw data that occurs twice. -/
def parse (descriptor : String) : Except LayoutError Layout :=
  match fields descriptor.toList with
  | .error e => .error e
  | .ok layout => if layout.count .data > 1 then .error .duplicateData else .ok layout

/-- Writes a descriptor. -/
def render (layout : Layout) : String := String.ofList (layout.map Field.toChar)

end Layout

end SerialLink
