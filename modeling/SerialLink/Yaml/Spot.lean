/-!
The characters of a YAML document with the places where they stand, and what kind of character each
is. All common line ends are read as line feeds.
-/
namespace SerialLink.Yaml

/-- A character and where it stands. -/
structure Spot where
  char : Char
  line : Nat := 0
  column : Nat := 0
  index : Nat := 0
  deriving Repr

/-- Stands behind the last character of a document. -/
def endMark : Char := Char.ofNat 0

def isBreak (c : Char) : Bool :=
  c = '\n' || c = Char.ofNat 0x2028 || c = Char.ofNat 0x2029

def isBlank (c : Char) : Bool := c = ' ' || c = '\t'

/-- The character ends a line, or the document. -/
def isLineEnd (c : Char) : Bool := isBreak c || c = endMark

/-- The character separates words. -/
def isGap (c : Char) : Bool := isBlank c || isLineEnd c

/-- The character may occur in a document. -/
def isAllowed (c : Char) : Bool :=
  let n := c.toNat
  n = 0x09 || n = 0x0A || n = 0x0D || (0x20 ≤ n && n ≤ 0x7E) || n = 0x85 ||
    (0xA0 ≤ n && n ≤ 0xFFFD) || 0x10000 ≤ n

/-- Line feeds for all common line ends: a carriage return with or without one, and a next-line
character. -/
def unifyBreaks : List Char → List Char
  | '\r' :: '\n' :: rest => '\n' :: unifyBreaks rest
  | '\r' :: rest => '\n' :: unifyBreaks rest
  | c :: rest => (if c.toNat = 0x85 then '\n' else c) :: unifyBreaks rest
  | [] => []

/-- Characters with their places, the first at the given one, and the end mark behind them. -/
def placed (line column index : Nat) : List Char → List Spot
  | [] => [⟨endMark, line, column, index⟩]
  | c :: rest =>
    ⟨c, line, column, index⟩ ::
      if isBreak c then placed (line + 1) 0 (index + 1) rest
      else placed line (column + 1) (index + 1) rest

/-- The characters of a text; `none` if one is not allowed. -/
def spots? (text : String) : Option (List Spot) :=
  let chars := text.toList
  if chars.all isAllowed then some (placed 0 0 0 (unifyBreaks chars)) else none

/-- Stands at the start of a line without being part of it. -/
def byteOrderMark : Char := Char.ofNat 0xFEFF

/-- The mark around a quoted scalar without escapes. -/
def singleMark : Char := Char.ofNat 0x27

/-- The characters of a name. -/
def isNameChar (c : Char) : Bool := c.isAlphanum || c = '-' || c = '_'

/-- The character here. -/
def here : List Spot → Char
  | [] => endMark
  | s :: _ => s.char

/-- The character after next. -/
def next : List Spot → Char
  | _ :: s :: _ => s.char
  | _ => endMark

def column : List Spot → Nat
  | [] => 0
  | s :: _ => s.column

def chars (input : List Spot) : List Char := input.map Spot.char

/-- Three of the given characters at the start of a line stand alone. -/
def isMarker (c : Char) (input : List Spot) : Bool :=
  column input = 0 && chars (input.take 3) = [c, c, c] && isGap (here (input.drop 3))

def isDocumentMarker (input : List Spot) : Bool := isMarker '-' input || isMarker '.' input

end SerialLink.Yaml
