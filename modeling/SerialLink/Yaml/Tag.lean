import SerialLink.Yaml.Scalar
import SerialLink.Yaml.Spot

/-!
Tags, which name the kind of a node, and the directives before a document. A tag is written in full
between angle brackets, or as a handle and a suffix; the directives say what a handle stands for.

Octets of a tag may be written as `%` and two digits. The octets of one character must follow each
other in the shape of UTF-8. The text of a tag has one character for each octet and ends at an octet
of zero.
-/
namespace SerialLink.Yaml

/-- A tag as it is written. The handle is empty if the suffix is the whole tag. -/
structure Tag where
  handle : String
  suffix : String
  deriving DecidableEq, Repr

/-- What may stand before a document. -/
inductive Directive where
  /-- The version of YAML that the document is written for. -/
  | version (major minor : Nat)
  /-- What a handle stands for. -/
  | handle (name text : String)
  deriving DecidableEq, Repr

namespace Tag

/-- The characters of a tag other than escapes. Brackets and commas are only allowed where they
cannot be taken for marks. -/
def isChar (bracketed : Bool) (c : Char) : Bool :=
  isNameChar c || ";/?:@&=+$.!~*\x28\x29".toList.contains c || c = singleMark ||
    (bracketed && ",[]".toList.contains c)

/-- How many octets of the same character must follow this one, if `due` had to follow the octets
before; `none` if this one cannot stand here. -/
def octetsDue? (due octet : Nat) : Option Nat :=
  match due with
  | due + 1 => if 0x80 ≤ octet && octet < 0xC0 then some due else none
  | 0 =>
    if octet < 0x80 then some 0
    else if octet < 0xC0 then none
    else if octet < 0xE0 then some 1
    else if octet < 0xF0 then some 2
    else if octet < 0xF8 then some 3
    else none

/-- The longest start of the input that is text of a tag, one character for each octet. `due` octets
of the current character are still to come; `none` if they do not come. -/
def chars? (bracketed : Bool) : (due : Nat) → List Spot → Option (List Char × List Spot)
  | due, [] => if due = 0 then some ([], []) else none
  | due, s :: rest =>
    if s.char = '%' then
      match rest with
      | high :: low :: rest =>
        match digits? 16 [high.char, low.char] with
        | none => none
        | some octet =>
          match octetsDue? due octet with
          | none => none
          | some due =>
            (chars? bracketed due rest).map fun (text, rest) => (Char.ofNat octet :: text, rest)
      | _ => none
    else if due ≠ 0 then none
    else if isChar bracketed s.char then
      (chars? bracketed 0 rest).map fun (text, rest) => (s.char :: text, rest)
    else some ([], s :: rest)

/-- The text that the characters of a tag stand for. -/
def text (chars : List Char) : String := String.ofList (chars.takeWhile fun c => c.toNat ≠ 0)

/-- An exclamation mark with the name behind it, and the second exclamation mark if there is one. -/
def readHandle (input : List Spot) : List Char × List Spot :=
  let name := chars ((input.drop 1).takeWhile fun s => isNameChar s.char)
  let rest := input.drop (name.length + 1)
  if here rest = '!' then ('!' :: name ++ ['!'], rest.drop 1) else ('!' :: name, rest)

/-- The text is a handle that can have a suffix of its own. -/
def isNamed (handle : List Char) : Bool := handle.length > 1 && handle.getLast? = some '!'

/-- A tag from its exclamation mark on. -/
def read? (input : List Spot) : Option (Tag × List Spot) :=
  if next input = '<' then
    match chars? true 0 (input.drop 2) with
    | some (suffix, rest) =>
      if suffix.isEmpty || here rest ≠ '>' then none else some (⟨"", text suffix⟩, rest.drop 1)
    | none => none
  else
    let (handle, rest) := readHandle input
    match chars? false 0 rest with
    | some (suffix, rest) =>
      if isNamed handle then
        if suffix.isEmpty then none else some (⟨String.ofList handle, text suffix⟩, rest)
      else
        let suffix := text (handle.drop 1 ++ suffix)
        some (if suffix.isEmpty then ⟨"", "!"⟩ else ⟨"!", suffix⟩, rest)
    | none => none

/-- What handles stand for without directives. -/
def standardHandles : List (String × String) := [("!", "!"), ("!!", "tag:yaml.org,2002:")]

/-- The tag in full; `none` if nothing says what its handle stands for. -/
def full? (handles : List (String × String)) (tag : Tag) : Option String :=
  if tag.handle.isEmpty then some tag.suffix
  else (handles.lookup tag.handle).map (· ++ tag.suffix)

end Tag

namespace Directive

/-- A number of a version, of at most nine digits. -/
def number? (input : List Spot) : Option (Nat × List Spot) :=
  let digits := chars (input.takeWhile fun s => s.char.isDigit)
  if digits.length > 9 then none
  else (digits? 10 digits).map fun n => (n, input.drop digits.length)

def dropBlanks (input : List Spot) : List Spot := input.dropWhile fun s => isBlank s.char

/-- Two numbers with a point between them. -/
def version? (input : List Spot) : Option (Directive × List Spot) :=
  match number? (dropBlanks input) with
  | some (major, rest) =>
    if here rest ≠ '.' then none
    else (number? (rest.drop 1)).map fun (minor, rest) => (.version major minor, rest)
  | none => none

/-- A handle and what it stands for. -/
def handle? (input : List Spot) : Option (Directive × List Spot) :=
  let input := dropBlanks input
  let (name, rest) := Tag.readHandle input
  if here input ≠ '!' || !(name = ['!'] || Tag.isNamed name) || !isBlank (here rest) then none
  else
    match Tag.chars? true 0 (dropBlanks rest) with
    | some (text, rest) =>
      if text.isEmpty || !isGap (here rest) then none
      else some (.handle (String.ofList name) (Tag.text text), rest)
    | none => none

/-- A directive from its percent sign on, with the line that it stands on. -/
def read? (input : List Spot) : Option (Directive × List Spot) :=
  let name := chars ((input.drop 1).takeWhile fun s => isNameChar s.char)
  let rest := input.drop (name.length + 1)
  let directive? :=
    if !isGap (here rest) then none
    else if name = "YAML".toList then version? rest
    else if name = "TAG".toList then handle? rest
    else none
  match directive? with
  | some (directive, rest) =>
    let rest := dropBlanks rest
    let rest := if here rest = '#' then rest.dropWhile fun s => !isLineEnd s.char else rest
    if !isLineEnd (here rest) then none
    else some (directive, if isBreak (here rest) then rest.drop 1 else rest)
  | none => none

/-- What handles stand for behind the directives; `none` if the version is not known, or a directive
is repeated. -/
def handles? (directives : List Directive) : Option (List (String × String)) :=
  let versions := directives.filterMap fun
    | .version major minor => some (major, minor)
    | .handle _ _ => none
  let handles := directives.filterMap fun
    | .version _ _ => none
    | .handle name text => some (name, text)
  let names := handles.map Prod.fst
  if versions.length > 1 || !versions.all [(1, 1), (1, 2)].contains ||
      names.eraseDups.length ≠ names.length then none
  else some (handles ++ Tag.standardHandles)

end Directive

end SerialLink.Yaml
