import SerialLink.Yaml.Tag

/-!
The tokens of a YAML document. Indentation and the colons of a mapping become tokens that open and
close collections, so that the structure can be read off the tokens alone.

A mapping's key is known as such only at the colon behind it. Until then its place among the tokens
is kept as a `Candidate`: one for each open flow collection and one for the block around them.
-/
namespace SerialLink.Yaml

/-- How a scalar is written. -/
inductive Style where
  | plain
  | quoted
  /-- In whole lines. -/
  | literal
  /-- In lines that are joined. -/
  | folded
  deriving DecidableEq, Repr

inductive Token where
  | directive (directive : Directive)
  | documentStart
  | documentEnd
  | blockSequence
  | blockMapping
  | blockEnd
  | flowSequence
  | flowSequenceEnd
  | flowMapping
  | flowMappingEnd
  | item
  | comma
  | key
  | value
  | reference (name : String)
  | anchor (name : String)
  | tag (tag : Tag)
  | scalar (style : Style) (text : String)
  deriving DecidableEq, Repr

/-- The directive, if it is one. -/
def Token.directive? : Token → Option Directive
  | .directive d => some d
  | _ => none

/-! ### Scalars -/

/-- What blanks and line ends between two words of a scalar mean: without line end they stand for
themselves; one line end is a space; of several the first is dropped. -/
def folded (gap : List Char) : List Char :=
  match gap.filter isBreak with
  | [] => gap
  | first :: more =>
    if first = '\n' then (if more.isEmpty then [' '] else more) else first :: more

/-- The longest start of the input that holds no blank and no mark that ends a plain scalar; `none`
at a colon that may not stand there. -/
def plainWord? (flow : Bool) : List Spot → Option (List Char × List Spot)
  | [] => some ([], [])
  | s :: rest =>
    let c := s.char
    if isGap c then some ([], s :: rest)
    else if flow && c = ':' && ",?[]\x7b\x7d".toList.contains (here rest) then none
    else if c = ':' && isGap (here rest) then some ([], s :: rest)
    else if flow && ",[]\x7b\x7d".toList.contains c then some ([], s :: rest)
    else (plainWord? flow rest).map fun (word, rest) => (c :: word, rest)

/-- Blanks and line ends before the next word of a plain scalar; `none` if a tab stands where the
indentation should be. -/
def plainGap? (indent : Nat) (input : List Spot) : Option (List Char × List Spot) :=
  let gap := input.takeWhile fun s => isBlank s.char || isBreak s.char
  let lines := gap.dropWhile fun s => isBlank s.char
  if lines.any fun s => s.char = '\t' && s.column < indent then none
  else some (chars gap, input.drop gap.length)

/-- A plain scalar indented by at least `indent`: its text, and whether line ends follow it. -/
def plainScalar? (flow : Bool) (indent : Nat) :
    (fuel : Nat) → (text gap : List Char) → List Spot → Option (String × Bool × List Spot)
  | 0, _, _, _ => none
  | fuel + 1, text, gap, input =>
    let finish := some (String.ofList text, gap.any isBreak, input)
    if isDocumentMarker input || here input = '#' then finish
    else
      match plainWord? flow input with
      | none => none
      | some ([], _) => finish
      | some (word, input) =>
        let text := text ++ folded gap ++ word
        match plainGap? indent input with
        | none => none
        | some (gap, rest) =>
          if gap.isEmpty || (!flow && column rest < indent) then
            some (String.ofList text, gap.any isBreak, rest)
          else plainScalar? flow indent fuel text gap rest

/-- The character of an escape that is followed by no digits. -/
def simpleEscape? (c : Char) : Option Char :=
  [('0', 0x00), ('a', 0x07), ('b', 0x08), ('t', 0x09), ('\t', 0x09), ('n', 0x0A), ('v', 0x0B),
    ('f', 0x0C), ('r', 0x0D), ('e', 0x1B), (' ', 0x20), ('"', 0x22), ('/', 0x2F), ('\\', 0x5C),
    ('N', 0x85), ('_', 0xA0), ('L', 0x2028), ('P', 0x2029)].lookup c |>.map Char.ofNat

/-- How many hexadecimal digits follow the letter of an escape. -/
def escapeDigits? (c : Char) : Option Nat := [('x', 2), ('u', 4), ('U', 8)].lookup c

/-- A quoted scalar from behind its opening mark on. -/
def quotedScalar? (mark : Char) :
    (fuel : Nat) → (text : List Char) → List Spot → Option (String × List Spot)
  | 0, _, _ => none
  | fuel + 1, text, input =>
    let c := here input
    if isDocumentMarker input || c = endMark then none
    else if isGap c then
      let gap := input.takeWhile fun s => isBlank s.char || isBreak s.char
      quotedScalar? mark fuel (text ++ folded (chars gap)) (input.drop gap.length)
    else if c = mark then
      if mark = singleMark && next input = mark then
        quotedScalar? mark fuel (text ++ [mark]) (input.drop 2)
      else some (String.ofList text, input.drop 1)
    else if c = '\\' && mark = '"' then
      let letter := next input
      let rest := input.drop 2
      if isBreak letter then
        let gap := rest.takeWhile fun s => isBlank s.char || isBreak s.char
        let breaks := (chars gap).filter isBreak
        quotedScalar? mark fuel (text ++ breaks) (rest.drop gap.length)
      else
        match escapeDigits? letter with
        | some count =>
          match digits? 16 (chars (rest.take count)) with
          | some n =>
            if n < 0xD800 || (0xE000 ≤ n && n ≤ 0x10FFFF) then
              quotedScalar? mark fuel (text ++ [Char.ofNat n]) (rest.drop count)
            else none
          | none => none
        | none =>
          match simpleEscape? letter with
          | some c => quotedScalar? mark fuel (text ++ [c]) rest
          | none => none
    else quotedScalar? mark fuel (text ++ [c]) (input.drop 1)

/-- What becomes of the line ends behind a block scalar. -/
inductive Chomping where
  | strip
  | clip
  | keep
  deriving DecidableEq, Repr

/-- The header of a block scalar: how to chomp, and the indentation if it is given. -/
def blockHeader? (input : List Spot) : Option (Chomping × Option Nat × List Spot) :=
  let chomping? (c : Char) : Option Chomping :=
    if c = '+' then some .keep else if c = '-' then some .strip else none
  let finish (chomping : Chomping) (indent : Option Nat) (input : List Spot) :=
    if indent = some 0 then none else some (chomping, indent, input)
  let digit (c : Char) : Nat := c.toNat - '0'.toNat
  match chomping? (here input) with
  | some chomping =>
    if (next input).isDigit then finish chomping (some (digit (next input))) (input.drop 2)
    else finish chomping none (input.drop 1)
  | none =>
    if (here input).isDigit then
      match chomping? (next input) with
      | some chomping => finish chomping (some (digit (here input))) (input.drop 2)
      | none => finish .clip (some (digit (here input))) (input.drop 1)
    else finish .clip none input

/-- Empty lines of a block scalar. With `indent = 0` the indentation is not known yet, and any
number of spaces counts as empty. Gives the line ends, the furthest column met, and the rest; `none` if a
tab stands where the indentation should be. -/
def blockBreaks? (indent : Nat) :
    (fuel : Nat) → (breaks : List Char) → (furthest : Nat) → List Spot →
      Option (List Char × Nat × List Spot)
  | 0, _, _, _ => none
  | fuel + 1, breaks, furthest, input =>
    let inside (s : Spot) : Bool := indent = 0 || s.column < indent
    let rest := input.dropWhile fun s => s.char = ' ' && inside s
    let furthest := max furthest (column rest)
    if here rest = '\t' && (indent = 0 || column rest < indent) then none
    else if isBreak (here rest) then
      blockBreaks? indent fuel (breaks ++ [here rest]) furthest (rest.drop 1)
    else some (breaks, furthest, rest)

/-- The lines of a block scalar. `lead` is the line end before this line, `breaks` are the empty
lines before it, and `blank` tells whether the line before starts with a blank. -/
def blockLines? (literal : Bool) (indent : Nat) (chomping : Chomping) :
    (fuel : Nat) → (text lead breaks : List Char) → (blank : Bool) → List Spot →
      Option (String × List Spot)
  | 0, _, _, _, _, _ => none
  | fuel + 1, text, lead, breaks, blank, input =>
    if column input = indent && here input ≠ endMark then
      let starts := isBlank (here input)
      let join :=
        if !literal && lead = ['\n'] && !blank && !starts then
          (if breaks.isEmpty then [' '] else [])
        else lead
      let line := input.takeWhile fun s => !isLineEnd s.char
      let rest := input.drop line.length
      let text := text ++ join ++ breaks ++ chars line
      let lead := if isBreak (here rest) then [here rest] else []
      match blockBreaks? indent (rest.length + 1) [] 0 (rest.drop lead.length) with
      | none => none
      | some (breaks, _, rest) =>
        blockLines? literal indent chomping fuel text lead breaks starts rest
    else
      let text := if chomping = .strip then text else text ++ lead
      let text := if chomping = .keep then text ++ breaks else text
      some (String.ofList text, input)

/-- A block scalar from behind its indicator on. `outer` is the indentation of the block around it,
counted from one, or zero if there is none. -/
def blockScalar? (literal : Bool) (outer : Nat) (input : List Spot) :
    Option (String × List Spot) :=
  match blockHeader? input with
  | none => none
  | some (chomping, given, input) =>
    let rest := input.dropWhile fun s => isBlank s.char
    let rest :=
      if here rest = '#' then rest.dropWhile fun s => !isLineEnd s.char else rest
    if !isLineEnd (here rest) then none
    else
      let rest := if isBreak (here rest) then rest.drop 1 else rest
      let fuel := rest.length + 1
      let indent := (given.map (outer - 1 + ·)).getD 0
      match blockBreaks? indent fuel [] 0 rest with
      | none => none
      | some (breaks, furthest, rest) =>
        let indent := if indent = 0 then max 1 (max outer furthest) else indent
        blockLines? literal indent chomping fuel [] [] breaks false rest

/-! ### Tokens -/

/-- A place among the tokens where a key may start. -/
structure Candidate where
  token : Nat
  spot : Spot
  /-- The indentation leaves no other reading than a key. -/
  required : Bool

/-- The reader of tokens: what is left to read, and what the tokens read so far leave open. -/
structure Scanner where
  rest : List Spot
  tokens : Array Token := #[]
  /-- Columns of the open block collections, innermost first. -/
  indents : List Nat := []
  /-- Candidates for a key, in the innermost collection first. -/
  candidates : List (Option Candidate) := [none]
  /-- A key may start here. -/
  keyAllowed : Bool := true

namespace Scanner

/-- Inside a flow collection. -/
def inFlow (s : Scanner) : Bool := s.candidates.length > 1

/-- Indentation of the innermost block collection, counted from one; zero if there is none. -/
def indent (s : Scanner) : Nat :=
  match s.indents with
  | [] => 0
  | column :: _ => column + 1

def spot (s : Scanner) : Spot :=
  match s.rest with
  | [] => ⟨endMark, 0, 0, 0⟩
  | spot :: _ => spot

def push (s : Scanner) (token : Token) : Scanner := { s with tokens := s.tokens.push token }

def skip (s : Scanner) (count : Nat) : Scanner := { s with rest := s.rest.drop count }

/-- Closes the block collections indented by more than `column`, counted from one. -/
def unroll (s : Scanner) (column : Nat) : Scanner :=
  if s.inFlow then s
  else
    let closed := s.indents.takeWhile fun c => c + 1 > column
    { s with
      indents := s.indents.drop closed.length
      tokens := s.tokens ++ closed.map fun _ => Token.blockEnd }

/-- Opens a block collection, unless one is open at this column; its token goes to place `at`. -/
def roll (s : Scanner) (column place : Nat) (token : Token) : Scanner :=
  if s.inFlow || s.indent > column then s
  else
    { s with
      indents := column :: s.indents
      tokens := s.tokens.insertIdxIfInBounds place token }

/-- Gives up the candidate of the innermost collection; `none` if it had to become a key. -/
def dropCandidate? (s : Scanner) : Option Scanner :=
  match s.candidates with
  | some c :: outer => if c.required then none else some { s with candidates := none :: outer }
  | _ => some s

/-- Gives up candidates that are on an earlier line or too far back. -/
def dropStale? (s : Scanner) : Option Scanner :=
  let stale (c : Candidate) : Bool :=
    c.spot.line < s.spot.line || c.spot.index + 1024 < s.spot.index
  if s.candidates.any fun c => c.any fun c => stale c && c.required then none
  else
    some { s with candidates := s.candidates.map fun c => c.filter fun c => !stale c }

/-- Notes that a key may start with the next token. -/
def addCandidate? (s : Scanner) : Option Scanner :=
  if s.keyAllowed then
    let required := !s.inFlow && s.indent = s.spot.column + 1
    s.dropCandidate?.map fun s =>
      { s with candidates := some ⟨s.tokens.size, s.spot, required⟩ :: s.candidates.drop 1 }
  else some s

/-- Passes over blanks, comments and line ends, and over a byte order mark at the start of a line.
Behind a line end of a block a key may start; a tab may not stand where a key may start. -/
def skipGaps (flow : Bool) : (comment keyAllowed : Bool) → List Spot → Bool × List Spot
  | _, keyAllowed, [] => (keyAllowed, [])
  | comment, keyAllowed, s :: rest =>
    if s.char = byteOrderMark && s.column = 0 then skipGaps flow false keyAllowed rest
    else if isBreak s.char then skipGaps flow false (keyAllowed || !flow) rest
    else if comment && s.char ≠ endMark then skipGaps flow true keyAllowed rest
    else if s.char = ' ' || (s.char = '\t' && (flow || !keyAllowed)) then
      skipGaps flow false keyAllowed rest
    else if s.char = '#' then skipGaps flow true keyAllowed rest
    else (keyAllowed, s :: rest)

/-- An anchor or a reference to one. -/
def name? (s : Scanner) (token : String → Token) : Option Scanner :=
  match s.addCandidate? with
  | none => none
  | some s =>
    let name := (s.rest.drop 1).takeWhile fun spot => isNameChar spot.char
    let s := { s.skip (name.length + 1) with keyAllowed := false }
    let c := here s.rest
    if name.isEmpty || !(isGap c || "?:,]\x7d%@\x60".toList.contains c) then none
    else some (s.push (token (String.ofList (chars name))))

/-- A tag. -/
def tag? (s : Scanner) : Option Scanner :=
  match s.addCandidate? with
  | none => none
  | some s =>
    match Tag.read? s.rest with
    | some (tag, rest) =>
      if isGap (here rest) || (s.inFlow && here rest = ',') then
        some ({ s with rest, keyAllowed := false }.push (.tag tag))
      else none
    | none => none

/-- Starts a flow collection. -/
def openFlow? (s : Scanner) (token : Token) : Option Scanner :=
  s.addCandidate?.map fun s =>
    ({ s with candidates := none :: s.candidates, keyAllowed := true }.skip 1).push token

/-- Ends a flow collection. -/
def closeFlow? (s : Scanner) (token : Token) : Option Scanner :=
  s.dropCandidate?.map fun s =>
    let candidates := if s.inFlow then s.candidates.drop 1 else s.candidates
    ({ s with candidates, keyAllowed := false }.skip 1).push token

/-- A document marker. -/
def marker? (s : Scanner) (token : Token) : Option Scanner :=
  (s.unroll 0).dropCandidate?.map fun s =>
    ({ s with keyAllowed := false }.skip 3).push token

/-- A directive. -/
def directive? (s : Scanner) : Option Scanner :=
  (s.unroll 0).dropCandidate?.bind fun s =>
    (Directive.read? s.rest).map fun (directive, rest) =>
      { s with rest, keyAllowed := false }.push (.directive directive)

/-- The dash of a sequence. -/
def item? (s : Scanner) : Option Scanner :=
  if !s.inFlow && !s.keyAllowed then none
  else
    (s.roll s.spot.column s.tokens.size .blockSequence).dropCandidate?.map fun s =>
      ({ s with keyAllowed := true }.skip 1).push .item

/-- The question mark before a key. -/
def key? (s : Scanner) : Option Scanner :=
  if !s.inFlow && !s.keyAllowed then none
  else
    (s.roll s.spot.column s.tokens.size .blockMapping).dropCandidate?.map fun s =>
      ({ s with keyAllowed := !s.inFlow }.skip 1).push .key

/-- The colon before a value: it makes the candidate a key. -/
def value? (s : Scanner) : Option Scanner :=
  match s.candidates with
  | some c :: outer =>
    let s :=
      { s with
        candidates := none :: outer
        tokens := s.tokens.insertIdxIfInBounds c.token .key
        keyAllowed := false }
    some (((s.roll c.spot.column c.token .blockMapping).skip 1).push .value)
  | _ =>
    if !s.inFlow && !s.keyAllowed then none
    else
      let s := s.roll s.spot.column s.tokens.size .blockMapping
      some (({ s with keyAllowed := !s.inFlow }.skip 1).push .value)

/-- A scalar in quotation marks. -/
def quoted? (s : Scanner) : Option Scanner :=
  match s.addCandidate? with
  | none => none
  | some s =>
    (quotedScalar? (here s.rest) s.rest.length [] (s.rest.drop 1)).map fun (text, rest) =>
      { s with rest, keyAllowed := false }.push (.scalar .quoted text)

/-- A scalar of whole lines. -/
def block? (s : Scanner) (literal : Bool) : Option Scanner :=
  match s.dropCandidate? with
  | none => none
  | some s =>
    let style := if literal then .literal else .folded
    (blockScalar? literal s.indent (s.rest.drop 1)).map fun (text, rest) =>
      { s with rest, keyAllowed := true }.push (.scalar style text)

/-- A scalar without marks. -/
def plain? (s : Scanner) : Option Scanner :=
  match s.addCandidate? with
  | none => none
  | some s =>
    (plainScalar? s.inFlow s.indent (s.rest.length + 1) [] [] s.rest).map
      fun (text, broken, rest) => { s with rest, keyAllowed := broken }.push (.scalar .plain text)

/-- The character may start a plain scalar. -/
def startsPlain (s : Scanner) : Bool :=
  let c := here s.rest
  let marks := "-?:,[]\x7b\x7d#&*!|>\"%@\x60".toList
  !(isGap c || c = singleMark || marks.contains c) ||
    (c = '-' && !isBlank (next s.rest)) ||
    (!s.inFlow && (c = '?' || c = ':') && !isGap (next s.rest))

/-- Reads one token, of which the first character is here. -/
def token? (s : Scanner) : Option Scanner :=
  let c := here s.rest
  let alone := isGap (next s.rest)
  if s.spot.column = 0 && c = '%' then s.directive?
  else if isMarker '-' s.rest then s.marker? .documentStart
  else if isMarker '.' s.rest then s.marker? .documentEnd
  else if c = '[' then s.openFlow? .flowSequence
  else if c = '\x7b' then s.openFlow? .flowMapping
  else if c = ']' then s.closeFlow? .flowSequenceEnd
  else if c = '\x7d' then s.closeFlow? .flowMappingEnd
  else if c = ',' then
    s.dropCandidate?.map fun s => ({ s with keyAllowed := true }.skip 1).push .comma
  else if c = '-' && alone then s.item?
  else if c = '?' && (s.inFlow || alone) then s.key?
  else if c = ':' && (s.inFlow || alone) then s.value?
  else if c = '*' then s.name? .reference
  else if c = '&' then s.name? .anchor
  else if c = '!' then s.tag?
  else if c = '|' && !s.inFlow then s.block? true
  else if c = '>' && !s.inFlow then s.block? false
  else if c = singleMark || c = '"' then s.quoted?
  else if s.startsPlain then s.plain?
  else none

/-- Reads tokens to the end of the document. -/
def run? : (fuel : Nat) → Scanner → Option (Array Token)
  | 0, _ => none
  | fuel + 1, s =>
    let (keyAllowed, rest) := skipGaps s.inFlow false s.keyAllowed s.rest
    match { s with keyAllowed, rest }.dropStale? with
    | none => none
    | some s =>
      if here s.rest = endMark then (s.unroll 0).dropCandidate?.map Scanner.tokens
      else
        match (s.unroll (s.spot.column + 1)).token? with
        | none => none
        | some s => run? fuel s

end Scanner

/-- The tokens of a text; `none` if they cannot be told apart. -/
def tokens? (text : String) : Option (List Token) :=
  match spots? text with
  | none => none
  | some rest => (Scanner.run? (rest.length + 1) { rest := rest }).map Array.toList

end SerialLink.Yaml
