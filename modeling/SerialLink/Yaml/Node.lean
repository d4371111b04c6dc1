import SerialLink.Yaml.Token

/-!
The tree of a YAML document. Collections are closed by their own tokens; where a key, a value or an
item is left out, an empty plain scalar stands for it.

An anchor takes the slot whose number is how many names have been used by anchors before it. So an
anchor that uses a name again shares its slot with the next anchor of a new name. A reference stands
for the node that is the last of the whole document to have taken the slot.
-/
namespace SerialLink.Yaml

inductive Node where
  | scalar (style : Style) (tag : Option String) (text : String)
  | sequence (items : List Node)
  | mapping (entries : List (Node × Node))
  /-- The node that has the slot. -/
  | reference (slot : Nat)

/-- Stands where a node is left out. -/
def Node.absent : Node := .scalar .plain none ""

/-- A name given to a node. -/
structure Anchor where
  name : String
  slot : Nat
  /-- The node, once all of it has been read. -/
  node : Node := .absent

/-- A document. Its anchors are in the order in which their nodes start. -/
structure Document where
  root : Node
  anchors : Array Anchor

/-- The node itself, or the one that it refers to. -/
def Document.follow (d : Document) : Node → Node
  | .reference slot => ((d.anchors.findRev? (·.slot = slot)).map Anchor.node).getD .absent
  | node => node

/-- Tokens left to read, what handles of tags stand for, and the anchors so far. -/
structure Parser where
  tokens : List Token
  handles : List (String × String) := []
  anchors : Array Anchor := #[]

/-- Reads part of a document, or finds that it is none. -/
abbrev Parse := StateT Parser Option

namespace Parse

/-- The next token. -/
def peek : Parse (Option Token) := do return (← get).tokens.head?

/-- Passes over a token. -/
def skip : Parse Unit := modify fun p => { p with tokens := p.tokens.drop 1 }

/-- The next token is one of those. -/
def at? (tokens : List Token) : Parse Bool := do
  return (← peek).any tokens.contains

/-- Passes over the next token if it is that one. -/
def accept? (token : Token) : Parse Bool := do
  if ← at? [token] then
    skip
    return true
  else return false

/-- Passes over the next token, which must be that one. -/
def expect (token : Token) : Parse Unit := do
  if ← accept? token then return () else failure

/-- What stands before the content of a node. -/
structure Properties where
  /-- The place of the anchor among all anchors. -/
  anchor : Option Nat := none
  tag : Option String := none

/-- There is an anchor or a tag, so the content may be left out. -/
def Properties.any (p : Properties) : Bool := p.anchor.isSome || p.tag.isSome

/-- Reads an anchor, if there is one. -/
def anchor? : Parse (Option Nat) := do
  match ← peek with
  | some (.anchor name) =>
    skip
    let anchors := (← get).anchors
    let slot := (anchors.toList.map Anchor.name).eraseDups.length
    modify fun p => { p with anchors := p.anchors.push ⟨name, slot, .absent⟩ }
    return some anchors.size
  | _ => return none

/-- Reads a tag, if there is one. -/
def tag? : Parse (Option String) := do
  match ← peek with
  | some (.tag tag) =>
    skip
    match tag.full? (← get).handles with
    | some tag => return some tag
    | none => failure
  | _ => return none

/-- Reads an anchor and a tag in any order, at most one of each. -/
def properties : Parse Properties := do
  match ← anchor? with
  | some anchor => return ⟨some anchor, ← tag?⟩
  | none =>
    match ← tag? with
    | some tag => return ⟨← anchor?, some tag⟩
    | none => return {}

/-- Gives the anchor its node. -/
def bind (properties : Properties) (node : Node) : Parse Node := do
  match properties.anchor with
  | some place => modify fun p => { p with anchors := p.anchors.modify place ({ · with node }) }
  | none => pure ()
  return node

/-- Where a node may stand. -/
inductive Context where
  /-- Inside a flow collection. -/
  | flow
  | block
  /-- In a block mapping, whose sequences need no indentation of their own. -/
  | blockEntry
  deriving DecidableEq

mutual

/-- Reads a node. -/
def node : (fuel : Nat) → Context → Parse Node
  | 0, _ => failure
  | fuel + 1, context => do
    match ← peek with
    | some (.reference name) =>
      skip
      match (← get).anchors.findRev? (·.name = name) with
      | some anchor => return .reference anchor.slot
      | none => failure
    | _ =>
      let properties ← properties
      let inBlock := context ≠ .flow
      match ← peek with
      | some .item =>
        if context = .blockEntry then
          bind properties (.sequence (← openItems fuel))
        else if properties.any then bind properties (.scalar .plain properties.tag "")
        else failure
      | some (.scalar style text) =>
        skip
        bind properties (.scalar style properties.tag text)
      | some .flowSequence =>
        skip
        bind properties (.sequence (← flowItems fuel true))
      | some .flowMapping =>
        skip
        bind properties (.mapping (← flowEntries fuel true))
      | some .blockSequence =>
        if inBlock then
          skip
          bind properties (.sequence (← blockItems fuel))
        else if properties.any then bind properties (.scalar .plain properties.tag "")
        else failure
      | some .blockMapping =>
        if inBlock then
          skip
          bind properties (.mapping (← blockEntries fuel))
        else if properties.any then bind properties (.scalar .plain properties.tag "")
        else failure
      | _ => if properties.any then bind properties (.scalar .plain properties.tag "") else failure

/-- Reads a node, unless one of the tokens stands in its place. -/
def nodeUnless : (fuel : Nat) → List Token → Context → Parse Node
  | 0, _, _ => failure
  | fuel + 1, tokens, context => do
    if ← at? tokens then return .absent else node fuel context

/-- Reads the items of a block sequence. -/
def blockItems : (fuel : Nat) → Parse (List Node)
  | 0 => failure
  | fuel + 1 => do
    if ← accept? .item then
      let item ← nodeUnless fuel [.item, .blockEnd] .block
      return item :: (← blockItems fuel)
    else
      expect .blockEnd
      return []

/-- Reads the items of a sequence that is indented like the mapping around it. -/
def openItems : (fuel : Nat) → Parse (List Node)
  | 0 => failure
  | fuel + 1 => do
    if ← accept? .item then
      let item ← nodeUnless fuel [.item, .key, .value, .blockEnd] .block
      return item :: (← openItems fuel)
    else return []

/-- Reads the entries of a block mapping. -/
def blockEntries : (fuel : Nat) → Parse (List (Node × Node))
  | 0 => failure
  | fuel + 1 => do
    if ← accept? .key then
      let key ← nodeUnless fuel [.key, .value, .blockEnd] .blockEntry
      let value ←
        if ← accept? .value then nodeUnless fuel [.key, .value, .blockEnd] .blockEntry
        else pure .absent
      return (key, value) :: (← blockEntries fuel)
    else
      expect .blockEnd
      return []

/-- Reads the items of a flow sequence. An item with a colon is a mapping of one entry. -/
def flowItems : (fuel : Nat) → (first : Bool) → Parse (List Node)
  | 0, _ => failure
  | fuel + 1, first => do
    if ← accept? .flowSequenceEnd then return []
    if !first then expect .comma
    if ← accept? .flowSequenceEnd then return []
    let item ←
      if ← accept? .key then
        let key ← nodeUnless fuel [.value, .comma, .flowSequenceEnd] .flow
        let value ←
          if ← accept? .value then nodeUnless fuel [.comma, .flowSequenceEnd] .flow
          else pure .absent
        pure (.mapping [(key, value)])
      else node fuel .flow
    return item :: (← flowItems fuel false)

/-- Reads the entries of a flow mapping. -/
def flowEntries : (fuel : Nat) → (first : Bool) → Parse (List (Node × Node))
  | 0, _ => failure
  | fuel + 1, first => do
    if ← accept? .flowMappingEnd then return []
    if !first then expect .comma
    if ← accept? .flowMappingEnd then return []
    let entry ←
      if ← accept? .key then
        let key ← nodeUnless fuel [.value, .comma, .flowMappingEnd] .flow
        let value ←
          if ← accept? .value then nodeUnless fuel [.comma, .flowMappingEnd] .flow
          else pure .absent
        pure (key, value)
      else pure (← node fuel .flow, .absent)
    return entry :: (← flowEntries fuel false)

end

/-- Passes over the marks that end a document. -/
def dropEnds : (fuel : Nat) → Parse Unit
  | 0 => return ()
  | fuel + 1 => do if ← accept? .documentEnd then dropEnds fuel

/-- Reads a text that holds one document. An empty text is a document with nothing in it. -/
def document (fuel : Nat) : Parse Node := do
  let directives := ((← get).tokens.takeWhile (·.directive?.isSome)).filterMap Token.directive?
  match Directive.handles? directives with
  | none => failure
  | some handles =>
    modify fun p => { p with handles, tokens := p.tokens.drop directives.length }
  let root ←
    if !directives.isEmpty || (← at? [.documentStart]) then
      expect .documentStart
      let next ← peek
      if next.all fun t => t.directive?.isSome || [.documentStart, .documentEnd].contains t then
        pure .absent
      else node fuel .block
    else if (← peek).isNone then pure .absent
    else node fuel .block
  dropEnds fuel
  if (← peek).isSome then failure
  return root

end Parse

/-- The document that a text holds; `none` if it is not YAML, or holds more than one. -/
def Document.parse? (text : String) : Option Document :=
  match tokens? text with
  | none => none
  | some tokens =>
    ((Parse.document (3 * tokens.length + 5)).run { tokens := tokens }).map fun (root, parser) =>
      ⟨root, parser.anchors⟩

end SerialLink.Yaml
