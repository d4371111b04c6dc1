import SerialLink.Settings
import SerialLink.Text.Utf8
import SerialLink.Yaml.Node
import SerialLink.Yaml.Text

/-!
Settings as a YAML document. Every setting may be left out and then has its default; a setting that
does not exist, or is given twice, is refused, and so is a value of another kind or out of range.
-/
namespace SerialLink

open Yaml (Node)

namespace Yaml.Node

/-- Any scalar, taken as text. -/
def text? : Node → Option String
  | .scalar _ _ text => some text
  | _ => none

/-- The text of a scalar that may be of the kind: a plain one, or one in whole lines with the
standard's tag of the kind. -/
def textOf? (kind : String) : Node → Option String
  | .scalar .plain _ text => some text
  | .scalar .literal (some tag) text =>
    if Yaml.Tag.full? Yaml.Tag.standardHandles ⟨"!!", kind⟩ = some tag then some text else none
  | _ => none

/-- A number of at most `largest`. -/
def natUpTo? (largest : Nat) (node : Node) : Option Nat :=
  ((node.textOf? "int").bind Yaml.nat?).filter (· ≤ largest)

/-- A truth value. -/
def truth? (node : Node) : Option Bool := (node.textOf? "bool").bind Yaml.bool?

end Yaml.Node

/-- The entries of a mapping by name; nothing at all counts as a mapping without entries. -/
def Yaml.Document.fields? (document : Yaml.Document) : Node → Option (List (String × Node))
  | .mapping entries =>
    entries.foldr
      (fun (key, value) fields => do
        some ((← (document.follow key).text?, document.follow value) :: (← fields)))
      (some [])
  | .scalar .plain _ "" => some []
  | _ => none

/-- One setting of a section: its name, and how its value changes the section. -/
structure Setting (α : Type) where
  name : String
  read : Node → α → Option α

/-- Reads a section: each entry of the node must be a setting, and none may come twice. -/
def Setting.readAll {α : Type} (settings : List (Setting α)) (defaults : α)
    (document : Yaml.Document) (node : Node) : Option α := do
  let fields ← document.fields? node
  if (fields.map Prod.fst).eraseDups.length ≠ fields.length then none
  else
    fields.foldl
      (fun result (name, node) => do
        let setting ← settings.find? (·.name = name)
        setting.read node (← result))
      (some defaults)

/-- Reads a text whose document is one section. -/
def Setting.parse {α : Type} (settings : Yaml.Document → List (Setting α)) (defaults : α)
    (text : String) : Option α := do
  let document ← Yaml.Document.parse? text
  readAll (settings document) defaults document (document.follow document.root)

namespace SchedulerSettings

def settings : List (Setting SchedulerSettings) :=
  [ ⟨"window", fun n s => (n.natUpTo? (UInt64.size - 1)).map ({ s with window := · })⟩,
    ⟨"confirm_timeout_ms", fun n s =>
      (n.natUpTo? (UInt64.size - 1)).map ({ s with confirmTimeout := · })⟩,
    ⟨"max_retries", fun n s => (n.natUpTo? (UInt8.size - 1)).map ({ s with maxRetries := · })⟩,
    ⟨"keepalive_interval_ms", fun n s =>
      (n.natUpTo? (UInt64.size - 1)).map ({ s with keepaliveInterval := · })⟩,
    ⟨"stall_interval_ms", fun n s =>
      (n.natUpTo? (UInt64.size - 1)).map ({ s with stallInterval := · })⟩,
    ⟨"failure_threshold", fun n s =>
      (n.natUpTo? (UInt32.size - 1)).map ({ s with failureThreshold := · })⟩,
    ⟨"auto_reconnect", fun n s => n.truth?.map ({ s with autoReconnect := · })⟩ ]

/-- The section of a document. -/
def render (s : SchedulerSettings) : String :=
  s!"scheduler:\n  window: {s.window}\n  confirm_timeout_ms: {s.confirmTimeout}\n" ++
    s!"  max_retries: {s.maxRetries}\n  keepalive_interval_ms: {s.keepaliveInterval}\n" ++
    s!"  stall_interval_ms: {s.stallInterval}\n  failure_threshold: {s.failureThreshold}\n" ++
    s!"  auto_reconnect: {s.autoReconnect}\n"

end SchedulerSettings

namespace TransportSettings

def settings : List (Setting TransportSettings) :=
  [ ⟨"bootloader_wait_ms", fun n s =>
      (n.natUpTo? (UInt64.size - 1)).map ({ s with bootloaderWait := · })⟩,
    ⟨"read_timeout_ms", fun n s =>
      (n.natUpTo? (UInt64.size - 1)).map ({ s with readTimeout := · })⟩,
    ⟨"max_write_errors", fun n s =>
      (n.natUpTo? (UInt32.size - 1)).map ({ s with maxWriteErrors := · })⟩ ]

/-- The section of a document. -/
def render (s : TransportSettings) : String :=
  s!"transport:\n  bootloader_wait_ms: {s.bootloaderWait}\n" ++
    s!"  read_timeout_ms: {s.readTimeout}\n  max_write_errors: {s.maxWriteErrors}\n"

end TransportSettings

namespace LinkSettings

def settings (document : Yaml.Document) : List (Setting LinkSettings) :=
  [ ⟨"name", fun n s => n.text?.map ({ s with name := · })⟩,
    ⟨"device", fun n s => n.text?.map ({ s with device := · })⟩,
    ⟨"baud_rate", fun n s =>
      ((n.natUpTo? (UInt32.size - 1)).bind BaudRate.ofRate?).map ({ s with baudRate := · })⟩,
    ⟨"scheduler", fun n s =>
      (Setting.readAll SchedulerSettings.settings {} document n).map ({ s with scheduler := · })⟩,
    ⟨"transport", fun n s =>
      (Setting.readAll TransportSettings.settings {} document n).map ({ s with transport := · })⟩ ]

/-- Reads a document. -/
def parse (text : String) : Except SettingsError LinkSettings :=
  match Setting.parse settings {} text with
  | some s => .ok s
  | none => .error .malformed

/-- Reads the contents of a file, which is absent if it cannot be opened. -/
def ofFile (contents : Option Bytes) : Except SettingsError LinkSettings :=
  match contents.bind Utf8.decode? with
  | some text => parse text
  | none => .error .unreadable

/-- Writes a document with every setting. -/
def render (s : LinkSettings) : String :=
  s!"name: {Yaml.Text.value s.name}device: {Yaml.Text.value s.device}" ++
    s!"baud_rate: {s.baudRate.rate}\n" ++ s.scheduler.render ++ s.transport.render

end LinkSettings

end SerialLink
