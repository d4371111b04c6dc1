import SerialLink.Command

/-!
The command table gives the layout of each command id. It starts with the built-in commands;
further ones may be registered, but none is ever replaced.

`CommandTable.id_of_get?`: the entry found under an id carries that id.
-/
namespace SerialLink

/-- What the table holds of one command. -/
structure CommandSpec where
  id : UInt8
  name : String
  /-- Absent if the command is a header and nothing else. -/
  layout : Option Layout
  /-- The first field is the device state byte. -/
  carriesStatus : Bool := false
  deriving DecidableEq, Repr

/-- The device status bytes found in a command. -/
structure StatusUpdate where
  state : UInt8
  /-- The extension byte; only status reports have it. -/
  ext : Option UInt8
  deriving DecidableEq, Repr

/-- The commands known to a link, in the order in which they were added. -/
structure CommandTable where
  entries : List CommandSpec
  deriving DecidableEq, Repr

/-- Why a command cannot be registered. -/
inductive RegisterError where
  /-- The id is in the table already. -/
  | duplicateCommand (id : UInt8)
  | layout (error : LayoutError)
  deriving DecidableEq, Repr

def RegisterError.message : RegisterError → String
  | .duplicateCommand id => s!"command id 0x{hexByte id} already registered"
  | .layout error => error.message

namespace CommandTable

open SerialLink.Field SerialLink.Width in
/-- The commands that every device knows. -/
def builtin : CommandTable where
  entries :=
    let b := word one
    let w := word two
    let l := word four
    let q := word eight
    [ ⟨Command.acknowledge, "ACK", none, false⟩,
      ⟨Command.dataConfirm, "APS_DATA_CONFIRM", some [b, b, b, w, b, b, b], true⟩,
      ⟨Command.deviceStatus, "STATUS", some [b, b], true⟩,
      ⟨Command.changeNetworkState, "CHANGE_NETWORK_STATE", some [b], false⟩,
      ⟨Command.readParameter, "READ_PARAMETER", some [b, data], false⟩,
      ⟨Command.writeParameter, "WRITE_PARAMETER", some [b, data], false⟩,
      ⟨Command.version, "VERSION", some [l], false⟩,
      ⟨Command.deviceStatusChanged, "STATUS_CHANGED", some [b, b], true⟩,
      ⟨Command.dataRequest, "APS_DATA_REQUEST", some [b, b, b, w, b, w, w, b, data, b, b], true⟩,
      ⟨Command.dataIndication, "APS_DATA_INDICATION", some [b, b, w, b, b, w, w, data, b, b],
        true⟩,
      ⟨Command.macPoll, "MAC_POLL", some [b, w, b, b], false⟩,
      ⟨Command.updateNeighbor, "UPDATE_NEIGHBOR", some [b, w, q, b], false⟩,
      ⟨Command.beaconIndication, "BEACON_INDICATION", some [w, w, b, b, b], false⟩,
      ⟨Command.updateBootloader, "UPDATE_BOOTLOADER", some [l], false⟩,
      ⟨Command.neighborList, "NEIGHBOR_LIST", some [b, words two], false⟩,
      ⟨Command.debugLog, "DEBUG_LOG", some [b, text], false⟩ ]

/-- The entry of an id. -/
def get? (table : CommandTable) (id : UInt8) : Option CommandSpec :=
  table.entries.find? fun spec => spec.id == id

/-- The layout of an id, if it is in the table and has one. -/
def layout? (table : CommandTable) (id : UInt8) : Option Layout :=
  (table.get? id).bind CommandSpec.layout

/-- The name of an id, or `UNKNOWN`. -/
def name (table : CommandTable) (id : UInt8) : String :=
  ((table.get? id).map CommandSpec.name).getD "UNKNOWN"

/-- The entries by ascending id. -/
def toList (table : CommandTable) : List CommandSpec :=
  (List.range 256).filterMap fun n => table.get? (.ofNat n)

/-- Adds a command. An empty descriptor describes a command that is a header and nothing else. An
id that is taken is reported before a fault in the descriptor. -/
def register (table : CommandTable) (id : UInt8) (name descriptor : String)
    (carriesStatus : Bool) : Except RegisterError CommandTable :=
  if (table.get? id).isSome then .error (.duplicateCommand id)
  else
    match Layout.parse descriptor with
    | .error e => .error (.layout e)
    | .ok layout =>
      let layout := if layout.isEmpty then none else some layout
      .ok { table with entries := table.entries ++ [⟨id, name, layout, carriesStatus⟩] }

/-- The command of the given id with every field zero. -/
def zeroed? (table : CommandTable) (id : UInt8) : Option Command :=
  (table.layout? id).map fun layout => { id, values := layout.map Value.zero }

/-- The device status bytes that a command carries. -/
def statusUpdate? (table : CommandTable) (command : Command) : Option StatusUpdate := do
  let spec ← table.get? command.id
  if spec.carriesStatus then
    let state ← command.values[0]?.bind Value.u8?
    let reports := command.id = Command.deviceStatus ∨ command.id = Command.deviceStatusChanged
    some ⟨state, if reports then command.values[1]?.bind Value.u8? else none⟩
  else none

theorem id_of_get? {table : CommandTable} {id : UInt8} {spec : CommandSpec}
    (h : table.get? id = some spec) : spec.id = id := by
  simpa using List.find?_some h

end CommandTable

/-- The request of a built-in id with every field zero. -/
def Command.request? (id : UInt8) : Option Command := CommandTable.builtin.zeroed? id

end SerialLink
