import SerialLink.Command.Table

/-! What the device reports of itself: its network state, and flags for what it has or wants. -/
namespace SerialLink

/-- The device's part in the network. -/
inductive NetworkState where
  | offline
  | joining
  | connected
  | leaving
  deriving DecidableEq, Repr

/-- The two low-order bits of the device state byte. -/
def NetworkState.ofByte (state : UInt8) : NetworkState :=
  match state.toNat % 4 with
  | 0 => .offline
  | 1 => .joining
  | 2 => .connected
  | _ => .leaving

def NetworkState.toByte : NetworkState → UInt8
  | .offline => 0
  | .joining => 1
  | .connected => 2
  | .leaving => 3

def NetworkState.name : NetworkState → String
  | .offline => "offline"
  | .joining => "joining"
  | .connected => "connected"
  | .leaving => "leaving"

/-- The last reported device status. -/
structure DeviceStatus where
  /-- Network state and flags. -/
  state : UInt8 := 0
  /-- Extension flags. -/
  ext : UInt8 := 0
  deriving DecidableEq, Repr

namespace DeviceStatus

/-- The status after an update. One without an extension byte keeps the old one. -/
def apply (status : DeviceStatus) (update : StatusUpdate) : DeviceStatus :=
  ⟨update.state, update.ext.getD status.ext⟩

def networkState (status : DeviceStatus) : NetworkState := .ofByte status.state

/-- The device is part of a network and operates in it. -/
def isJoined (status : DeviceStatus) : Bool := status.networkState = .connected

/-- Whether the bit at the given place of the state byte is set. -/
def hasFlag (status : DeviceStatus) (bit : Nat) : Bool := status.state.toNat.testBit bit

/-- The confirm of a data request waits to be fetched. -/
def confirmPending (status : DeviceStatus) : Bool := status.hasFlag 2

/-- Received application data waits to be fetched. -/
def indicationPending (status : DeviceStatus) : Bool := status.hasFlag 3

/-- The device configuration changed since it was last read. -/
def configChanged (status : DeviceStatus) : Bool := status.hasFlag 4

/-- The device accepts another data request. -/
def hasFreeSlot (status : DeviceStatus) : Bool := status.hasFlag 5

/-- The network state, the flags that are set, and both bytes. -/
def describe (status : DeviceStatus) : String :=
  let flag (set : Bool) (name : String) := if set then " +" ++ name else ""
  status.networkState.name
    ++ flag status.confirmPending "confirm"
    ++ flag status.indicationPending "indication"
    ++ flag status.hasFreeSlot "free"
    ++ flag status.configChanged "conf"
    ++ s!" (0x{hexByte status.state}/0x{hexByte status.ext})"

end DeviceStatus

end SerialLink
