import SerialLink.Device

/-!
What a link tells its users: events, which go to every subscriber whose filter they pass, and
completions, of which each goes to the one who waits for it.
-/
namespace SerialLink

/-- Why a session ended. -/
inductive DisconnectReason where
  /-- Closed on request. -/
  | normal
  /-- Access to the port was denied. -/
  | noPermission
  /-- Too many commands in a row went unanswered. -/
  | timeout
  /-- Opening, reading or writing failed. -/
  | ioError
  /-- As `timeout`, and the update loader was seen. -/
  | bootloaderOnly
  deriving DecidableEq, Repr

/-- The name in metric labels. -/
def DisconnectReason.name : DisconnectReason → String
  | .normal => "normal"
  | .noPermission => "no_permission"
  | .timeout => "timeout"
  | .ioError => "io_error"
  | .bootloaderOnly => "bootloader_only"

/-- How a command or bulk request ended. -/
inductive CompletionStatus where
  /-- The device confirmed it. -/
  | success
  /-- It was sent as often as allowed and not confirmed. -/
  | timeout
  /-- The session ended while it was outstanding. -/
  | disconnected
  /-- It has no payload, or none that can be written. -/
  | rejected
  deriving DecidableEq, Repr

def CompletionStatus.name : CompletionStatus → String
  | .success => "success"
  | .timeout => "timeout"
  | .disconnected => "disconnected"
  | .rejected => "rejected"

/-- Names a bulk request, whose payload its owner keeps until it can be sent. -/
structure RequestId where
  number : Nat
  deriving DecidableEq, Repr

def RequestId.describe (id : RequestId) : String := s!"#{id.number}"

/-- Names a callback that waits for the outcome of a command. -/
structure Callback where
  number : Nat
  deriving DecidableEq, Repr

/-- What subscribers are told. -/
inductive LinkEvent where
  /-- Commands flow. -/
  | connected
  | disconnected (reason : DisconnectReason)
  /-- The update loader answered instead of the firmware. -/
  | bootloaderActive
  /-- A device status byte changed. -/
  | deviceStatusChanged (status : DeviceStatus)
  /-- The device sent a command. -/
  | command (command : Command)
  /-- A bulk request ended. -/
  | requestCompleted (id : RequestId) (status : CompletionStatus)
  deriving DecidableEq, Repr

/-- Which events a subscriber wants. -/
inductive EventFilter where
  | all
  /-- Commands with this id. -/
  | command (id : UInt8)
  /-- Connects, disconnects and the update loader. -/
  | connection
  | deviceStatus
  | requests
  deriving DecidableEq, Repr

/-- Whether the event passes the filter. -/
def EventFilter.passes : EventFilter → LinkEvent → Bool
  | .all, _ => true
  | .command id, .command received => received.id = id
  | .connection, .connected => true
  | .connection, .disconnected _ => true
  | .connection, .bootloaderActive => true
  | .deviceStatus, .deviceStatusChanged _ => true
  | .requests, .requestCompleted .. => true
  | _, _ => false

/-- Something to be told, once the link is not being worked on. -/
inductive Completion where
  /-- The outcome of a command, with the confirm if it succeeded. -/
  | command (callback : Callback) (status : CompletionStatus) (response : Option Command)
  /-- The outcome of a bulk request. -/
  | request (id : RequestId) (status : CompletionStatus)
  | event (event : LinkEvent)
  deriving DecidableEq, Repr

end SerialLink
