/-!
Settings of a link, their defaults, and what they must satisfy before a link is made.
-/
namespace SerialLink

/-- A line rate that the device supports. -/
inductive BaudRate where
  | b38400
  | b57600
  | b115200
  | b230400
  deriving DecidableEq, Repr

namespace BaudRate

/-- Symbols per second. -/
def rate : BaudRate → Nat
  | .b38400 => 38400
  | .b57600 => 57600
  | .b115200 => 115200
  | .b230400 => 230400

/-- Every supported rate, slowest first. -/
def all : List BaudRate := [.b38400, .b57600, .b115200, .b230400]

/-- The supported rate of that number; none is ever rounded to. -/
def ofRate? (n : Nat) : Option BaudRate := all.find? fun b => b.rate = n

end BaudRate

/-- Times and limits of the scheduler. Times are in milliseconds. -/
structure SchedulerSettings where
  /-- Commands that may await their confirm at the same time. -/
  window : Nat := 2
  /-- How long a confirm is waited for. -/
  confirmTimeout : Nat := 1000
  /-- How often a command is sent again. -/
  maxRetries : Nat := 2
  /-- Idle time after which the device is probed. -/
  keepaliveInterval : Nat := 1000
  /-- Time without any confirm after which the device is probed although the window is full. -/
  stallInterval : Nat := 5000
  /-- Commands in a row without confirm that end the session; at most 2^32 - 32, so that a word of 32
  bits counts them (see `Scheduler.failures`). -/
  failureThreshold : Nat := 5
  /-- A session that ended this way is followed by another. -/
  autoReconnect : Bool := true
  deriving DecidableEq, Repr

/-- Times and limits of the port. Times are in milliseconds. -/
structure TransportSettings where
  /-- How long the update loader may take to answer before commands flow. -/
  bootloaderWait : Nat := 600
  /-- How long one read of the port may take. -/
  readTimeout : Nat := 10
  /-- Failed writes in a row that end the session. -/
  maxWriteErrors : Nat := 3
  deriving DecidableEq, Repr

/-- Settings of a link. -/
structure LinkSettings where
  /-- Names the link in metrics. -/
  name : String := "coordinator"
  /-- The serial port. -/
  device : String := ""
  baudRate : BaudRate := .b115200
  scheduler : SchedulerSettings := {}
  transport : TransportSettings := {}
  deriving DecidableEq, Repr

/-- Why settings are refused. -/
inductive SettingsError where
  /-- The file cannot be read, or is not text. -/
  | unreadable
  /-- The text is no settings document. -/
  | malformed
  | unsupportedBaudRate (rate : Nat)
  | missingDevice
  | invalidValue (field reason : String)
  deriving DecidableEq, Repr

def SettingsError.message : SettingsError → String
  | .unreadable => "failed to read the settings file"
  | .malformed => "invalid configuration"
  | .unsupportedBaudRate rate =>
    s!"unsupported baud rate {rate} (supported: 38400, 57600, 115200, 230400)"
  | .missingDevice => "no device path configured"
  | .invalidValue field reason => s!"invalid value for {field}: {reason}"

/-- The supported rate of that number, or why there is none. -/
def BaudRate.ofRate (n : Nat) : Except SettingsError BaudRate :=
  match ofRate? n with
  | some b => .ok b
  | none => .error (.unsupportedBaudRate n)

namespace LinkSettings

/-- What a link needs: a port, and limits that let it send, wait, fail and read. The first thing
missing is reported. -/
def check (settings : LinkSettings) : Except SettingsError Unit :=
  if settings.device.isEmpty then .error .missingDevice
  else if settings.scheduler.window = 0 then
    .error (.invalidValue "scheduler.window" "must be at least 1")
  else if settings.scheduler.confirmTimeout = 0 then
    .error (.invalidValue "scheduler.confirm_timeout_ms" "must be positive")
  else if settings.scheduler.failureThreshold = 0 then
    .error (.invalidValue "scheduler.failure_threshold" "must be at least 1")
  else if settings.transport.readTimeout = 0 then
    .error (.invalidValue "transport.read_timeout_ms" "must be positive")
  else .ok ()

end LinkSettings

end SerialLink
