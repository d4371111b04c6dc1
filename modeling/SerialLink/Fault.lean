import SerialLink.Command.Encode
import SerialLink.Event
import SerialLink.Settings

/-! What can go wrong with a link, each fault with its cause and its text. -/
namespace SerialLink

/-- A fault of the transport. -/
inductive TransportFault where
  | permissionDenied (port : String)
  /-- The port cannot be opened, for the reason that the platform gives. -/
  | openFailed (port reason : String)
  /-- A session is running already. -/
  | alreadyOpen
  | notConnected
  /-- The frame is longer than the room left for output. -/
  | outboundFull (length free : Nat)
  /-- Any other fault of the platform. -/
  | platform (reason : String)
  deriving DecidableEq, Repr

def TransportFault.message : TransportFault → String
  | .permissionDenied port => s!"permission denied opening {port}"
  | .openFailed port reason => s!"failed to open {port}: {reason}"
  | .alreadyOpen => "transport already open"
  | .notConnected => "transport not connected"
  | .outboundFull length free => s!"outbound buffer full: {length} bytes requested, {free} free"
  | .platform reason => s!"I/O error: {reason}"

/-- Why a session ends that ends with this fault. -/
def TransportFault.disconnectReason : TransportFault → DisconnectReason
  | .permissionDenied _ => .noPermission
  | _ => .ioError

/-- Why the scheduler refuses work. -/
inductive ScheduleFault where
  | queueFull (slots : Nat)
  | pendingFull (places : Nat)
  /-- The command cannot be written. -/
  | rejected (cause : EncodeError)
  | notConnected
  deriving DecidableEq, Repr

def ScheduleFault.message : ScheduleFault → String
  | .queueFull slots => s!"command queue full ({slots} slots)"
  | .pendingFull places => s!"pending request queue full ({places} entries)"
  | .rejected cause => s!"command rejected: {cause.message}"
  | .notConnected => "link not connected"

/-- What was waited for in vain. -/
inductive Awaited where
  | confirm
  | connection
  deriving DecidableEq, Repr

/-- A fault of a link. -/
inductive LinkFault where
  | transport (fault : TransportFault)
  | schedule (fault : ScheduleFault)
  | settings (fault : SettingsError)
  | timeout (awaited : Awaited)
  /-- A command ended without success. -/
  | failed (status : CompletionStatus)
  deriving DecidableEq, Repr

def LinkFault.message : LinkFault → String
  | .transport fault => fault.message
  | .schedule fault => fault.message
  | .settings fault => fault.message
  | .timeout .confirm => "timed out waiting for confirm"
  | .timeout .connection => "timed out waiting for connection"
  | .failed status => s!"command failed: {status.name}"

end SerialLink
