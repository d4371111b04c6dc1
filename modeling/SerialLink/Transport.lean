import SerialLink.Fault

/-!
What a link needs of the connection to the device: sessions that are started and ended, frames out,
bytes in, and reports of what happens. Nothing here waits.
-/
namespace SerialLink

/-- How far a session has come. -/
inductive TransportState where
  /-- There is no session. -/
  | closed
  /-- The port is being opened. -/
  | opening
  /-- The probe for the update loader is being written. -/
  | probing
  /-- The update loader may still answer. -/
  | awaitingBootloader
  /-- Frames may flow. -/
  | operational
  deriving DecidableEq, Repr

def TransportState.name : TransportState → String
  | .closed => "closed"
  | .opening => "opening"
  | .probing => "probing"
  | .awaitingBootloader => "awaiting-bootloader"
  | .operational => "operational"

/-- What a transport reports. -/
inductive TransportEvent where
  /-- Bytes wait to be received. -/
  | readable
  /-- The session has become operational. -/
  | connected
  /-- The update loader answered. -/
  | bootloaderActive
  /-- The session has ended. -/
  | disconnected (reason : DisconnectReason)
  deriving DecidableEq, Repr

/-- A report and the session that it is about, which may be over by the time it is heard. -/
structure SessionEvent where
  session : Nat
  event : TransportEvent
  deriving DecidableEq, Repr

/-- A connection to the device. Calls may fail at any time, and leave any state behind. -/
class Transport (τ : Type) where
  /-- Starts a session. -/
  start : τ → Except TransportFault Unit × τ
  /-- Number of the session that runs, or of the last one. -/
  session : τ → Nat
  /-- Ends the session. -/
  stop : DisconnectReason → τ → τ
  /-- Takes a frame to be sent, or nothing of it. -/
  send : Bytes → τ → Except TransportFault Unit × τ
  /-- Hands over the bytes received so far. -/
  receive : τ → Bytes × τ
  /-- Hands over the oldest report. -/
  nextEvent? : τ → Option (SessionEvent × τ)

end SerialLink
