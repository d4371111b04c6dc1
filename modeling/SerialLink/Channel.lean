import SerialLink.Frame.Receiver
import SerialLink.Command.Encode
import SerialLink.Command.Decode

/-!
A channel puts commands into frames and takes commands out of what arrives, with one command table
for both.
-/
namespace SerialLink

/-- A channel. Payloads received wait in the order of their frames until they are decoded. -/
structure Channel where
  table : CommandTable := .builtin
  receiver : Receiver := {}
  waiting : List Bytes := []
  deriving DecidableEq, Repr

namespace Channel

/-- The frame that carries a command. -/
def encode (channel : Channel) (command : Command) : Except EncodeError Bytes :=
  (channel.table.encode command Command.maxLength).map Frame.encode

/-- Takes received bytes. -/
def feed (channel : Channel) (bytes : Bytes) : Channel :=
  let (payloads, receiver) := channel.receiver.feedAll bytes
  { channel with receiver, waiting := channel.waiting ++ payloads }

/-- Decodes the payload that has waited longest, if one waits. -/
def decode? (channel : Channel) : Option (Except DecodeError Command) × Channel :=
  match channel.waiting with
  | [] => (none, channel)
  | payload :: waiting => (some (channel.table.decode payload), { channel with waiting })

/-- Drops the frame in progress and the payloads that wait. -/
def reset (channel : Channel) : Channel :=
  { channel with receiver := channel.receiver.reset, waiting := [] }

end Channel

end SerialLink
