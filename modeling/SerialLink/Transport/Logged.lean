import SerialLink.Transport

/-! Any transport, with the frames that it was handed and those that it has taken kept beside it. -/
namespace SerialLink

/-- A transport and its frames, oldest first. -/
structure LoggedTransport (τ : Type) where
  transport : τ
  /-- The frames that it was handed, taken or not. -/
  handed : List Bytes := []
  /-- The frames that it has taken. -/
  frames : List Bytes := []

namespace LoggedTransport

variable {τ : Type} [Transport τ]

/-- Hands on a frame; one that is refused is not kept among those taken. -/
def send (frame : Bytes) (t : LoggedTransport τ) :
    Except TransportFault Unit × LoggedTransport τ :=
  let t := { t with handed := t.handed ++ [frame] }
  match Transport.send frame t.transport with
  | (.ok (), transport) => (.ok (), { t with transport, frames := t.frames ++ [frame] })
  | (.error fault, transport) => (.error fault, { t with transport })

instance : Transport (LoggedTransport τ) where
  start t :=
    let (result, transport) := Transport.start t.transport
    (result, { t with transport })
  session t := Transport.session t.transport
  stop reason t := { t with transport := Transport.stop reason t.transport }
  send := send
  receive t :=
    let (bytes, transport) := Transport.receive t.transport
    (bytes, { t with transport })
  nextEvent? t :=
    (Transport.nextEvent? t.transport).map fun (event, transport) => (event, { t with transport })

end LoggedTransport

end SerialLink
