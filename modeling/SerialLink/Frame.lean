import SerialLink.Bytes

/-!
Frames on the serial line. A delimiter opens and closes each frame; between the two stand the
payload and its checksum, byte-stuffed so that the delimiter occurs nowhere else.

`delimiter_notMem_stuff`: byte-stuffed bytes hold no delimiter.
-/
namespace SerialLink.Frame

/-- Opens and closes every frame. -/
def delimiter : UInt8 := 0xC0

/-- Announces a substitute. -/
def escape : UInt8 := 0xDB

/-- Stands, after `escape`, for a `delimiter` among the stuffed bytes. -/
def escapedDelimiter : UInt8 := 0xDC

/-- Stands, after `escape`, for an `escape` among the stuffed bytes. -/
def escapedEscape : UInt8 := 0xDD

/-- Bytes that the checksum takes at the end of a frame's body. -/
def trailerLength : Nat := 2

/-- The number that brings the sum of the bytes to zero, modulo 2^16. -/
def checksum (data : Bytes) : UInt16 :=
  -data.foldl (fun sum b => sum + b.toUInt16) 0

/-- The checksum as it stands behind the payload, low byte first. -/
def trailer (payload : Bytes) : Bytes :=
  littleEndian trailerLength (checksum payload).toNat

/-- The payload and its checksum, before stuffing. -/
def body (payload : Bytes) : Bytes := payload ++ trailer payload

/-- What is sent for one byte of a body. -/
def stuffByte (b : UInt8) : Bytes :=
  if b = delimiter then [escape, escapedDelimiter]
  else if b = escape then [escape, escapedEscape]
  else [b]

/-- Byte-stuffs a body. -/
def stuff (bytes : Bytes) : Bytes := bytes.flatMap stuffByte

/-- Stuffs the body and puts it between delimiters. -/
def enclose (body : Bytes) : Bytes := delimiter :: stuff body ++ [delimiter]

/-- The frame that carries the payload. -/
def encode (payload : Bytes) : Bytes := enclose (body payload)

theorem delimiter_notMem_stuffByte (b : UInt8) : delimiter ∉ stuffByte b := by
  unfold stuffByte
  split
  · decide
  · split
    · decide
    · rename_i other _
      simp [Ne.symm other]

theorem delimiter_notMem_stuff (bytes : Bytes) : delimiter ∉ stuff bytes := by
  simp only [stuff, List.mem_flatMap, not_exists, not_and]
  exact fun b _ => delimiter_notMem_stuffByte b

@[simp] theorem length_trailer (payload : Bytes) : (trailer payload).length = trailerLength := by
  simp [trailer]

@[simp] theorem length_body (payload : Bytes) :
    (body payload).length = payload.length + trailerLength := by
  simp [body]

end SerialLink.Frame
