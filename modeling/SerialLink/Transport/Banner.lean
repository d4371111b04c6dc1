import SerialLink.Bytes

/-!
Watching a stream of bytes, cut into arbitrary pieces, for the banner of the update loader. Between
two pieces only the last bytes are kept: one less than the banner has.
-/
namespace SerialLink

namespace Banner

/-- What the update loader prints when it answers the probe. -/
def text : Bytes := [0x42, 0x6F, 0x6F, 0x74, 0x6C, 0x6F, 0x61, 0x64, 0x65, 0x72]

/-- The banner occurs among the bytes. -/
def occursIn : Bytes → Bool
  | [] => false
  | b :: rest => text.isPrefixOf (b :: rest) || occursIn rest

end Banner

/-- A watch for the banner. -/
structure BannerWatch where
  /-- The last bytes of the pieces so far. -/
  kept : Bytes := []
  seen : Bool := false
  deriving DecidableEq, Repr

namespace BannerWatch

/-- Looks at a piece, and tells whether it completes the banner for the first time. -/
def feed (w : BannerWatch) (piece : Bytes) : Bool × BannerWatch :=
  if w.seen then (false, w)
  else
    let window := w.kept ++ piece
    if Banner.occursIn window then (true, { kept := [], seen := true })
    else (false, { w with kept := window.drop (window.length - (Banner.text.length - 1)) })

end BannerWatch

end SerialLink
