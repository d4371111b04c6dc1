import SerialLink.Text.Extending
import SerialLink.Text.Unassigned

/-!
Which characters show as themselves in a message. A character does not if it is a control or format
character, a separator other than the space, for private use or unassigned, and neither if it is a
letter without a shape. A mark that extends the grapheme before it does not either, since it would
attach to the quotation mark; the two sound marks of half width, which are letters, do not attach.
-/
namespace SerialLink

namespace Printable

/-- The code points of the general categories Cc, Cf, Co, Zl and Zp, and of Zs less the space. -/
def invisible : List (Nat × Nat) := [
  (0x0, 0x1F), (0x7F, 0xA0), (0xAD, 0xAD), (0x600, 0x605), (0x61C, 0x61C), (0x6DD, 0x6DD),
  (0x70F, 0x70F), (0x890, 0x891), (0x8E2, 0x8E2), (0x1680, 0x1680), (0x180E, 0x180E),
  (0x2000, 0x200F), (0x2028, 0x202F), (0x205F, 0x2064), (0x2066, 0x206F), (0x3000, 0x3000),
  (0xE000, 0xF8FF), (0xFEFF, 0xFEFF), (0xFFF9, 0xFFFB), (0x110BD, 0x110BD), (0x110CD, 0x110CD),
  (0x13430, 0x1343F), (0x1BCA0, 0x1BCA3), (0x1D173, 0x1D17A), (0xE0001, 0xE0001),
  (0xE0020, 0xE007F), (0xF0000, 0xFFFFD), (0x100000, 0x10FFFD)]

/-- The letters with the property Default_Ignorable_Code_Point: the fillers of Hangul. -/
def shapeless : List (Nat × Nat) := [
  (0x115F, 0x1160), (0x3164, 0x3164), (0xFFA0, 0xFFA0)]

/-- Whether a code point lies in one of the ranges, ends included. -/
def within (n : Nat) (ranges : List (Nat × Nat)) : Bool :=
  ranges.any fun range => range.1 ≤ n && n ≤ range.2

/-- Everything that does not show as itself. -/
def hidden : List (List (Nat × Nat)) := [invisible, shapeless, extending, unassigned]

end Printable

/-- Whether the character shows as itself, alone between quotation marks. -/
def isPrintable (c : Char) : Bool :=
  !Printable.hidden.any (Printable.within c.toNat)

end SerialLink
