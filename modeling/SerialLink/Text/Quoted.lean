import SerialLink.Text.Printable

/-!
How a message shows numbers and single characters: a byte as two hexadecimal digits, a character
between single quotation marks with what would not be seen written as an escape.
-/
namespace SerialLink

/-- Two upper-case hexadecimal digits. -/
def hexByte (b : UInt8) : String :=
  String.ofList ((hexDigits b.toNat).map Char.toUpper)
where
  hexDigits (n : Nat) : List Char := [Nat.digitChar (n / 16), Nat.digitChar (n % 16)]

namespace Quoted

/-- The single quotation mark. -/
def mark : Char := Char.ofNat 0x27

/-- The character as it stands between the marks. -/
def body (c : Char) : String :=
  if c = Char.ofNat 0 then "\\0"
  else if c = '\t' then "\\t"
  else if c = '\r' then "\\r"
  else if c = '\n' then "\\n"
  else if c = mark ∨ c = '\\' then String.ofList ['\\', c]
  else if isPrintable c then String.singleton c
  else "\\u\x7b" ++ String.ofList (Nat.toDigits 16 c.toNat) ++ "\x7d"

end Quoted

/-- The character between single quotation marks. -/
def quoted (c : Char) : String :=
  String.singleton Quoted.mark ++ Quoted.body c ++ String.singleton Quoted.mark

end SerialLink
