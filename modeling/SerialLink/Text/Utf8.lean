import SerialLink.Bytes

/-!
UTF-8. `encode` writes text; `decode` reads bytes and puts U+FFFD where they are not UTF-8, once
for each longest stretch of bytes that some character starts with.
-/
namespace SerialLink.Utf8

/-- The bytes of one character. -/
def encodeChar (c : Char) : Bytes :=
  let n := c.toNat
  if n < 0x80 then [.ofNat n]
  else if n < 0x800 then [.ofNat (0xC0 + n / 64), .ofNat (0x80 + n % 64)]
  else if n < 0x10000 then
    [.ofNat (0xE0 + n / 4096), .ofNat (0x80 + n / 64 % 64), .ofNat (0x80 + n % 64)]
  else
    [.ofNat (0xF0 + n / 262144), .ofNat (0x80 + n / 4096 % 64), .ofNat (0x80 + n / 64 % 64),
      .ofNat (0x80 + n % 64)]

/-- The bytes of a text. -/
def encode (text : String) : Bytes := text.toList.flatMap encodeChar

/-- Stands for bytes that are not UTF-8. -/
def replacement : Char := Char.ofNat 0xFFFD

/-- What a lead byte announces: how many bytes follow, the range of the first of them (the later
ones lie in 80 to BF), and the code point's leading bits. -/
structure Lead where
  following : Nat
  low : Nat
  high : Nat
  bits : Nat
  deriving DecidableEq, Repr

/-- The ranges leave out overlong forms, surrogates and numbers above U+10FFFF. -/
def Lead.ofByte? (b : Nat) : Option Lead :=
  if 0xC2 ≤ b ∧ b ≤ 0xDF then some ⟨1, 0x80, 0xBF, b - 0xC0⟩
  else if b = 0xE0 then some ⟨2, 0xA0, 0xBF, 0⟩
  else if b = 0xED then some ⟨2, 0x80, 0x9F, 0xD⟩
  else if 0xE1 ≤ b ∧ b ≤ 0xEF then some ⟨2, 0x80, 0xBF, b - 0xE0⟩
  else if b = 0xF0 then some ⟨3, 0x90, 0xBF, 0⟩
  else if 0xF1 ≤ b ∧ b ≤ 0xF3 then some ⟨3, 0x80, 0xBF, b - 0xF0⟩
  else if b = 0xF4 then some ⟨3, 0x80, 0x8F, 4⟩
  else none

/-- Reads `count` following bytes, the first in `low` to `high`. Gives the code point, or `none` if
one is missing or out of range, and the input from the first byte not used. -/
def readFollowing : (count low high bits : Nat) → Bytes → Option Nat × Bytes
  | 0, _, _, bits, input => (some bits, input)
  | _ + 1, _, _, _, [] => (none, [])
  | count + 1, low, high, bits, b :: rest =>
    if low ≤ b.toNat ∧ b.toNat ≤ high then
      readFollowing count 0x80 0xBF (bits * 64 + b.toNat % 64) rest
    else (none, b :: rest)

theorem length_readFollowing_le (count low high bits : Nat) (input : Bytes) :
    (readFollowing count low high bits input).2.length ≤ input.length := by
  induction count generalizing low high bits input with
  | zero => simp [readFollowing]
  | succ count ih =>
    cases input with
    | nil => simp [readFollowing]
    | cons b rest =>
      simp only [readFollowing]
      split
      · exact Nat.le_succ_of_le (ih ..)
      · simp

/-- Reads one character, or `replacement` for bytes that start none. -/
def decodeChar (b : UInt8) (rest : Bytes) : Char × Bytes :=
  if b.toNat < 0x80 then (Char.ofNat b.toNat, rest)
  else
    match Lead.ofByte? b.toNat with
    | none => (replacement, rest)
    | some lead =>
      match readFollowing lead.following lead.low lead.high lead.bits rest with
      | (some n, rest) => (Char.ofNat n, rest)
      | (none, rest) => (replacement, rest)

theorem length_decodeChar_le (b : UInt8) (rest : Bytes) :
    (decodeChar b rest).2.length ≤ rest.length := by
  unfold decodeChar
  split
  · exact Nat.le_refl _
  · split
    · exact Nat.le_refl _
    · rename_i lead _
      have := length_readFollowing_le lead.following lead.low lead.high lead.bits rest
      split <;> simp_all

/-- Reads characters behind those of `read`, which stand last first. -/
def decodeOnto (read : List Char) : Bytes → List Char
  | [] => read.reverse
  | b :: rest => decodeOnto ((decodeChar b rest).1 :: read) (decodeChar b rest).2
termination_by input => input.length
decreasing_by exact Nat.lt_succ_of_le (length_decodeChar_le b rest)

/-- The text of the bytes, with `replacement` for what is not UTF-8. -/
def decode (input : Bytes) : String := String.ofList (decodeOnto [] input)

/-- The text of the bytes, if all of them are UTF-8. -/
def decode? (input : Bytes) : Option String :=
  if encode (decode input) = input then some (decode input) else none

end SerialLink.Utf8
