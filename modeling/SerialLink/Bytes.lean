/-!
Byte strings, and unsigned words written least significant byte first.

`ofLittleEndian_littleEndian`: a word that fits its width is read back from what was written.
-/
namespace SerialLink

/-- A byte string. -/
abbrev Bytes := List UInt8

/-- The low-order `width` bytes of `n`, least significant first. -/
def littleEndian : (width : Nat) → (n : Nat) → Bytes
  | 0, _ => []
  | width + 1, n => UInt8.ofNat n :: littleEndian width (n / 256)

/-- The number of different words of a width in bytes. -/
def wordCount : (width : Nat) → Nat
  | 0 => 1
  | width + 1 => 256 * wordCount width

/-- The number whose bytes are given, least significant first. -/
def ofLittleEndian : Bytes → Nat
  | [] => 0
  | b :: rest => b.toNat + 256 * ofLittleEndian rest

@[simp] theorem length_littleEndian (width n : Nat) : (littleEndian width n).length = width := by
  induction width generalizing n with
  | zero => rfl
  | succ width ih => simp [littleEndian, ih]

theorem ofLittleEndian_littleEndian (width n : Nat) (fits : n < wordCount width) :
    ofLittleEndian (littleEndian width n) = n := by
  induction width generalizing n with
  | zero =>
    simp only [wordCount] at fits
    simp only [littleEndian, ofLittleEndian]
    omega
  | succ width ih =>
    have smaller : n / 256 < wordCount width := Nat.div_lt_of_lt_mul fits
    simp only [littleEndian, ofLittleEndian, ih _ smaller, UInt8.toNat_ofNat']
    omega

theorem ofLittleEndian_lt (bytes : Bytes) : ofLittleEndian bytes < wordCount bytes.length := by
  induction bytes with
  | nil => exact Nat.zero_lt_one
  | cons b rest ih =>
    have := b.toNat_lt
    simp only [ofLittleEndian, List.length_cons, wordCount]
    omega

end SerialLink
