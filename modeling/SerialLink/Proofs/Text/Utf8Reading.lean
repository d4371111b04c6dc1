import SerialLink.Proofs.Text.Utf8RoundTrip

/-!
What is read from bytes that need not be UTF-8. A lead byte and the bytes it announces give a code
point above the one-byte ones, which is no surrogate and no more than U+10FFFF
(`Lead.isValidChar_of_read`), so a character is NUL only if it stands for a zero byte. Text read
from bytes without a zero byte can therefore be written, and without a zero byte again
(`zero_notMem_encode_decode`).
-/

namespace SerialLink.Utf8

/-! ### Following bytes -/

section Following

variable {count low high bits n : Nat} {input rest : Bytes}

/-- Reading ends inside of what it started with. -/
theorem readFollowing_suffix (count low high bits : Nat) (input : Bytes) :
    (readFollowing count low high bits input).2 <:+ input := by
  induction count generalizing low high bits input with
  | zero => exact List.suffix_rfl
  | succ count ih =>
    cases input with
    | nil => exact List.suffix_rfl
    | cons b rest =>
      rw [readFollowing]
      split
      · exact (ih ..).trans (List.suffix_cons b rest)
      · exact List.suffix_rfl

/-- Each byte adds six bits behind those that the lead byte announced. -/
theorem shiftRight_of_readFollowing
    (read : readFollowing count low high bits input = (some n, rest)) :
    n >>> (6 * count) = bits := by
  induction count generalizing low high bits input with
  | zero =>
    cases read
    rfl
  | succ count ih =>
    cases input with
    | nil => cases read
    | cons b input =>
      rw [readFollowing] at read
      split at read
      · have leading := ih read
        rw [Nat.mul_add, Nat.shiftRight_add, leading]
        omega
      · cases read

/-- The first of the bytes is in the range announced for it. -/
theorem shiftRight_of_readFollowing_succ
    (read : readFollowing (count + 1) low high bits input = (some n, rest)) :
    ∃ b : UInt8, low ≤ b.toNat ∧ b.toNat ≤ high ∧ n >>> (6 * count) = bits * 64 + b.toNat % 64 := by
  cases input with
  | nil => cases read
  | cons b input =>
    rw [readFollowing] at read
    split at read
    · rename_i range
      exact ⟨b, range.1, range.2, shiftRight_of_readFollowing read⟩
    · cases read

end Following

/-! ### Characters -/

/-- The bytes that lead, by how many they announce. -/
theorem Lead.cases_of_ofByte? {b : Nat} {lead : Lead} (announced : Lead.ofByte? b = some lead) :
    (∃ m : Nat, 2 ≤ m ∧ m < 32 ∧ lead = ⟨1, 0x80, 0xBF, m⟩) ∨
    (∃ m : Nat, m < 16 ∧
      lead = ⟨2, if m = 0 then 0xA0 else 0x80, if m = 13 then 0x9F else 0xBF, m⟩) ∨
    ∃ m : Nat, m < 5 ∧
      lead = ⟨3, if m = 0 then 0x90 else 0x80, if m = 4 then 0x8F else 0xBF, m⟩ := by
  by_cases two : 0xC2 ≤ b ∧ b < 0xE0
  · obtain ⟨m, rfl⟩ := Nat.exists_eq_add_of_le (show 0xC0 ≤ b by omega)
    rw [Lead.ofByte?_two (by omega) (by omega)] at announced
    exact .inl ⟨m, by omega, by omega, (Option.some.inj announced).symm⟩
  by_cases three : 0xE0 ≤ b ∧ b < 0xF0
  · obtain ⟨m, rfl⟩ := Nat.exists_eq_add_of_le three.1
    rw [Lead.ofByte?_three (by omega)] at announced
    exact .inr (.inl ⟨m, by omega, (Option.some.inj announced).symm⟩)
  by_cases four : 0xF0 ≤ b ∧ b < 0xF5
  · obtain ⟨m, rfl⟩ := Nat.exists_eq_add_of_le four.1
    rw [Lead.ofByte?_four (by omega)] at announced
    exact .inr (.inr ⟨m, by omega, (Option.some.inj announced).symm⟩)
  · unfold Lead.ofByte? at announced
    repeat rw [if_neg (by omega)] at announced
    cases announced

/-- What a lead byte and its following bytes give is a code point of more than one byte. -/
theorem Lead.isValidChar_of_read {b n : Nat} {lead : Lead} {input rest : Bytes}
    (announced : Lead.ofByte? b = some lead)
    (read : readFollowing lead.following lead.low lead.high lead.bits input = (some n, rest)) :
    0x80 ≤ n ∧ n.isValidChar := by
  unfold Nat.isValidChar
  rcases Lead.cases_of_ofByte? announced with
    ⟨m, least, most, rfl⟩ | ⟨m, most, rfl⟩ | ⟨m, most, rfl⟩
  -- The narrower ranges of the first byte are what keeps overlong forms and surrogates out.
  all_goals
    obtain ⟨first, low, high, leading⟩ := shiftRight_of_readFollowing_succ read
    dsimp only at low high leading
    have small := first.toNat_lt
  · omega
  · split at low <;> split at high <;> omega
  · split at low <;> split at high <;> omega

private theorem toNat_ofNat_of_isValidChar {n : Nat} (valid : n.isValidChar) :
    (Char.ofNat n).toNat = n := by
  rw [Char.ofNat, dif_pos valid]
  rfl

/-- A character is NUL only where a zero byte stands for it. -/
theorem toNat_decodeChar_ne_zero {b : UInt8} (other : b ≠ 0) (rest : Bytes) :
    (decodeChar b rest).1.toNat ≠ 0 := by
  have replaced : replacement.toNat ≠ 0 := by decide
  unfold decodeChar
  split
  · rename_i one
    have nonzero : b.toNat ≠ 0 := fun zero => other (UInt8.toNat_inj.mp zero)
    rw [toNat_ofNat_of_isValidChar (.inl (by omega))]
    exact nonzero
  · split
    · exact replaced
    · rename_i lead announced
      split
      · rename_i n behind read
        obtain ⟨least, valid⟩ := Lead.isValidChar_of_read announced read
        rw [toNat_ofNat_of_isValidChar valid]
        omega
      · exact replaced

theorem decodeChar_suffix (b : UInt8) (rest : Bytes) : (decodeChar b rest).2 <:+ rest := by
  unfold decodeChar
  split
  · exact List.suffix_rfl
  · split
    · exact List.suffix_rfl
    · rename_i lead _
      have inside := readFollowing_suffix lead.following lead.low lead.high lead.bits rest
      split <;> simp_all

/-- Only NUL is written with a zero byte. -/
theorem zero_notMem_encodeChar {c : Char} (other : c.toNat ≠ 0) : 0 ∉ encodeChar c := by
  have scalar : c.toNat < 0xD800 ∨ 0xDFFF < c.toNat ∧ c.toNat < 0x110000 := c.valid
  have nonzero (n : Nat) (least : n ≠ 0) (small : n < 256) : 0 ≠ UInt8.ofNat n := by
    intro eq
    have number := congrArg UInt8.toNat eq
    rw [UInt8.toNat_ofNat', Nat.mod_eq_of_lt small] at number
    exact least number.symm
  unfold encodeChar
  generalize c.toNat = n at other scalar
  dsimp only
  repeat' split
  all_goals
    simp only [List.mem_cons, List.not_mem_nil, or_false, not_or]
    repeat' apply And.intro
    all_goals exact nonzero _ (by omega) (by omega)

/-! ### Texts -/

theorem decodeOnto_ne_nul (read : List Char) {input : Bytes} (inner : 0 ∉ input) :
    ∀ c ∈ decodeOnto read input, c ∈ read ∨ c.toNat ≠ 0 := by
  fun_induction decodeOnto read input with
  | case1 read =>
    intro c mem
    exact .inl (List.mem_reverse.mp mem)
  | case2 read b rest ih =>
    rw [List.mem_cons, not_or] at inner
    obtain ⟨other, behind⟩ := inner
    intro c mem
    rcases ih (fun zero => behind ((decodeChar_suffix b rest).mem zero)) c mem with old | nonzero
    · rcases List.mem_cons.mp old with rfl | old
      · exact .inr (toNat_decodeChar_ne_zero (Ne.symm other) rest)
      · exact .inl old
    · exact .inr nonzero

/-- Text that was read from bytes without a zero byte has none when it is written. -/
theorem zero_notMem_encode_decode {bytes : Bytes} (inner : 0 ∉ bytes) :
    0 ∉ encode (decode bytes) := by
  rw [decode, encode, String.toList_ofList, List.mem_flatMap]
  rintro ⟨c, mem, zero⟩
  rcases decodeOnto_ne_nul [] inner c mem with old | nonzero
  · exact absurd old List.not_mem_nil
  · exact zero_notMem_encodeChar nonzero zero

end SerialLink.Utf8
