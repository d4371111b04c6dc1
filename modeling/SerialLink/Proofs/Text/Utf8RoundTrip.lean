import SerialLink.Text.Utf8

/-!
Text is read back from its UTF-8 bytes as it was (`decode_encode_text`). The bytes of a character
are recognised by the first of them, whatever follows (`decodeChar_encodeChar`): the ranges that
the lead byte announces leave out just the forms that no character has.
-/

namespace SerialLink.Utf8

/-! ### Lead bytes -/

/-- Leads of two bytes. Smaller numbers would be overlong. -/
theorem Lead.ofByte?_two {m : Nat} (least : 2 ≤ m) (most : m < 32) :
    Lead.ofByte? (0xC0 + m) = some ⟨1, 0x80, 0xBF, m⟩ := by
  unfold Lead.ofByte?
  rw [if_pos (by omega), Nat.add_sub_cancel_left]

/-- Leads of three bytes. The first range is narrower where there would be overlong forms, and where
there would be surrogates. -/
theorem Lead.ofByte?_three {m : Nat} (most : m < 16) :
    Lead.ofByte? (0xE0 + m) =
      some ⟨2, if m = 0 then 0xA0 else 0x80, if m = 13 then 0x9F else 0xBF, m⟩ := by
  revert m
  decide

/-- Leads of four bytes. The first range is narrower where there would be overlong forms, and behind
the last code point. -/
theorem Lead.ofByte?_four {m : Nat} (most : m < 5) :
    Lead.ofByte? (0xF0 + m) =
      some ⟨3, if m = 0 then 0x90 else 0x80, if m = 4 then 0x8F else 0xBF, m⟩ := by
  revert m
  decide

/-! ### Characters -/

theorem readFollowing_cons {count low high bits : Nat} {b : UInt8} {rest : Bytes}
    (least : low ≤ b.toNat) (most : b.toNat ≤ high) :
    readFollowing (count + 1) low high bits (b :: rest) =
      readFollowing count 0x80 0xBF (bits * 64 + b.toNat % 64) rest := by
  rw [readFollowing, if_pos ⟨least, most⟩]

private theorem toNat_ofNat {n : Nat} (small : n < 256) : (UInt8.ofNat n).toNat = n := by
  rw [UInt8.toNat_ofNat']
  exact Nat.mod_eq_of_lt small

/-- A lead byte and the bytes that it announces. -/
theorem decodeChar_of_lead {b : UInt8} {lead : Lead} {c : Char} {tail rest : Bytes}
    (above : 0x80 ≤ b.toNat) (announced : Lead.ofByte? b.toNat = some lead)
    (followed : readFollowing lead.following lead.low lead.high lead.bits (tail ++ rest) =
      (some c.toNat, rest)) :
    decodeChar b (tail ++ rest) = (c, rest) := by
  unfold decodeChar
  rw [if_neg (by omega), announced]
  simp only [followed, Char.ofNat_toNat]

/-- The bytes of a character are read as that character, whatever follows them. -/
theorem decodeChar_encodeChar (c : Char) :
    ∃ (b : UInt8) (tail : Bytes), encodeChar c = b :: tail ∧
      ∀ rest : Bytes, decodeChar b (tail ++ rest) = (c, rest) := by
  have scalar : c.toNat < 0xD800 ∨ 0xDFFF < c.toNat ∧ c.toNat < 0x110000 := c.valid
  unfold encodeChar
  generalize size : c.toNat = n at scalar
  dsimp only
  have last : (UInt8.ofNat (0x80 + n % 64)).toNat = 0x80 + n % 64 := toNat_ofNat (by omega)
  have middle : (UInt8.ofNat (0x80 + n / 64 % 64)).toNat = 0x80 + n / 64 % 64 :=
    toNat_ofNat (by omega)
  split
  · rename_i one
    refine ⟨_, [], rfl, fun rest => ?_⟩
    have first : (UInt8.ofNat n).toNat = n := toNat_ofNat (by omega)
    unfold decodeChar
    rw [first, if_pos one, ← size, Char.ofNat_toNat]
    rfl
  · split
    · refine ⟨_, _, rfl, fun rest => ?_⟩
      have first : (UInt8.ofNat (0xC0 + n / 64)).toNat = 0xC0 + n / 64 := toNat_ofNat (by omega)
      refine decodeChar_of_lead (by omega)
        (first ▸ Lead.ofByte?_two (m := n / 64) (by omega) (by omega)) ?_
      simp only [List.cons_append, List.nil_append]
      rw [readFollowing_cons (by omega) (by omega), readFollowing, last, size]
      congr 2
      omega
    · split
      · refine ⟨_, _, rfl, fun rest => ?_⟩
        have first : (UInt8.ofNat (0xE0 + n / 4096)).toNat = 0xE0 + n / 4096 :=
          toNat_ofNat (by omega)
        refine decodeChar_of_lead (by omega)
          (first ▸ Lead.ofByte?_three (m := n / 4096) (by omega)) ?_
        simp only [List.cons_append, List.nil_append]
        rw [readFollowing_cons (by split <;> omega) (by split <;> omega),
          readFollowing_cons (by omega) (by omega), readFollowing, middle, last, size]
        congr 2
        omega
      · refine ⟨_, _, rfl, fun rest => ?_⟩
        have first : (UInt8.ofNat (0xF0 + n / 262144)).toNat = 0xF0 + n / 262144 :=
          toNat_ofNat (by omega)
        have second : (UInt8.ofNat (0x80 + n / 4096 % 64)).toNat = 0x80 + n / 4096 % 64 :=
          toNat_ofNat (by omega)
        refine decodeChar_of_lead (by omega)
          (first ▸ Lead.ofByte?_four (m := n / 262144) (by omega)) ?_
        simp only [List.cons_append, List.nil_append]
        rw [readFollowing_cons (by split <;> omega) (by split <;> omega),
          readFollowing_cons (by omega) (by omega), readFollowing_cons (by omega) (by omega),
          readFollowing, second, middle, last, size]
        congr 2
        omega

/-! ### Texts -/

theorem decodeOnto_encodeChars (read chars : List Char) :
    decodeOnto read (chars.flatMap encodeChar) = read.reverse ++ chars := by
  induction chars generalizing read with
  | nil =>
    rw [List.flatMap_nil, decodeOnto, List.append_nil]
  | cons c chars ih =>
    obtain ⟨b, tail, bytes, readBack⟩ := decodeChar_encodeChar c
    rw [List.flatMap_cons, bytes, List.cons_append, decodeOnto, readBack]
    dsimp only
    rw [ih, List.reverse_cons, List.append_assoc, List.singleton_append]

/-- Text is read back from its bytes. -/
theorem decode_encode_text (text : String) : decode (encode text) = text := by
  rw [decode, encode, decodeOnto_encodeChars, List.reverse_nil, List.nil_append,
    String.ofList_toList]

end SerialLink.Utf8
