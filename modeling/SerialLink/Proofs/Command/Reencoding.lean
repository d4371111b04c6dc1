import SerialLink.Proofs.Command.Grammar
import SerialLink.Proofs.Command.RoundTrip
import SerialLink.Proofs.Text.Utf8Reading

/-!
A command that was read can be written again, if there is room for it, and what is written is read
as the same command (`CommandTable.encode_of_decode`). Every value that a form carries is in the
range of its field, and its text holds no zero byte (`Field.Carries.encode_eq_ok`), so room is all
that can be lacking (`Layout.Carries.encodeFrom`).

Writing gives the bytes that were read just where they are a form of the command in full: see
`Layout.Fills`. What reading passes over is not written again: bytes behind the last field, bytes
that a missing word took, and bytes that are not UTF-8.
-/

namespace SerialLink

/-! ### Fields -/

theorem Field.encode_word (index : Nat) {width : Width} {n : Nat}
    (fits : n < wordCount width.bytes) :
    (Field.word width).encode index (.ofNat n width) = .ok (littleEndian width.bytes n) := by
  cases width <;>
    simp only [Width.bytes, wordCount] at fits <;>
    simp only [Value.ofNat, Field.encode, Width.bytes, UInt8.toNat_ofNat', UInt16.toNat_ofNat',
      UInt32.toNat_ofNat', UInt64.toNat_ofNat', Nat.mod_eq_of_lt fits]

theorem Width.wordCount_le (width : Width) : wordCount width.bytes ≤ UInt64.size := by
  cases width <;> decide

/-- An element of a list is kept whole, whatever its width. -/
theorem Width.toNat_element {width : Width} {bytes : Bytes} (length : bytes.length = width.bytes) :
    (UInt64.ofNat (ofLittleEndian bytes)).toNat = ofLittleEndian bytes := by
  have fits := ofLittleEndian_lt bytes
  rw [length] at fits
  rw [UInt64.toNat_ofNat']
  exact Nat.mod_eq_of_lt (Nat.lt_of_lt_of_le fits width.wordCount_le)

/-- The list that stands in a form is written as it stands there. -/
theorem Field.encode_words (index : Nat) {width : Width} {count : UInt8} {items : List Bytes}
    (number : items.length = count.toNat) (length : ∀ bytes ∈ items, bytes.length = width.bytes) :
    (Field.words width).encode index
        (.words (items.map fun bytes => .ofNat (ofLittleEndian bytes))) =
      .ok (count :: items.flatten) := by
  have short : ¬ items.length > 255 := by
    have := count.toNat_lt
    omega
  have range : (items.map fun bytes => UInt64.ofNat (ofLittleEndian bytes)).find?
      (fun item => decide (item.toNat > width.largest)) = none := by
    rw [List.find?_eq_none]
    intro item mem
    obtain ⟨bytes, listed, rfl⟩ := List.mem_map.mp mem
    have fits := ofLittleEndian_lt bytes
    rw [length bytes listed, width.wordCount_bytes] at fits
    rw [Width.toNat_element (length bytes listed)]
    simpa using Nat.le_of_lt_succ fits
  have again : (items.flatMap fun bytes =>
      littleEndian width.bytes (UInt64.ofNat (ofLittleEndian bytes)).toNat) = items.flatten := by
    rw [List.flatMap_def]
    refine congrArg List.flatten ((List.map_congr_left fun bytes listed => ?_).trans
      (List.map_id items))
    rw [Width.toNat_element (length bytes listed), ← length bytes listed,
      littleEndian_ofLittleEndian, id]
  rw [Field.encode]
  simp only [List.length_map]
  rw [if_neg short, range]
  dsimp only
  rw [List.flatMap_map, again, number, UInt8.ofNat_toNat]

/-- The text of a form is UTF-8. -/
def Field.Spelled : Field → Bytes → Prop
  | .text, form => ∃ text : String, form = Utf8.encode text ++ [0]
  | _, _ => True

/-- What a form carries can be written, and is written as that form unless there is text in it that
is not UTF-8. -/
theorem Field.Carries.encode_eq_ok {field : Field} {form : Bytes} {value : Value}
    (carried : field.Carries form value) (index : Nat) :
    ∃ again : Bytes, field.encode index value = .ok again ∧
      (field.Spelled form → again = form) := by
  cases carried with
  | @word width _ length =>
    have fits := ofLittleEndian_lt form
    rw [length] at fits
    refine ⟨_, Field.encode_word index fits, fun _ => ?_⟩
    rw [← length, littleEndian_ofLittleEndian]
  | @text bytes inner =>
    have inner := Utf8.zero_notMem_encode_decode inner
    refine ⟨Utf8.encode (Utf8.decode bytes) ++ [0], ?_, ?_⟩
    · simp [Field.encode, inner]
    · rintro ⟨text, spelled⟩
      rw [List.append_cancel_right spelled, Utf8.decode_encode_text]
  | words number length => exact ⟨_, Field.encode_words index number length, fun _ => rfl⟩
  | data length =>
    refine ⟨_, ?_, fun _ => rfl⟩
    rw [Field.encode, if_neg (by omega)]

/-- What writing gives for a text is UTF-8. -/
theorem Field.spelled_of_encode {index : Nat} {field : Field} {value : Value} {form : Bytes}
    (written : field.encode index value = .ok form) : field.Spelled form := by
  cases field with
  | text =>
    cases value with
    | text s =>
      simp only [Field.encode] at written
      split at written
      · cases written
      · cases written
        exact ⟨s, rfl⟩
    | _ => cases written
  | _ => trivial

/-! ### Layouts -/

/-- The bytes are one form for each field of the layout, in full, with UTF-8 wherever there is text;
nothing is missing, and nothing is left. -/
inductive Layout.Fills : Layout → Bytes → List Value → Prop where
  | nil : Fills [] [] []
  | cons {field : Field} {layout : Layout} {form rest : Bytes} {value : Value}
    {values : List Value} (head : field.Carries form value) (spelled : field.Spelled form)
    (tail : Fills layout rest values) :
    Fills (field :: layout) (form ++ rest) (value :: values)

namespace Layout

variable {layout : Layout} {bytes : Bytes} {values : List Value}

theorem Carries.length_eq {mayMiss : Bool} (carried : layout.Carries mayMiss bytes values) :
    values.length = layout.length := by
  induction carried with
  | nil => rfl
  | cons _ _ ih => rw [List.length_cons, ih, List.length_cons]
  | missing _ _ _ ih => rw [List.length_cons, ih, List.length_cons]

/-- The first field in its place, and the others behind it. -/
theorem encodeFrom_cons {field : Field} {value : Value} {form : Bytes} {index : Nat}
    (written : field.encode index value = .ok form) (limit used : Nat) (layout : Layout)
    (values : List Value) :
    encodeFrom limit index used (field :: layout) (value :: values) =
      if used + form.length > limit then .error (.fieldOverflow index limit)
      else (encodeFrom limit (index + 1) (used + form.length) layout values).map (form ++ ·) := by
  rw [encodeFrom, written]

/-- Writing succeeds, or there is no room for one of the fields. -/
def LacksOnlyRoom (limit : Nat) (outcome : Except EncodeError Bytes) : Prop :=
  (∃ again : Bytes, outcome = .ok again) ∨
    ∃ index : Nat, outcome = .error (.fieldOverflow index limit)

theorem LacksOnlyRoom.map {limit : Nat} {outcome : Except EncodeError Bytes}
    (lacks : LacksOnlyRoom limit outcome) (change : Bytes → Bytes) :
    LacksOnlyRoom limit (outcome.map change) := by
  rcases lacks with ⟨again, rfl⟩ | ⟨index, rfl⟩
  · exact .inl ⟨change again, rfl⟩
  · exact .inr ⟨index, rfl⟩

/-- Values that bytes carry can be written but for lack of room. -/
theorem Carries.encodeFrom {mayMiss : Bool} (carried : layout.Carries mayMiss bytes values)
    (limit index used : Nat) : LacksOnlyRoom limit (layout.encodeFrom limit index used values) := by
  induction carried generalizing index used with
  | nil => exact .inl ⟨[], rfl⟩
  | cons head _ ih =>
    obtain ⟨form, written, -⟩ := head.encode_eq_ok index
    rw [encodeFrom_cons written]
    split
    · exact .inr ⟨index, rfl⟩
    · exact (ih _ _).map _
  | @missing width _ _ _ _ _ _ ih =>
    have zero : 0 < wordCount width.bytes := by cases width <;> decide
    rw [Value.zero, encodeFrom_cons (Field.encode_word index zero)]
    split
    · exact .inr ⟨index, rfl⟩
    · exact (ih _ _).map _

/-- Values of forms in full are written as those forms, if there is room for them. -/
theorem Fills.encodeFrom (filled : layout.Fills bytes values) (index : Nat) {limit used : Nat}
    (room : used + bytes.length ≤ limit) :
    layout.encodeFrom limit index used values = .ok bytes := by
  induction filled generalizing index used with
  | nil => rfl
  | @cons _ _ form rest _ _ head spelled _ ih =>
    obtain ⟨again, written, same⟩ := head.encode_eq_ok index
    obtain rfl := same spelled
    rw [List.length_append] at room
    rw [encodeFrom_cons written, if_neg (by omega), ih (index + 1) (by omega)]
    rfl

/-- What is written for a layout is a form of its values in full. -/
theorem fills_of_encodeFrom {limit index used : Nat} (shape : values.length = layout.length)
    (written : layout.encodeFrom limit index used values = .ok bytes) :
    layout.Fills bytes values := by
  induction layout generalizing index used values bytes with
  | nil =>
    obtain rfl : values = [] := List.eq_nil_of_length_eq_zero shape
    cases written
    exact .nil
  | cons field layout ih =>
    cases values with
    | nil => cases shape
    | cons value values =>
      cases first : field.encode index value with
      | error e =>
        rw [Layout.encodeFrom, first] at written
        cases written
      | ok form =>
        rw [encodeFrom_cons first] at written
        split at written
        · cases written
        · obtain ⟨others, rest, rfl⟩ := ok_of_map written
          exact .cons (Field.carries_of_encode first) (Field.spelled_of_encode first)
            (ih (Nat.succ.inj shape) rest)

end Layout

/-! ### Commands -/

namespace CommandTable

variable {table : CommandTable} {command : Command} {layout : Layout}

/-- With as many values as there are fields and room for what precedes them, the fields decide. -/
theorem encode_eq_map (known : table.layout? command.id = some layout)
    (other : command.id ≠ Command.acknowledge) {limit : Nat} (room : Command.prologueLength ≤ limit)
    (shape : command.values.length = layout.length) :
    table.encode command limit =
      (layout.encodeFrom (min limit 65535) 0 Command.prologueLength command.values).map
        fun fields => [command.id, command.seq, command.status] ++
          littleEndian 2 (Command.prologueLength + fields.length) ++ fields := by
  obtain ⟨spec, found, known⟩ := get?_of_layout? known
  have prologue : Command.prologueLength = 5 := rfl
  have header : Command.headerLength = 3 := rfl
  unfold encode
  dsimp only
  rw [if_neg (by omega), found]
  simp only [known, Option.getD_some]
  rw [if_neg other, if_neg (by omega), if_neg (by simpa using shape)]
  cases layout.encodeFrom (min limit 65535) 0 Command.prologueLength command.values <;> rfl

/-- **Commands that were read can be written.** Over a table made from the built-in one by
registrations, take a command that bytes were decoded as, and room for what precedes its fields.
Writing it succeeds, or there is no room for one of the fields; no value is ever refused. What is
written is decoded as that command. It is the bytes that the command was read from exactly if there
was room for them and they have a stored length and, behind it, a form for each field in full, with
UTF-8 in every text. -/
theorem encode_of_decode (made : table.Registered) {bytes : Bytes}
    (read : table.decode bytes = .ok command) {limit : Nat}
    (room : Command.prologueLength ≤ limit) :
    ((∃ again : Bytes, table.encode command limit = .ok again) ∨
        ∃ index : Nat, table.encode command limit =
          .error (.fieldOverflow index (min limit 65535))) ∧
      (∀ again : Bytes, table.encode command limit = .ok again →
        table.decode again = .ok command) ∧
      (table.encode command limit = .ok bytes ↔
        bytes.length ≤ limit ∧ Command.prologueLength ≤ bytes.length ∧
          ∃ layout : Layout, table.layout? command.id = some layout ∧
            layout.Fills (bytes.drop Command.prologueLength) command.values) := by
  have carried := carries_of_decode read
  obtain ⟨layout, known, header, stored, fields⟩ := carries_iff.mp carried
  have other := made.ne_acknowledge known
  have written := encode_eq_map known other room fields.length_eq
  refine ⟨?_, fun again done => decode_encode made known done, ?_, ?_⟩
  · rw [written]
    exact (fields.encodeFrom (min limit 65535) 0 Command.prologueLength).map _
  · intro done
    refine ⟨length_le_of_encode known other done, ?_⟩
    rw [written] at done
    obtain ⟨forms, filled, rfl⟩ := ok_of_map done
    rw [Command.length_long]
    exact ⟨Nat.le_add_right _ _, layout, known, Layout.fills_of_encodeFrom fields.length_eq filled⟩
  · rintro ⟨enough, whole, layout', found, filled⟩
    obtain rfl := Option.some.inj (known.symm.trans found)
    cases carried with
    | @long _ _ forms _ length _ =>
      rw [Command.length_long] at enough
      have behind : ([command.id, command.seq, command.status] ++
          littleEndian 2 (Command.prologueLength + forms.length) ++ forms).drop
            Command.prologueLength = forms := rfl
      rw [behind] at filled
      have within : Command.prologueLength + forms.length ≤ min limit 65535 := by omega
      rw [written, filled.encodeFrom 0 within]
      rfl
    | @short _ _ forms _ few _ =>
      -- These bytes have no stored length, so they are no more than four.
      have prologue : Command.prologueLength = 5 := rfl
      simp only [List.length_append, List.length_cons, List.length_nil] at whole
      omega

/-- A byte that is not UTF-8 is read as the replacement character. -/
theorem decode_damaged : Utf8.decode [0x61, 0xFF, 0x62] = "a\uFFFDb" := by
  refine congrArg String.ofList ?_
  calc Utf8.decodeOnto [] [0x61, 0xFF, 0x62]
      = Utf8.decodeOnto ['a'] [0xFF, 0x62] := Utf8.decodeOnto.eq_2 ..
    _ = Utf8.decodeOnto ['\uFFFD', 'a'] [0x62] := Utf8.decodeOnto.eq_2 ..
    _ = Utf8.decodeOnto ['b', '\uFFFD', 'a'] [] := Utf8.decodeOnto.eq_2 ..
    _ = ['a', '\uFFFD', 'b'] := Utf8.decodeOnto.eq_1 ..

/-- A log line with such a byte. It is written longer than it was, with the replacement character in
place of the byte, and what was written is a form in full: it is read as the same line, and written
as it stands. In seven bytes there is no room for the text. -/
theorem encode_of_decode_of_logLine :
    let line : Command := { id := Command.debugLog, seq := 9, values := [.u8 1, .text "a\uFFFDb"] }
    let bytes : Bytes := [0x30, 9, 0, 10, 0, 1, 0x61, 0xFF, 0x62, 0]
    let again : Bytes := [0x30, 9, 0, 12, 0, 1, 0x61, 0xEF, 0xBF, 0xBD, 0x62, 0]
    builtin.decode bytes = .ok line ∧ builtin.decode again = .ok line ∧
      builtin.encode line 256 = .ok again ∧ builtin.encode line 256 ≠ .ok bytes ∧
      ∃ index : Nat, builtin.encode line 7 = .error (.fieldOverflow index 7) := by
  intro line bytes again
  have damaged : Field.text.Carries [0x61, 0xFF, 0x62, 0] (.text "a\uFFFDb") :=
    decode_damaged ▸ Field.Carries.text (show 0 ∉ ([0x61, 0xFF, 0x62] : Bytes) by decide)
  have spelled : Field.text.Carries [0x61, 0xEF, 0xBF, 0xBD, 0x62, 0] (.text "a\uFFFDb") := by
    have carried :=
      Field.Carries.text (show 0 ∉ ([0x61, 0xEF, 0xBF, 0xBD, 0x62] : Bytes) by decide)
    have whole : ([0x61, 0xEF, 0xBF, 0xBD, 0x62] : Bytes) = Utf8.encode "a\uFFFDb" := rfl
    rwa [whole, Utf8.decode_encode_text] at carried
  have reads {form : Bytes} (carried : Field.text.Carries form (.text "a\uFFFDb")) :
      Layout.Carries false [.word .one, .text] ([1] ++ (form ++ []))
        [.u8 1, .text "a\uFFFDb"] := .cons (.word rfl) (.cons carried .nil)
  have read : builtin.decode bytes = .ok line :=
    decode_eq_ok_iff.mpr (carries_iff.mpr ⟨_, rfl, rfl, fun _ => rfl, reads damaged⟩)
  have readAgain : builtin.decode again = .ok line :=
    decode_eq_ok_iff.mpr (carries_iff.mpr ⟨_, rfl, rfl, fun _ => rfl, reads spelled⟩)
  have filled : Layout.Fills [.word .one, .text]
      ([1] ++ ([0x61, 0xEF, 0xBF, 0xBD, 0x62, 0] ++ [])) [.u8 1, .text "a\uFFFDb"] :=
    .cons (.word rfl) trivial (.cons spelled ⟨"a\uFFFDb", rfl⟩ .nil)
  obtain ⟨-, -, asItStands⟩ := encode_of_decode .builtin readAgain (show 5 ≤ 256 by decide)
  obtain ⟨outcome, -, -⟩ := encode_of_decode .builtin read (show 5 ≤ 7 by decide)
  have written := asItStands.mpr ⟨by decide, by decide, _, rfl, filled⟩
  refine ⟨read, readAgain, written, ?_, ?_⟩
  · rw [written]
    intro same
    exact absurd (Except.ok.inj same) (by decide)
  · rcases outcome with ⟨short, done⟩ | overflow
    · cases done
    · exact overflow

end CommandTable

end SerialLink
