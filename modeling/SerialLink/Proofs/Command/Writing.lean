import SerialLink.Command.Encode
import SerialLink.Command.Form
import SerialLink.Proofs.Text.Utf8RoundTrip

/-!
What writing puts down carries what was written: the bytes of a field carry its value
(`Field.carries_of_encode`), those of a layout carry its values (`Layout.carries_of_encodeFrom`),
and those of a command carry the command (`CommandTable.carries_of_encode`).
-/

namespace SerialLink

/-! ### Fields -/

theorem Width.wordCount_bytes (width : Width) : wordCount width.bytes = width.largest + 1 := by
  cases width <;> decide

theorem Field.carries_word (width : Width) {n : Nat} (fits : n < wordCount width.bytes) :
    (Field.word width).Carries (littleEndian width.bytes n) (.ofNat n width) := by
  have carried := Carries.word (length_littleEndian width.bytes n)
  rwa [ofLittleEndian_littleEndian _ _ fits] at carried

theorem Field.carries_words {width : Width} {items : List UInt64} (short : items.length ≤ 255)
    (range : ∀ item ∈ items, item.toNat ≤ width.largest) :
    (Field.words width).Carries
      (.ofNat items.length :: items.flatMap fun item => littleEndian width.bytes item.toNat)
      (.words items) := by
  let forms := items.map fun item => littleEndian width.bytes item.toNat
  have counted : forms.length = (UInt8.ofNat items.length).toNat := by
    rw [List.length_map, UInt8.toNat_ofNat']
    omega
  have length : ∀ bytes ∈ forms, bytes.length = width.bytes := by
    intro bytes mem
    obtain ⟨item, -, rfl⟩ := List.mem_map.mp mem
    exact length_littleEndian _ _
  have values : (forms.map fun bytes => UInt64.ofNat (ofLittleEndian bytes)) = items := by
    rw [List.map_map]
    refine (List.map_congr_left fun item mem => ?_).trans (List.map_id items)
    have fits : item.toNat < wordCount width.bytes := by
      rw [width.wordCount_bytes]
      exact Nat.lt_succ_of_le (range item mem)
    simp only [Function.comp_apply, ofLittleEndian_littleEndian _ _ fits, UInt64.ofNat_toNat, id]
  have carried := Carries.words counted length
  rwa [values, ← List.flatMap_def] at carried

/-- What is written for a value carries it. -/
theorem Field.carries_of_encode {index : Nat} {field : Field} {value : Value} {bytes : Bytes}
    (written : field.encode index value = .ok bytes) : field.Carries bytes value := by
  unfold Field.encode at written
  split at written
  · rename_i n
    cases written
    simpa [Value.ofNat, Width.bytes] using Field.carries_word .one n.toNat_lt
  · rename_i n
    cases written
    simpa [Value.ofNat, Width.bytes] using Field.carries_word .two n.toNat_lt
  · rename_i n
    cases written
    simpa [Value.ofNat, Width.bytes] using Field.carries_word .four n.toNat_lt
  · rename_i n
    cases written
    simpa [Value.ofNat, Width.bytes] using Field.carries_word .eight n.toNat_lt
  · rename_i s
    dsimp only at written
    split at written
    · cases written
    · rename_i inner
      cases written
      have inner : 0 ∉ Utf8.encode s := by simpa using inner
      have carried := Carries.text inner
      rwa [Utf8.decode_encode_text] at carried
  · rename_i width items
    split at written
    · cases written
    · rename_i short
      split at written
      · cases written
      · rename_i range
        cases written
        refine Field.carries_words (by omega) fun item mem => ?_
        simpa using List.find?_eq_none.mp range item mem
  · split at written
    · cases written
    · rename_i most
      cases written
      exact Carries.data (by omega)
  · cases written

/-! ### Layouts -/

/-- What is written for a layout carries its values, and keeps to the limit. -/
theorem Layout.carries_of_encodeFrom (mayMiss : Bool) {limit index used : Nat} {layout : Layout}
    {values : List Value} {bytes : Bytes} (start : used ≤ limit)
    (shape : values.length = layout.length)
    (written : layout.encodeFrom limit index used values = .ok bytes) :
    layout.Carries mayMiss bytes values ∧ used + bytes.length ≤ limit := by
  induction layout generalizing index used values bytes with
  | nil =>
    obtain rfl : values = [] := List.eq_nil_of_length_eq_zero shape
    cases written
    exact ⟨.nil, start⟩
  | cons field fields ih =>
    cases values with
    | nil => cases shape
    | cons value values =>
      unfold Layout.encodeFrom at written
      split at written
      · cases written
      · rename_i form first
        split at written
        · cases written
        · rename_i room
          cases rest : encodeFrom limit (index + 1) (used + form.length) fields values with
          | error e =>
            rw [rest] at written
            cases written
          | ok others =>
            rw [rest] at written
            cases written
            obtain ⟨carried, within⟩ := ih (by omega) (Nat.succ.inj shape) rest
            refine ⟨.cons (Field.carries_of_encode first) carried, ?_⟩
            rw [List.length_append]
            omega

/-! ### Commands -/

/-- The layout of the id, with no fields where it has none. -/
def CommandTable.layoutOf (table : CommandTable) (id : UInt8) : Layout := (table.layout? id).getD []

/-- When a command is written, and what is written then: for an acknowledgment its header, for any
other command its header, the length of all, and its fields. -/
theorem CommandTable.encode_eq_ok_iff {table : CommandTable} {command : Command} {limit : Nat}
    {bytes : Bytes} :
    table.encode command limit = .ok bytes ↔
      (table.get? command.id).isSome ∧
        if command.id = Command.acknowledge then
          Command.headerLength ≤ min limit 65535 ∧
            bytes = [command.id, command.seq, command.status]
        else
          Command.prologueLength ≤ min limit 65535 ∧
            command.values.length = (table.layoutOf command.id).length ∧
            ∃ fields : Bytes,
              (table.layoutOf command.id).encodeFrom (min limit 65535) 0 Command.prologueLength
                command.values = .ok fields ∧
              bytes = [command.id, command.seq, command.status] ++
                littleEndian 2 (Command.prologueLength + fields.length) ++ fields := by
  have header : Command.headerLength = 3 := rfl
  have prologue : Command.prologueLength = 5 := rfl
  unfold encode layoutOf layout?
  dsimp only
  generalize min limit 65535 = limit
  cases found : table.get? command.id with
  | none =>
    refine iff_of_false (fun written => ?_) fun ⟨known, _⟩ => by cases known
    split at written <;> cases written
  | some spec =>
    rw [Option.isSome_some, and_iff_right rfl, Option.bind_some]
    dsimp only
    by_cases short : command.id = Command.acknowledge
    · rw [if_pos short, if_pos short]
      by_cases room : limit < Command.headerLength
      · rw [if_pos room]
        exact iff_of_false (fun written => by cases written) fun ⟨within, _⟩ => by omega
      · rw [if_neg room, Except.ok.injEq, and_iff_right (Nat.not_lt.mp room), eq_comm]
    · rw [if_neg short, if_neg short]
      constructor
      · intro written
        split at written
        · cases written
        split at written
        · cases written
        rename_i room
        split at written
        · cases written
        rename_i shape
        split at written
        · cases written
        rename_i fields body
        cases written
        exact ⟨Nat.not_lt.mp room, Decidable.not_not.mp shape, fields, body, rfl⟩
      · rintro ⟨room, shape, fields, body, rfl⟩
        rw [if_neg (by omega), if_neg (Nat.not_lt.mpr room), if_neg (not_not_intro shape), body]

/-- What is written for a command with a layout: its header, the length of all, and bytes that carry
its values. -/
theorem CommandTable.encode_eq_ok {table : CommandTable} {command : Command} {limit : Nat}
    {bytes : Bytes} {layout : Layout} (known : table.layout? command.id = some layout)
    (other : command.id ≠ Command.acknowledge)
    (written : table.encode command limit = .ok bytes) :
    ∃ fields : Bytes,
      bytes = [command.id, command.seq, command.status] ++
        littleEndian 2 (Command.prologueLength + fields.length) ++ fields ∧
      Command.prologueLength + fields.length ≤ min limit 65535 ∧
      ∀ mayMiss : Bool, layout.Carries mayMiss fields command.values := by
  obtain ⟨-, cases⟩ := encode_eq_ok_iff.mp written
  rw [if_neg other, layoutOf, known, Option.getD_some] at cases
  obtain ⟨room, shape, fields, body, rfl⟩ := cases
  have carried (mayMiss : Bool) := Layout.carries_of_encodeFrom mayMiss room shape body
  exact ⟨fields, rfl, (carried false).2, fun mayMiss => (carried mayMiss).1⟩

/-- **Soundness of writing.** What is written for a command with a layout carries it. -/
theorem CommandTable.carries_of_encode {table : CommandTable} {command : Command} {limit : Nat}
    {bytes : Bytes} {layout : Layout} (known : table.layout? command.id = some layout)
    (other : command.id ≠ Command.acknowledge)
    (written : table.encode command limit = .ok bytes) : table.Carries bytes command := by
  obtain ⟨fields, rfl, within, carried⟩ := encode_eq_ok known other written
  exact .long known (by omega) (carried _)

theorem CommandTable.length_le_of_encode {table : CommandTable} {command : Command} {limit : Nat}
    {bytes : Bytes} {layout : Layout} (known : table.layout? command.id = some layout)
    (other : command.id ≠ Command.acknowledge)
    (written : table.encode command limit = .ok bytes) : bytes.length ≤ limit := by
  obtain ⟨fields, rfl, within, -⟩ := encode_eq_ok known other written
  have prologue : Command.prologueLength = 5 := rfl
  simp only [List.length_append, List.length_cons, List.length_nil, length_littleEndian]
  omega

/-- The sequence number is the second byte of a command, and makes no other difference. -/
theorem CommandTable.encode_withSeq (table : CommandTable) (command : Command) (seq : UInt8)
    (limit : Nat) :
    table.encode { command with seq } limit =
      (table.encode command limit).map fun bytes => bytes.set 1 seq := by
  unfold encode
  dsimp only
  split
  · rfl
  · split
    · rfl
    · split
      · rfl
      · split
        · rfl
        · split
          · rfl
          · split <;> rfl

end SerialLink
