import SerialLink.Proofs.Command.Reading

/-!
Reading accepts exactly the forms of commands. Whatever a cursor has read of a field, it has passed
over a form of that field, which carries the value (`Cursor.form_of_field`); the one exception is a
word that a device status report leaves out. So bytes that are decoded carry the command
(`CommandTable.carries_of_decode`), and with the converse the accepted bytes are described field by
field, without a reader (`CommandTable.decode_iff`).
-/

namespace SerialLink

theorem littleEndian_ofLittleEndian (bytes : Bytes) :
    littleEndian bytes.length (ofLittleEndian bytes) = bytes := by
  induction bytes with
  | nil => rfl
  | cons b bytes ih =>
    have first : UInt8.ofNat (b.toNat + 256 * ofLittleEndian bytes) = b := by
      refine UInt8.toNat_inj.mp ?_
      have := b.toNat_lt
      rw [UInt8.toNat_ofNat']
      omega
    have rest : (b.toNat + 256 * ofLittleEndian bytes) / 256 = ofLittleEndian bytes := by
      have := b.toNat_lt
      omega
    rw [List.length_cons, ofLittleEndian, littleEndian, first, rest, ih]

namespace Cursor

variable {c c' : Cursor}

/-! ### What a cursor has passed over -/

theorem take_eq_ok {count : Nat} {bytes : Bytes} (read : c.take count = .ok (bytes, c')) :
    c.rest = bytes ++ c'.rest ∧ bytes.length = count := by
  unfold take at read
  split at read
  · cases read
  · rename_i enough
    cases read
    exact ⟨(List.take_append_drop count c.rest).symm, List.length_take_of_le (by omega)⟩

theorem word_eq_ok {width : Width} {n : Nat} (read : c.word width = .ok (n, c')) :
    ∃ bytes : Bytes, c.rest = bytes ++ c'.rest ∧ bytes.length = width.bytes ∧
      n = ofLittleEndian bytes := by
  obtain ⟨⟨bytes, behind⟩, taken, eq⟩ := ok_of_map read
  cases eq
  obtain ⟨split, length⟩ := take_eq_ok taken
  exact ⟨bytes, split, length, rfl⟩

theorem words_eq_ok {width : Width} {count : Nat} {items : List UInt64}
    (read : words width count c = .ok (items, c')) :
    ∃ forms : List Bytes, c.rest = forms.flatten ++ c'.rest ∧ forms.length = count ∧
      (∀ bytes ∈ forms, bytes.length = width.bytes) ∧
      items = forms.map fun bytes => .ofNat (ofLittleEndian bytes) := by
  induction count generalizing c items with
  | zero =>
    cases read
    exact ⟨[], rfl, rfl, nofun, rfl⟩
  | succ count ih =>
    obtain ⟨⟨n, behind⟩, first, read⟩ := ok_of_bind read
    obtain ⟨⟨later, last⟩, others, read⟩ := ok_of_bind read
    cases read
    obtain ⟨bytes, split, length, rfl⟩ := word_eq_ok first
    obtain ⟨forms, split', number, lengths, rfl⟩ := ih others
    refine ⟨bytes :: forms, ?_, by rw [List.length_cons, number], ?_, rfl⟩
    · rw [split, split', List.flatten_cons, List.append_assoc]
    · exact List.forall_mem_cons.mpr ⟨length, lengths⟩

/-- A search for a zero byte that stops before the end has found one. -/
private theorem exists_zero {bytes : Bytes}
    (stops : (bytes.takeWhile (· ≠ 0)).length ≠ bytes.length) :
    ∃ rest : Bytes, bytes = bytes.takeWhile (· ≠ 0) ++ 0 :: rest := by
  have split := List.takeWhile_append_dropWhile (p := (· ≠ (0 : UInt8))) (l := bytes)
  cases found : bytes.dropWhile (· ≠ 0) with
  | nil =>
    rw [found, List.append_nil] at split
    exact absurd (congrArg List.length split) stops
  | cons b rest =>
    have first := List.head?_dropWhile_not (· ≠ (0 : UInt8)) bytes
    rw [found] at first
    obtain rfl : b = 0 := by simpa using first
    rw [found] at split
    exact ⟨rest, split.symm⟩

theorem text_eq_ok {s : String} (read : c.text = .ok (s, c')) :
    ∃ bytes : Bytes, c.rest = bytes ++ [0] ++ c'.rest ∧ 0 ∉ bytes ∧ s = Utf8.decode bytes := by
  unfold text at read
  dsimp only at read
  split at read
  · cases read
  · rename_i closed
    cases read
    obtain ⟨rest, split⟩ := exists_zero closed
    have inner := List.all_takeWhile (p := (· ≠ (0 : UInt8))) (l := c.rest)
    generalize c.rest.takeWhile (· ≠ 0) = bytes at split inner
    refine ⟨bytes, ?_, ?_, rfl⟩
    · rw [advance, split]
      simp
    · intro mem
      exact absurd (List.all_eq_true.mp inner 0 mem) (by decide)

theorem data_eq_ok {bytes : Bytes} (read : c.data = .ok (bytes, c')) :
    c.rest = littleEndian 2 bytes.length ++ bytes ++ c'.rest ∧
      bytes.length ≤ Command.maxData := by
  unfold data at read
  split at read
  · cases read
  · rename_i announced
    dsimp only at read
    split at read
    · cases read
    · rename_i enough
      split at read
      · cases read
      · rename_i most
        cases read
        have two : (c.rest.take 2).length = 2 := List.length_take_of_le (by omega)
        have number := littleEndian_ofLittleEndian (c.rest.take 2)
        rw [two] at number
        generalize ofLittleEndian (c.rest.take 2) = length at number enough most ⊢
        have all : ((c.advance 2).rest.take length).length = length :=
          List.length_take_of_le (by omega)
        rw [all]
        refine ⟨?_, by omega⟩
        rw [number, List.append_assoc]
        simp only [advance, List.take_append_drop]

/-! ### Fields -/

/-- What a cursor has read of a field stands in a form of that field, unless it is a word that a
device status report leaves out. -/
theorem form_of_field {id : UInt8} {index : Nat} {field : Field} {value : Value}
    (read : c.field id index field = .ok (value, c')) :
    (∃ form : Bytes, c.rest = form ++ c'.rest ∧ field.Carries form value) ∨
      id = Command.deviceStatus ∧ c'.rest = [] ∧
        ∃ width : Width, field = .word width ∧ c.rest.length < width.bytes ∧
          value = Value.zero field := by
  cases field with
  | word width =>
    rw [Cursor.field] at read
    split at read
    · rename_i short
      split at read
      · rename_i status
        cases read
        exact .inr ⟨status, List.drop_length, width, rfl, short, rfl⟩
      · cases read
    · rename_i enough
      cases read
      have length : (c.rest.take width.bytes).length = width.bytes :=
        List.length_take_of_le (by omega)
      exact .inl ⟨_, (List.take_append_drop width.bytes c.rest).symm, .word length⟩
  | text =>
    obtain ⟨⟨s, behind⟩, taken, eq⟩ := ok_of_map read
    cases eq
    obtain ⟨bytes, split, inner, rfl⟩ := text_eq_ok taken
    exact .inl ⟨_, split, .text inner⟩
  | words width =>
    obtain ⟨⟨count, behind⟩, counted, read⟩ := ok_of_bind read
    obtain ⟨⟨items, last⟩, listed, read⟩ := ok_of_bind read
    cases read
    obtain ⟨prefixed, split, one, rfl⟩ := word_eq_ok counted
    obtain ⟨forms, split', number, lengths, rfl⟩ := words_eq_ok listed
    obtain ⟨b, rfl⟩ := List.length_eq_one_iff.mp one
    refine .inl ⟨b :: forms.flatten, ?_, .words ?_ lengths⟩
    · rw [split, split']
      rfl
    · rw [number]
      exact Nat.add_zero _
  | data =>
    obtain ⟨⟨bytes, behind⟩, taken, eq⟩ := ok_of_map read
    cases eq
    obtain ⟨split, most⟩ := data_eq_ok taken
    exact .inl ⟨_, split, .data most⟩

/-- What is read of a layout is carried by the bytes from the cursor on. -/
theorem carries_of_fields {id : UInt8} {index : Nat} {layout : Layout} {values : List Value}
    (read : c.fields id index layout = .ok values) :
    layout.Carries (id == Command.deviceStatus) c.rest values := by
  induction layout generalizing c index values with
  | nil =>
    cases read
    exact .nil
  | cons field layout ih =>
    obtain ⟨⟨value, behind⟩, first, read⟩ := ok_of_bind read
    obtain ⟨later, others, read⟩ := ok_of_bind read
    cases read
    have tail := ih others
    rcases form_of_field first with ⟨form, split, head⟩ | ⟨rfl, last, width, rfl, short, rfl⟩
    · rw [split]
      exact .cons head tail
    · rw [last] at tail
      exact .missing rfl short tail

end Cursor

/-! ### Layouts -/

theorem Field.Carries.ne_nil {field : Field} {form : Bytes} {value : Value}
    (carried : field.Carries form value) : form ≠ [] := by
  rintro rfl
  generalize empty : ([] : Bytes) = form at carried
  cases carried with
  | @word width _ length =>
    rw [← empty] at length
    cases width <;> cases length
  | text => simp at empty
  | words => cases empty
  | data => cases empty

namespace Layout

variable {mayMiss : Bool} {width : Width} {layout : Layout} {bytes : Bytes} {values : List Value}

/-- Where no bytes are left, only words may be, and all of them are zero. -/
theorem carries_nil_iff :
    layout.Carries true [] values ↔
      (∀ field ∈ layout, ∃ other : Width, field = .word other) ∧
        values = layout.map Value.zero := by
  constructor
  · intro carried
    generalize empty : ([] : Bytes) = bytes at carried
    induction carried with
    | nil => exact ⟨nofun, rfl⟩
    | cons head =>
      rw [List.nil_eq_append_iff] at empty
      exact absurd empty.1 head.ne_nil
    | missing _ _ _ ih =>
      obtain ⟨words, rfl⟩ := ih rfl
      exact ⟨List.forall_mem_cons.mpr ⟨⟨_, rfl⟩, words⟩, rfl⟩
  · rintro ⟨words, rfl⟩
    induction layout with
    | nil => exact .nil
    | cons field layout ih =>
      obtain ⟨⟨width, rfl⟩, others⟩ := List.forall_mem_cons.mp words
      exact .missing rfl (by cases width <;> decide) (ih others)

/-- Where a word does not fit any more it must be one that may be missing. It takes what is left,
only words may follow, and all of them are zero. -/
theorem carries_short_iff (short : bytes.length < width.bytes) :
    Layout.Carries mayMiss (.word width :: layout) bytes values ↔
      mayMiss = true ∧ (∀ field ∈ layout, ∃ other : Width, field = .word other) ∧
        values = (Field.word width :: layout).map Value.zero := by
  constructor
  · intro carried
    cases carried with
    | cons head =>
      cases head with
      | word length =>
        rw [List.length_append, length] at short
        exact absurd short (Nat.not_lt.mpr (Nat.le_add_right _ _))
    | missing may _ tail =>
      subst may
      obtain ⟨words, rfl⟩ := carries_nil_iff.mp tail
      exact ⟨rfl, words, rfl⟩
  · rintro ⟨rfl, words, rfl⟩
    exact .missing rfl short (carries_nil_iff.mpr ⟨words, rfl⟩)

end Layout

/-! ### Commands -/

namespace CommandTable

variable {table : CommandTable} {bytes : Bytes} {command : Command}

/-- **Soundness of reading.** Bytes that are decoded carry the command. -/
theorem carries_of_decode (read : table.decode bytes = .ok command) :
    table.Carries bytes command := by
  unfold decode at read
  split at read
  · rename_i id seq status rest
    split at read
    · cases read
    · rename_i spec found
      split at read
      · cases read
      · rename_i layout shape
        have known : table.layout? id = some layout :=
          Option.bind_eq_some_iff.mpr ⟨spec, found, shape⟩
        dsimp only at read
        split at read
        · rename_i low high fields
          split at read
          · cases read
          · rename_i same
            obtain ⟨values, taken, rfl⟩ := ok_of_map read
            have carried := Cursor.carries_of_fields taken
            have stored : ofLittleEndian [low, high] = Command.prologueLength + fields.length := by
              rw [Decidable.not_not.mp same]
              simp only [List.length_cons, Command.prologueLength, Command.headerLength]
              omega
            have written := littleEndian_ofLittleEndian [low, high]
            have most := ofLittleEndian_lt [low, high]
            rw [stored] at written most
            have long := @Carries.long table ⟨id, seq, status, values⟩ _ _ known most carried
            rwa [show littleEndian 2 (Command.prologueLength + fields.length) = [low, high] from
              written] at long
        · rename_i few
          obtain ⟨values, taken, rfl⟩ := ok_of_map read
          have length : rest.length < 2 := by
            rcases rest with _ | ⟨low, _ | ⟨high, fields⟩⟩
            · exact Nat.zero_lt_two
            · exact Nat.one_lt_two
            · exact absurd rfl (few low high fields)
          have carried := Cursor.carries_of_fields taken
          exact @Carries.short table ⟨id, seq, status, values⟩ _ _ known length carried
  · cases read

theorem decode_eq_ok_iff : table.decode bytes = .ok command ↔ table.Carries bytes command :=
  ⟨carries_of_decode, decode_of_carries⟩

/-- Bytes carry a command if they start with its header, are as many as they say, if there are bytes
to say so, and go on with its fields. -/
theorem carries_iff :
    table.Carries bytes command ↔
      ∃ layout : Layout, table.layout? command.id = some layout ∧
        bytes.take 3 = [command.id, command.seq, command.status] ∧
        (5 ≤ bytes.length → ofLittleEndian ((bytes.drop 3).take 2) = bytes.length) ∧
        layout.Carries (command.id == Command.deviceStatus)
          (bytes.drop (if 5 ≤ bytes.length then 5 else 3)) command.values := by
  constructor
  · intro carried
    cases carried with
    | @long _ layout fields known length carried =>
      have count := Command.length_long command fields
      refine ⟨layout, known, rfl, fun _ => ?_, ?_⟩
      · rw [count]
        exact ofLittleEndian_littleEndian 2 _ length
      · rw [if_pos (by rw [count]; exact Nat.le_add_right _ _)]
        exact carried
    | @short _ layout fields known length carried =>
      have few : ¬ 5 ≤ ([command.id, command.seq, command.status] ++ fields).length := by
        simp only [List.length_append, List.length_cons, List.length_nil]
        omega
      refine ⟨layout, known, rfl, fun whole => absurd whole few, ?_⟩
      rw [if_neg few]
      exact carried
  · rintro ⟨layout, known, header, stored, carried⟩
    by_cases whole : 5 ≤ bytes.length
    · rw [if_pos whole] at carried
      have count : Command.prologueLength + (bytes.drop 5).length = bytes.length := by
        rw [List.length_drop, Command.prologueLength, Command.headerLength]
        omega
      have two : ((bytes.drop 3).take 2).length = 2 :=
        List.length_take_of_le (by rw [List.length_drop]; omega)
      have most := ofLittleEndian_lt ((bytes.drop 3).take 2)
      have written := littleEndian_ofLittleEndian ((bytes.drop 3).take 2)
      rw [two, stored whole, ← count] at most written
      have parts : bytes = [command.id, command.seq, command.status] ++
          littleEndian 2 (Command.prologueLength + (bytes.drop 5).length) ++ bytes.drop 5 := by
        rw [written, ← header, List.append_assoc, ← List.drop_drop (i := 2) (j := 3),
          List.take_append_drop, List.take_append_drop]
      rw [parts]
      exact .long known most carried
    · rw [if_neg whole] at carried
      have parts : bytes = [command.id, command.seq, command.status] ++ bytes.drop 3 := by
        rw [← header, List.take_append_drop]
      rw [parts]
      exact .short known (by rw [List.length_drop]; omega) carried

/-- **Reading accepts exactly its grammar.** Bytes are decoded as a command exactly if they carry
it: its id has a layout, they start with its header and are as many as they say (three or four do
not say it), and what comes behind consists of a form for each field of the layout, which carries
its value, and of any bytes after the last. A word that does not fit any more is accepted in a
device status report only; it takes the bytes that are left, and it and the words after it are
zero. Bytes that carry no command are refused. -/
theorem decode_iff (table : CommandTable) (bytes : Bytes) :
    (∀ command : Command,
      (table.decode bytes = .ok command ↔ table.Carries bytes command) ∧
      (table.Carries bytes command ↔
        ∃ layout : Layout, table.layout? command.id = some layout ∧
          bytes.take 3 = [command.id, command.seq, command.status] ∧
          (5 ≤ bytes.length → ofLittleEndian ((bytes.drop 3).take 2) = bytes.length) ∧
          layout.Carries (command.id == Command.deviceStatus)
            (bytes.drop (if 5 ≤ bytes.length then 5 else 3)) command.values)) ∧
    (∀ (id : UInt8) (width : Width) (layout : Layout) (left : Bytes) (values : List Value),
      left.length < width.bytes →
        (Layout.Carries (id == Command.deviceStatus) (.word width :: layout) left values ↔
          id = Command.deviceStatus ∧ (∀ field ∈ layout, ∃ other : Width, field = .word other) ∧
            values = (Field.word width :: layout).map Value.zero)) ∧
    ((∃ fault, table.decode bytes = .error fault) ↔
      ∀ command : Command, ¬ table.Carries bytes command) := by
  refine ⟨fun command => ⟨decode_eq_ok_iff, carries_iff⟩, ?_, ?_⟩
  · intro id width layout left values short
    rw [Layout.carries_short_iff short, beq_iff_eq]
  · constructor
    · rintro ⟨fault, refused⟩ command carried
      rw [decode_of_carries carried] at refused
      cases refused
    · intro foreign
      cases read : table.decode bytes with
      | error fault => exact ⟨fault, rfl⟩
      | ok command => exact absurd (carries_of_decode read) (foreign command)

/-- A device status report without its last field, and a version with a byte behind it. -/
theorem decode_iff_of_shortStatus :
    builtin.decode [7, 9, 0, 6, 0, 0x22] =
        .ok { id := 7, seq := 9, values := [.u8 0x22, .u8 0] } ∧
      builtin.decode [13, 1, 0, 10, 0, 1, 2, 3, 4, 0xFF] =
        .ok { id := 13, seq := 1, values := [.u32 0x04030201] } := by
  obtain ⟨status, missing, -⟩ := decode_iff builtin [7, 9, 0, 6, 0, 0x22]
  obtain ⟨version, -, -⟩ := decode_iff builtin [13, 1, 0, 10, 0, 1, 2, 3, 4, 0xFF]
  constructor
  · have last := (missing 7 .one [] [] [.u8 0] (by decide)).mpr ⟨rfl, nofun, rfl⟩
    have carried : Layout.Carries true [.word .one, .word .one] ([0x22] ++ []) [.u8 0x22, .u8 0] :=
      .cons (.word rfl) last
    obtain ⟨decoded, spelled⟩ := status { id := 7, seq := 9, values := [.u8 0x22, .u8 0] }
    exact decoded.mpr (spelled.mpr ⟨_, rfl, rfl, fun _ => rfl, carried⟩)
  · have carried : Layout.Carries false [.word .four] ([1, 2, 3, 4] ++ [0xFF])
        [.u32 0x04030201] := .cons (.word rfl) .nil
    obtain ⟨decoded, spelled⟩ := version { id := 13, seq := 1, values := [.u32 0x04030201] }
    exact decoded.mpr (spelled.mpr ⟨_, rfl, rfl, fun _ => rfl, carried⟩)

end CommandTable

end SerialLink
