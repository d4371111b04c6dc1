import SerialLink.Command.Decode
import SerialLink.Command.Form

/-!
Reading takes from the bytes of a command what they carry. A cursor at the form of a field gives
the value that the form carries and stands behind it (`Cursor.field_of_carries`), whatever
follows; so the fields of a layout are read one after the other (`Cursor.fields_of_carries`), and
bytes that carry a command are decoded as that command (`CommandTable.decode_of_carries`).
-/

namespace SerialLink

/-! ### Results -/

section Results

variable {ε α β : Type} {first : Except ε α} {b : β}

theorem ok_of_bind {next : α → Except ε β} (done : first >>= next = .ok b) :
    ∃ a : α, first = .ok a ∧ next a = .ok b := by
  cases first with
  | error e => cases done
  | ok a => exact ⟨a, rfl, done⟩

theorem ok_of_map {change : α → β} (done : first.map change = .ok b) :
    ∃ a : α, first = .ok a ∧ change a = b := by
  cases first with
  | error e => cases done
  | ok a => exact ⟨a, rfl, Except.ok.inj done⟩

theorem error_of_map {change : α → β} {e : ε} (failed : first.map change = .error e) :
    first = .error e := by
  cases first with
  | error e' => exact congrArg Except.error (Except.error.inj failed)
  | ok a => cases failed

end Results

/-! ### Fields -/

namespace Cursor

/-- A cursor behind `bytes`. -/
theorem advance_append (offset : Nat) (bytes rest : Bytes) :
    (Cursor.mk offset (bytes ++ rest)).advance bytes.length = ⟨offset + bytes.length, rest⟩ := by
  simp [advance]

theorem take_append (offset : Nat) (bytes rest : Bytes) :
    (Cursor.mk offset (bytes ++ rest)).take bytes.length =
      .ok (bytes, ⟨offset + bytes.length, rest⟩) := by
  have enough : ¬ (bytes ++ rest).length < bytes.length := by
    rw [List.length_append]
    omega
  rw [take, if_neg enough, advance_append, List.take_left]

theorem word_append {width : Width} {bytes : Bytes} (length : bytes.length = width.bytes)
    (offset : Nat) (rest : Bytes) :
    (Cursor.mk offset (bytes ++ rest)).word width =
      .ok (ofLittleEndian bytes, ⟨offset + bytes.length, rest⟩) := by
  rw [word, ← length, take_append]
  rfl

theorem words_append {width : Width} {items : List Bytes}
    (length : ∀ bytes ∈ items, bytes.length = width.bytes) (offset : Nat) (rest : Bytes) :
    words width items.length ⟨offset, items.flatten ++ rest⟩ =
      .ok (items.map fun bytes => .ofNat (ofLittleEndian bytes),
        ⟨offset + items.flatten.length, rest⟩) := by
  induction items generalizing offset with
  | nil => rfl
  | cons bytes items ih =>
    obtain ⟨first, others⟩ := List.forall_mem_cons.mp length
    have behind := ih others (offset + bytes.length)
    simp only [List.length_cons, List.flatten_cons, List.append_assoc, words, word_append first]
    simp only [bind, Except.bind, behind, List.map_cons, List.length_append, Nat.add_assoc]

private theorem takeWhile_inner {bytes : Bytes} (inner : 0 ∉ bytes) (rest : Bytes) :
    (bytes ++ 0 :: rest).takeWhile (· ≠ 0) = bytes := by
  have nonzero : ∀ b ∈ bytes, decide (b ≠ 0) = true := by
    intro b mem
    have other : b ≠ 0 := fun zero => inner (zero ▸ mem)
    exact decide_eq_true other
  rw [List.takeWhile_append_of_pos nonzero, List.takeWhile_cons_of_neg (by decide),
    List.append_nil]

/-- Text ends at the first zero byte. -/
theorem text_append {bytes : Bytes} (inner : 0 ∉ bytes) (offset : Nat) (rest : Bytes) :
    (Cursor.mk offset (bytes ++ [0] ++ rest)).text =
      .ok (Utf8.decode bytes, ⟨offset + (bytes ++ [0]).length, rest⟩) := by
  have closed : (bytes ++ [0] ++ rest).takeWhile (· ≠ 0) = bytes := by
    rw [List.append_assoc]
    exact takeWhile_inner inner rest
  have shorter : ¬ bytes.length = (bytes ++ [0] ++ rest).length := by
    simp only [List.length_append, List.length_singleton]
    omega
  have behind := advance_append offset (bytes ++ [0]) rest
  rw [List.length_append, List.length_singleton] at behind
  simp only [text, closed]
  rw [if_neg shorter, behind, List.length_append, List.length_singleton]

/-- Raw data ends where its length says. -/
theorem data_append {bytes : Bytes} (most : bytes.length ≤ Command.maxData) (offset : Nat)
    (rest : Bytes) :
    (Cursor.mk offset (littleEndian 2 bytes.length ++ bytes ++ rest)).data =
      .ok (bytes, ⟨offset + (littleEndian 2 bytes.length ++ bytes).length, rest⟩) := by
  have announced : ofLittleEndian (littleEndian 2 bytes.length) = bytes.length := by
    refine ofLittleEndian_littleEndian 2 _ (Nat.lt_of_le_of_lt most ?_)
    decide
  have enough : ¬ (littleEndian 2 bytes.length ++ (bytes ++ rest)).length < 2 := by
    simp only [List.length_append, length_littleEndian]
    omega
  have behind := advance_append offset (littleEndian 2 bytes.length) (bytes ++ rest)
  have before : (littleEndian 2 bytes.length ++ (bytes ++ rest)).take 2 =
      littleEndian 2 bytes.length :=
    List.take_left' (length_littleEndian 2 _)
  rw [length_littleEndian] at behind
  rw [List.append_assoc, data, if_neg enough]
  simp only [before, announced, behind]
  rw [if_neg (by simp), if_neg (by omega), List.take_left, advance_append]
  simp only [List.length_append, length_littleEndian, Nat.add_assoc]

/-- At the form of a field a cursor reads the value that the form carries, and stands behind it. -/
theorem field_of_carries {field : Field} {form : Bytes} {value : Value}
    (carried : field.Carries form value) (id : UInt8) (index offset : Nat) (rest : Bytes) :
    (Cursor.mk offset (form ++ rest)).field id index field =
      .ok (value, ⟨offset + form.length, rest⟩) := by
  cases carried with
  | @word width _ length =>
    have enough : ¬ (form ++ rest).length < width.bytes := by
      rw [List.length_append, length]
      exact Nat.not_lt.mpr (Nat.le_add_right _ _)
    rw [Cursor.field, if_neg enough, ← length, List.take_left, advance_append]
  | text inner =>
    rw [Cursor.field, text_append inner]
    rfl
  | @words width count items number length =>
    have byte : [count].length = Width.one.bytes := rfl
    have counted := word_append byte offset (items.flatten ++ rest)
    have announced : ofLittleEndian [count] = items.length := by
      simp [ofLittleEndian, number]
    have listed := words_append length (offset + 1) rest
    simp only [List.singleton_append, announced, List.length_singleton] at counted
    simp only [Cursor.field, List.cons_append, counted, bind, Except.bind, listed,
      List.length_cons, Nat.add_assoc, Nat.add_comm 1]
  | data length =>
    rw [Cursor.field, data_append length]
    rfl

/-- A word with too few bytes left uses them up and is zero, where fields may be missing. -/
theorem field_of_short {width : Width} {bytes : Bytes} (short : bytes.length < width.bytes)
    (index offset : Nat) :
    (Cursor.mk offset bytes).field Command.deviceStatus index (.word width) =
      .ok (Value.zero (.word width), ⟨offset + bytes.length, []⟩) := by
  rw [Cursor.field, if_pos short, if_pos rfl]
  simp [advance]

theorem fields_of_carries {id : UInt8} {layout : Layout} {bytes : Bytes} {values : List Value}
    (carried : layout.Carries (id == Command.deviceStatus) bytes values) (index offset : Nat) :
    Cursor.fields id index ⟨offset, bytes⟩ layout = .ok values := by
  induction carried generalizing index offset with
  | nil => rfl
  | cons head _ ih =>
    simp only [Cursor.fields, field_of_carries head, bind, Except.bind, ih]
  | missing may short _ ih =>
    obtain rfl : id = Command.deviceStatus := eq_of_beq may
    simp only [Cursor.fields, field_of_short short, bind, Except.bind, ih]

end Cursor

/-! ### Commands -/

/-- A command that says its length has it. -/
theorem Command.length_long (command : Command) (fields : Bytes) :
    ([command.id, command.seq, command.status] ++
      littleEndian 2 (Command.prologueLength + fields.length) ++ fields).length =
        Command.prologueLength + fields.length := by
  simp only [List.length_append, List.length_cons, List.length_nil, length_littleEndian,
    Command.prologueLength, Command.headerLength]

namespace CommandTable

theorem get?_of_layout? {table : CommandTable} {id : UInt8} {layout : Layout}
    (known : table.layout? id = some layout) :
    ∃ spec : CommandSpec, table.get? id = some spec ∧ spec.layout = some layout :=
  Option.bind_eq_some_iff.mp known

/-- **Completeness of reading.** Bytes that carry a command are decoded as that command. -/
theorem decode_of_carries {table : CommandTable} {bytes : Bytes} {command : Command}
    (carried : table.Carries bytes command) : table.decode bytes = .ok command := by
  cases carried with
  | @long _ layout fields known length carried =>
    obtain ⟨spec, found, shape⟩ := get?_of_layout? known
    have stored : ofLittleEndian (littleEndian 2 (Command.prologueLength + fields.length)) =
        Command.prologueLength + fields.length :=
      ofLittleEndian_littleEndian 2 _ length
    have whole := command.length_long fields
    have read := Cursor.fields_of_carries carried 0 (Command.headerLength + 2)
    simp only [littleEndian, List.cons_append, List.nil_append] at stored whole ⊢
    simp only [decode, found, shape, stored, whole, ne_eq, not_true_eq_false, if_false]
    simp only [Cursor.advance, List.drop_succ_cons, List.drop_zero, read, Except.map]
  | @short _ layout fields known length carried =>
    obtain ⟨spec, found, shape⟩ := get?_of_layout? known
    have read := Cursor.fields_of_carries carried 0 Command.headerLength
    have few : ∀ (low high : UInt8) (rest : Bytes), fields ≠ low :: high :: rest := by
      rintro low high rest rfl
      simp only [List.length_cons] at length
      omega
    simp only [List.cons_append, List.nil_append, decode, found, shape, read, Except.map]

end CommandTable

end SerialLink
