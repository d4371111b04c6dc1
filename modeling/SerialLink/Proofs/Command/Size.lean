import Mathlib.Data.List.Forall2
import Mathlib.Data.String.Basic
import SerialLink.Proofs.Command.Reencoding

/-!
How long commands are when they are written. A command has one form or none, whatever the limit
(`CommandTable.encode_determined`). Which commands have one is said without writing them: a value
has to be one that its field takes (`Field.Takes`), and then takes up as many bytes as its field
says (`Field.size`). Writing goes through the fields one by one and looks at the limit before each,
but it is the end of the last that counts (`Layout.Takes.encodeFrom`). So the form is written
exactly if all of it fits, and its length is known beforehand.
-/

namespace SerialLink

/-! ### Fields -/

namespace Field

/-- The value can be written in the field. -/
def Takes : Field → Value → Prop
  | .text, .text s => '\x00' ∉ s.toList
  | .words width, .words items =>
    items.length ≤ 255 ∧ ∀ item ∈ items, item.toNat ≤ width.largest
  | .data, .data bytes => bytes.length ≤ Command.maxData
  | field, value => value.fits field = true

/-- The bytes that a value takes up in the field. -/
def size : Field → Value → Nat
  | .word width, _ => width.bytes
  | .text, .text s => s.utf8ByteSize + 1
  | .words width, .words items => 1 + items.length * width.bytes
  | .data, .data bytes => 2 + bytes.length
  | _, _ => 0

end Field

namespace Utf8

theorem length_encodeChar (c : Char) : (encodeChar c).length = c.utf8Size := by
  have below (bound : UInt32) : c.val ≤ bound ↔ c.toNat < bound.toNat + 1 :=
    UInt32.le_iff_toNat_le.trans Nat.lt_succ_iff.symm
  simp only [encodeChar, Char.utf8Size, below, apply_ite List.length]
  rfl

theorem length_encode (s : String) : (encode s).length = s.utf8ByteSize := by
  have chars (cs : List Char) :
      (cs.flatMap encodeChar).length = (String.ofList cs).utf8ByteSize := by
    induction cs with
    | nil => rfl
    | cons c cs ih =>
      rw [List.flatMap_cons, List.length_append, ih, length_encodeChar, String.utf8ByteSize_ofList,
        String.utf8ByteSize_ofList, String.utf8Len_cons, Nat.add_comm]
  rw [encode, chars, String.ofList_toList]

theorem zero_mem_encode {s : String} : 0 ∈ encode s ↔ '\x00' ∈ s.toList := by
  refine ⟨fun zero => ?_, fun nul => List.mem_flatMap.mpr ⟨_, nul, by decide⟩⟩
  obtain ⟨c, listed, byte⟩ := List.mem_flatMap.mp zero
  have nul : c.toNat = 0 := Decidable.byContradiction fun other => zero_notMem_encodeChar other byte
  obtain rfl : c = '\x00' := Char.toNat_inj.mp nul
  exact listed

end Utf8

namespace Field

variable {field : Field} {value : Value}

/-- A value that the field takes is written in the size it has there, whatever the place. -/
theorem Takes.encode (takes : field.Takes value) :
    ∃ form : Bytes, (∀ index, field.encode index value = .ok form) ∧
      form.length = field.size value := by
  cases field with
  | word width =>
    cases width <;> cases value <;>
      first | exact ⟨_, fun _ => rfl, length_littleEndian _ _⟩ | cases takes
  | text =>
    cases value with
    | text s =>
      have inner : 0 ∉ Utf8.encode s := mt Utf8.zero_mem_encode.mp takes
      refine ⟨Utf8.encode s ++ [0], fun index => by simp [Field.encode, inner], ?_⟩
      rw [List.length_append, Utf8.length_encode]
      rfl
    | _ => cases takes
  | words width =>
    cases value with
    | words items =>
      obtain ⟨short, range⟩ := takes
      have none : items.find? (fun item => item.toNat > width.largest) = none := by
        rw [List.find?_eq_none]
        intro item listed
        simpa using range item listed
      refine ⟨_, fun index => by rw [Field.encode, if_neg (Nat.not_lt.mpr short), none], ?_⟩
      simp [size, List.length_flatMap, Nat.add_comm]
    | _ => cases takes
  | data =>
    cases value with
    | data bytes =>
      have short : bytes.length ≤ Command.maxData := takes
      refine ⟨_, fun index => by rw [Field.encode, if_neg (Nat.not_lt.mpr short)], ?_⟩
      rw [List.length_append, length_littleEndian]
      rfl
    | _ => cases takes

theorem takes_of_encode {index : Nat} {form : Bytes}
    (written : field.encode index value = .ok form) : field.Takes value := by
  cases field with
  | word width => cases width <;> cases value <;> first | rfl | cases written
  | text =>
    cases value with
    | text s =>
      simp only [Field.encode] at written
      split at written
      · cases written
      · rename_i inner
        exact fun nul => inner (by simpa using Utf8.zero_mem_encode.mpr nul)
    | _ => cases written
  | words width =>
    cases value with
    | words items =>
      simp only [Field.encode] at written
      split at written
      · cases written
      · rename_i short
        split at written
        · cases written
        · rename_i range
          refine ⟨Nat.not_lt.mp short, fun item listed => ?_⟩
          simpa using List.find?_eq_none.mp range item listed
    | _ => cases written
  | data =>
    cases value with
    | data bytes =>
      simp only [Field.encode] at written
      split at written
      · cases written
      · rename_i short
        exact Nat.not_lt.mp short
    | _ => cases written

end Field

/-! ### Layouts -/

namespace Layout

variable {layout : Layout} {values : List Value}

/-- Each value can be written in its field, and there is one for each. -/
def Takes (layout : Layout) (values : List Value) : Prop := List.Forall₂ Field.Takes layout values

/-- The bytes that values take up in their fields, together. -/
def size : Layout → List Value → Nat
  | field :: fields, value :: values => field.size value + size fields values
  | _, _ => 0

/-- Values that a layout takes have one form. Writing looks at the limit before every field, but it
is the end of the last one that counts. -/
theorem Takes.encodeFrom (takes : layout.Takes values) :
    ∃ form : Bytes, form.length = layout.size values ∧
      ∀ {limit index used : Nat} {bytes : Bytes}, used ≤ limit →
        (layout.encodeFrom limit index used values = .ok bytes ↔
          bytes = form ∧ used + form.length ≤ limit) := by
  induction takes with
  | nil =>
    refine ⟨[], rfl, fun start => ?_⟩
    constructor
    · intro done
      cases done
      exact ⟨rfl, start⟩
    · rintro ⟨rfl, -⟩
      rfl
  | @cons field value layout values head _ ih =>
    obtain ⟨form, written, length⟩ := head.encode
    obtain ⟨rest, lengths, fits⟩ := ih
    refine ⟨form ++ rest, ?_, fun {limit index used bytes} start => ?_⟩
    · rw [List.length_append, length, lengths, size]
    · rw [encodeFrom_cons (written index), List.length_append, ← Nat.add_assoc]
      by_cases room : used + form.length ≤ limit
      · rw [if_neg (Nat.not_lt.mpr room)]
        constructor
        · intro done
          obtain ⟨others, behind, rfl⟩ := ok_of_map done
          obtain ⟨rfl, within⟩ := (fits room).mp behind
          exact ⟨rfl, within⟩
        · rintro ⟨rfl, within⟩
          rw [(fits room).mpr ⟨rfl, within⟩]
          rfl
      · rw [if_pos (Nat.not_le.mp room)]
        refine iff_of_false (fun done => by cases done) fun ⟨_, within⟩ => ?_
        omega

theorem takes_of_encodeFrom {limit index used : Nat} {bytes : Bytes}
    (shape : values.length = layout.length)
    (written : layout.encodeFrom limit index used values = .ok bytes) : layout.Takes values := by
  induction layout generalizing index used values bytes with
  | nil =>
    obtain rfl : values = [] := List.eq_nil_of_length_eq_zero shape
    exact .nil
  | cons field layout ih =>
    cases values with
    | nil => cases shape
    | cons value values =>
      cases first : field.encode index value with
      | error e =>
        rw [Layout.encodeFrom, first] at written
        cases written
      | ok form =>
        rw [encodeFrom_cons first] at written
        split at written
        · cases written
        · obtain ⟨others, rest, -⟩ := ok_of_map written
          exact .cons (Field.takes_of_encode first) (ih (Nat.succ.inj shape) rest)

end Layout

/-! ### Commands -/

namespace CommandTable

variable {table : CommandTable} {command : Command}

/-- There is a command to write: its id is known, and unless it is an acknowledgment, its layout
takes its values, in no more bytes than a length can be stored for. -/
def HasForm (table : CommandTable) (command : Command) : Prop :=
  (table.get? command.id).isSome ∧
    (command.id ≠ Command.acknowledge →
      (table.layoutOf command.id).Takes command.values ∧
        Command.prologueLength + (table.layoutOf command.id).size command.values ≤ 65535)

theorem hasForm_of_encode {limit : Nat} {bytes : Bytes}
    (written : table.encode command limit = .ok bytes) : table.HasForm command := by
  obtain ⟨known, cases⟩ := encode_eq_ok_iff.mp written
  refine ⟨known, fun other => ?_⟩
  rw [if_neg other] at cases
  obtain ⟨room, shape, fields, body, -⟩ := cases
  have takes := Layout.takes_of_encodeFrom shape body
  obtain ⟨form, length, fits⟩ := takes.encodeFrom
  obtain ⟨-, within⟩ := (fits room).mp body
  exact ⟨takes, by omega⟩

/-- An acknowledgment is written wherever there is room for its header. -/
theorem HasForm.encode_acknowledge (has : table.HasForm command)
    (short : command.id = Command.acknowledge) {limit : Nat} {bytes : Bytes} :
    table.encode command limit = .ok bytes ↔
      bytes = [command.id, command.seq, command.status] ∧ bytes.length ≤ limit := by
  have header : Command.headerLength = 3 := rfl
  rw [encode_eq_ok_iff, and_iff_right has.1, if_pos short, and_comm]
  refine and_congr_right fun same => ?_
  subst same
  simp only [List.length_cons, List.length_nil]
  omega

/-- Any other command is written wherever there is room for the whole of it. -/
theorem HasForm.encode_long (has : table.HasForm command)
    (other : command.id ≠ Command.acknowledge) :
    ∃ fields : Bytes, fields.length = (table.layoutOf command.id).size command.values ∧
      ∀ {limit : Nat} {bytes : Bytes}, table.encode command limit = .ok bytes ↔
        bytes = [command.id, command.seq, command.status] ++
            littleEndian 2 (Command.prologueLength + fields.length) ++ fields ∧
          bytes.length ≤ limit := by
  obtain ⟨takes, storable⟩ := has.2 other
  obtain ⟨fields, length, fits⟩ := takes.encodeFrom
  refine ⟨fields, length, fun {limit bytes} => ?_⟩
  rw [encode_eq_ok_iff, and_iff_right has.1, if_neg other]
  constructor
  · rintro ⟨room, -, written, body, rfl⟩
    obtain ⟨rfl, within⟩ := (fits room).mp body
    rw [Command.length_long]
    exact ⟨rfl, by omega⟩
  · rintro ⟨rfl, within⟩
    rw [Command.length_long] at within
    have room : Command.prologueLength ≤ min limit 65535 := by omega
    exact ⟨room, takes.length_eq.symm, fields, (fits room).mpr ⟨rfl, by omega⟩, rfl⟩

/-- The bytes are the one form of the command. -/
structure IsForm (table : CommandTable) (command : Command) (form : Bytes) : Prop where
  /-- They are written at every limit that leaves room for all of them, and nothing else is. -/
  encode_iff : ∀ (limit : Nat) (bytes : Bytes),
    table.encode command limit = .ok bytes ↔ bytes = form ∧ form.length ≤ limit
  length_le : form.length ≤ 65535
  /-- An acknowledgment is its header. -/
  short : command.id = Command.acknowledge → form = [command.id, command.seq, command.status]
  /-- Any other command stores the length of the whole between its header and its fields. -/
  long : command.id ≠ Command.acknowledge → ∃ stored fields : Bytes,
    form = [command.id, command.seq, command.status] ++ stored ++ fields ∧
      stored.length = 2 ∧ ofLittleEndian stored = form.length ∧
      form.length = Command.prologueLength + (table.layoutOf command.id).size command.values

theorem HasForm.exists_isForm (has : table.HasForm command) :
    ∃ form : Bytes, table.IsForm command form := by
  by_cases short : command.id = Command.acknowledge
  · refine ⟨_, fun limit bytes => (has.encode_acknowledge short).trans ?_, ?_, fun _ => rfl,
      fun other => absurd short other⟩
    · exact and_congr_right fun same => same ▸ Iff.rfl
    · exact Nat.le_of_ble_eq_true rfl
  · obtain ⟨fields, size, written⟩ := has.encode_long short
    have storable := (has.2 short).2
    rw [← size] at storable
    refine ⟨_, fun limit bytes => written.trans (and_congr_right fun same => same ▸ Iff.rfl), ?_,
      fun other => absurd other short, fun _ => ⟨_, fields, rfl, length_littleEndian _ _, ?_, ?_⟩⟩
    · rwa [Command.length_long]
    · rw [Command.length_long]
      exact ofLittleEndian_littleEndian 2 _ (Nat.lt_succ_of_le storable)
    · rw [Command.length_long, size]

theorem IsForm.eq_of_encode {form bytes : Bytes} (is : table.IsForm command form) {limit : Nat}
    (written : table.encode command limit = .ok bytes) : bytes = form :=
  ((is.encode_iff limit bytes).mp written).1

/-- **One form or none.** Over any table, those made from the built-in one by registrations among
them, a command can be written just if it has a form. Whatever is written of it is its one form
(`IsForm`): at every limit that leaves room for the whole of it, at no other limit, and never longer
than 65535 bytes. Writing over a buffer puts the form at its start and leaves the rest; without room
for the form it leaves the whole buffer, and gives zero. -/
theorem encode_determined (table : CommandTable) (command : Command) :
    ((∃ (limit : Nat) (form : Bytes), table.encode command limit = .ok form) ↔
      table.HasForm command) ∧
    (∀ (limit : Nat) (form : Bytes), table.encode command limit = .ok form →
      table.IsForm command form) ∧
    ∀ target : Bytes,
      (∀ form : Bytes, table.encode command target.length = .ok form →
        (table.encodeInto command target).1 = form.length ∧
          (table.encodeInto command target).2.length = target.length ∧
          (table.encodeInto command target).2.take form.length = form ∧
          (table.encodeInto command target).2.drop form.length = target.drop form.length) ∧
      ∀ fault : EncodeError, table.encode command target.length = .error fault →
        table.encodeInto command target = (0, target) := by
  have isForm {limit : Nat} {form : Bytes} (written : table.encode command limit = .ok form) :
      table.IsForm command form := by
    obtain ⟨form', is⟩ := (hasForm_of_encode written).exists_isForm
    obtain rfl := is.eq_of_encode written
    exact is
  refine ⟨⟨fun ⟨_, _, written⟩ => hasForm_of_encode written, fun has => ?_⟩,
    fun _ _ => isForm, fun target => ⟨fun form written => ?_, fun fault failed => ?_⟩⟩
  · obtain ⟨form, is⟩ := has.exists_isForm
    exact ⟨form.length, form, (is.encode_iff _ _).mpr ⟨rfl, Nat.le_refl _⟩⟩
  · obtain ⟨-, room⟩ := ((isForm written).encode_iff _ _).mp written
    rw [encodeInto, written]
    refine ⟨rfl, ?_, List.take_left, List.drop_left⟩
    rw [List.length_append, List.length_drop]
    exact Nat.add_sub_cancel' room
  · rw [encodeInto, failed]

end CommandTable

end SerialLink
