import SerialLink.Proofs.Command.Reading
import SerialLink.Proofs.Command.Registered
import SerialLink.Proofs.Command.Writing

/-!
A command that was written is read back as it was, over every table that can be made
(`CommandTable.decode_encode`).
-/

namespace SerialLink.CommandTable

/-- The acknowledgment is the one command that is written without a length, and has no layout. -/
theorem Registered.ne_acknowledge {table : CommandTable} (made : table.Registered) {id : UInt8}
    {layout : Layout} (known : table.layout? id = some layout) : id ≠ Command.acknowledge := by
  rintro rfl
  rw [made.layout?_acknowledge] at known
  cases known

/-- **Round trip.** Over a table made from the built-in one by registrations, the bytes of a command
whose id has a layout are read back as that command, whatever room there was for them. -/
theorem decode_encode {table : CommandTable} (made : table.Registered) {command : Command}
    {layout : Layout} (known : table.layout? command.id = some layout) {limit : Nat} {bytes : Bytes}
    (written : table.encode command limit = .ok bytes) : table.decode bytes = .ok command :=
  decode_of_carries (carries_of_encode known (made.ne_acknowledge known) written)

/-- A registered command with every kind of field: words of all widths, text of several bytes a
character, a list and raw data. -/
theorem decode_encode_of_every_kind :
    let table : CommandTable :=
      { builtin with entries := builtin.entries ++
          [⟨0x40, "CUSTOM", some [.word .one, .text, .words .two, .data, .word .two, .word .four,
            .word .eight], false⟩] }
    let command : Command :=
      { id := 0x40, seq := 7, status := 3,
        values := [.u8 0xC0, .text "aé✓😀", .words [0, 0xFFFF, 1], .data [0, 0xDB], .u16 0x1234,
          .u32 0x89ABCDEF, .u64 0xFFFFFFFFFFFFFFFF] }
    let bytes : Bytes :=
      [0x40, 7, 3, 42, 0, 0xC0, 0x61, 0xC3, 0xA9, 0xE2, 0x9C, 0x93, 0xF0, 0x9F, 0x98, 0x80, 0, 3,
        0, 0, 0xFF, 0xFF, 1, 0, 2, 0, 0, 0xDB, 0x34, 0x12, 0xEF, 0xCD, 0xAB, 0x89, 0xFF, 0xFF, 0xFF,
        0xFF, 0xFF, 0xFF, 0xFF, 0xFF]
    table.Registered ∧ table.encode command 256 = .ok bytes ∧ table.decode bytes = .ok command := by
  intro table command bytes
  have accepted : builtin.register 0x40 "CUSTOM" "BSwDWLQ" false = .ok table := by rfl
  have made : table.Registered := .register .builtin accepted
  have written : table.encode command 256 = .ok bytes := by rfl
  exact ⟨made, written, decode_encode made rfl written⟩

end SerialLink.CommandTable
