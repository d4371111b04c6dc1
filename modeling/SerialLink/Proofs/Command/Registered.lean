import SerialLink.Command.Encode

/-!
Tables that can be made: the built-in one, with further commands registered in any order. What is in
such a table stays there (`get?_register_of_get?`), so the built-in commands are the same in all of
them (`Registered.get?_of_builtin`).
-/

namespace SerialLink.CommandTable

/-- The tables that can be made. A registration that is refused makes none. -/
inductive Registered : CommandTable → Prop where
  | builtin : Registered CommandTable.builtin
  | register {table table' : CommandTable} {id : UInt8} {name descriptor : String}
    {carriesStatus : Bool} (before : Registered table)
    (accepted : table.register id name descriptor carriesStatus = .ok table') : Registered table'

/-- An accepted registration: the id was free, and one entry is added behind the others. -/
theorem register_eq_ok {table table' : CommandTable} {id : UInt8} {name descriptor : String}
    {carriesStatus : Bool}
    (accepted : table.register id name descriptor carriesStatus = .ok table') :
    table.get? id = none ∧ ∃ layout : Layout, Layout.parse descriptor = .ok layout ∧
      table' = { table with entries := table.entries ++
        [⟨id, name, if layout.isEmpty then none else some layout, carriesStatus⟩] } := by
  unfold register at accepted
  split at accepted
  · cases accepted
  · rename_i free
    split at accepted
    · cases accepted
    · rename_i layout parsed
      exact ⟨by simpa using free, layout, parsed, (Except.ok.inj accepted).symm⟩

theorem get?_register_of_get? {table table' : CommandTable} {id known : UInt8}
    {name descriptor : String} {carriesStatus : Bool} {spec : CommandSpec}
    (accepted : table.register id name descriptor carriesStatus = .ok table')
    (found : table.get? known = some spec) : table'.get? known = some spec := by
  obtain ⟨-, layout, -, rfl⟩ := register_eq_ok accepted
  unfold get? at found ⊢
  rw [List.find?_append, found, Option.some_or]

/-- The built-in commands are in every table. -/
theorem Registered.get?_of_builtin {table : CommandTable} (made : table.Registered) {id : UInt8}
    {spec : CommandSpec} (known : CommandTable.builtin.get? id = some spec) :
    table.get? id = some spec := by
  induction made with
  | builtin => exact known
  | register _ accepted ih => exact get?_register_of_get? accepted ih

/-- The acknowledgment has no layout in any table. -/
theorem Registered.layout?_acknowledge {table : CommandTable} (made : table.Registered) :
    table.layout? Command.acknowledge = none := by
  have known : CommandTable.builtin.get? Command.acknowledge =
      some ⟨Command.acknowledge, "ACK", none, false⟩ := by decide
  rw [layout?, made.get?_of_builtin known]
  rfl

/-- Of the table only the entry of its id matters to a command. -/
theorem encode_congr {table table' : CommandTable} {command : Command}
    (same : table.get? command.id = table'.get? command.id) (limit : Nat) :
    table.encode command limit = table'.encode command limit := by
  unfold encode
  rw [same]

/-- A probe or a fetch can be written, whatever else has been registered. -/
theorem Registered.encode_zeroed {table : CommandTable} (made : table.Registered) {id : UInt8}
    (known : id ∈ [Command.deviceStatus, Command.dataConfirm, Command.dataIndication]) :
    ∃ (command : Command) (payload : Bytes), table.zeroed? id = some command ∧
      table.encode command Command.maxLength = .ok payload := by
  obtain ⟨spec, command, payload, found, zeroed, same, written⟩ :
      ∃ (spec : CommandSpec) (command : Command) (payload : Bytes),
        CommandTable.builtin.get? id = some spec ∧
          CommandTable.builtin.zeroed? id = some command ∧ command.id = id ∧
          CommandTable.builtin.encode command Command.maxLength = .ok payload := by
    simp only [List.mem_cons, List.not_mem_nil, or_false] at known
    rcases known with rfl | rfl | rfl <;> exact ⟨_, _, _, rfl, rfl, rfl, rfl⟩
  have entry := made.get?_of_builtin found
  refine ⟨command, payload, ?_, ?_⟩
  · unfold zeroed? layout? at zeroed ⊢
    rwa [entry, ← found]
  · rw [← written]
    refine encode_congr ?_ _
    rw [same, entry, found]

end SerialLink.CommandTable
