import SerialLink.Proofs.Calling
import SerialLink.Proofs.Command.Descriptor
import SerialLink.Proofs.Command.Registered

/-!
Registrations asked for in any order. A table that accepts one has one entry more, under an id that
was free, and is the same everywhere else (`get?_add`); a table that refuses one is left as it is.
So what is true of the built-in table stays true (`Sound.add`): each entry is found under its own
id, and each layout can be written as a descriptor.
-/

namespace SerialLink

/-- A registration that is asked for. -/
structure Registration where
  id : UInt8
  name : String
  descriptor : String
  carriesStatus : Bool := false
  deriving DecidableEq, Repr

/-- The entry that it makes, if its descriptor is read as this layout. -/
def Registration.entry (r : Registration) (layout : Layout) : CommandSpec :=
  ⟨r.id, r.name, if layout.isEmpty then none else some layout, r.carriesStatus⟩

namespace CommandTable

variable {table : CommandTable} {r : Registration}

/-- Registers a command, and tells whether it was accepted. -/
def add (table : CommandTable) (r : Registration) : Except RegisterError Unit × CommandTable :=
  match table.register r.id r.name r.descriptor r.carriesStatus with
  | .ok table' => (.ok (), table')
  | .error e => (.error e, table)

theorem add_of_error {e : RegisterError} (refused : (table.add r).1 = .error e) :
    (table.add r).2 = table := by
  unfold add at refused ⊢
  split at refused
  · cases refused
  · rfl

/-- A registration is accepted if its id is free and its descriptor is read, and adds its entry
behind the others. -/
theorem add_of_free {layout : Layout} (free : table.get? r.id = none)
    (read : Layout.parse r.descriptor = .ok layout) :
    table.add r = (.ok (), { table with entries := table.entries ++ [r.entry layout] }) := by
  unfold add register
  rw [free, read]
  rfl

theorem add_ok_iff : (table.add r).1 = .ok () ↔
    table.get? r.id = none ∧ ∃ layout : Layout, Layout.parse r.descriptor = .ok layout := by
  constructor
  · intro accepted
    unfold add at accepted
    split at accepted
    case h_1 table' made =>
      obtain ⟨free, layout, read, -⟩ := register_eq_ok made
      exact ⟨free, layout, read⟩
    case h_2 => cases accepted
  · rintro ⟨free, layout, read⟩
    rw [add_of_free free read]

/-- Only the entry of the id that was free changes. -/
theorem get?_add {layout : Layout} (free : table.get? r.id = none)
    (read : Layout.parse r.descriptor = .ok layout) (id : UInt8) :
    (table.add r).2.get? id = if id = r.id then some (r.entry layout) else table.get? id := by
  rw [add_of_free free read]
  unfold get? at free ⊢
  rw [List.find?_append]
  split
  case isTrue same =>
    subst same
    rw [free, Option.none_or, List.find?_singleton]
    exact if_pos (beq_self_eq_true r.id)
  case isFalse other =>
    have elsewhere : ((r.entry layout).id == id) = false := by
      simpa [Registration.entry] using Ne.symm other
    rw [List.find?_singleton, elsewhere]
    simp

/-- What is true of every table that can be made. -/
structure Sound (table : CommandTable) : Prop where
  /-- An entry is found under its own id, so there is one entry at most for each. -/
  in_place : ∀ spec ∈ table.entries, table.get? spec.id = some spec
  /-- A layout has fields, and raw data once at most. -/
  layout : ∀ spec ∈ table.entries, ∀ layout ∈ spec.layout, layout ≠ [] ∧ layout.count .data ≤ 1
  /-- The built-in entries are there. -/
  builtin : ∀ spec ∈ builtin.entries, table.get? spec.id = some spec

theorem sound_builtin : Sound builtin where
  in_place := by decide
  layout := by decide
  builtin := by decide

/-- A layout that was read from a descriptor is stored if it has fields. -/
theorem layout_entry {layout stored : Layout} (read : Layout.parse r.descriptor = .ok layout)
    (kept : stored ∈ (r.entry layout).layout) : stored ≠ [] ∧ stored.count .data ≤ 1 := by
  obtain ⟨-, once⟩ := Layout.parse_eq_ok_iff.mp read
  unfold Registration.entry at kept
  split at kept
  case isTrue => cases kept
  case isFalse filled =>
    cases kept
    exact ⟨by simpa using filled, once⟩

theorem Sound.add (sound : table.Sound) (r : Registration) : (table.add r).2.Sound := by
  cases told : (table.add r).1 with
  | error e =>
    rw [add_of_error told]
    exact sound
  | ok =>
    obtain ⟨free, layout, read⟩ := add_ok_iff.mp told
    have found := get?_add free read
    have added : (table.add r).2.entries = table.entries ++ [r.entry layout] := by
      rw [add_of_free free read]
    -- An id under which there is an entry is not the free one.
    have kept : ∀ spec, table.get? spec.id = some spec →
        (table.add r).2.get? spec.id = some spec := by
      intro spec here
      rw [found, if_neg, here]
      intro same
      rw [same, free] at here
      cases here
    constructor
    · intro spec mem
      rw [added, List.mem_append, List.mem_singleton] at mem
      rcases mem with old | rfl
      · exact kept spec (sound.in_place spec old)
      · rw [found]
        exact if_pos rfl
    · intro spec mem stored here
      rw [added, List.mem_append, List.mem_singleton] at mem
      rcases mem with old | rfl
      · exact sound.layout spec old stored here
      · exact layout_entry read here
    · intro spec mem
      exact kept spec (sound.builtin spec mem)

theorem sound_callAll (registrations : List Registration) :
    (callAll add builtin registrations).2.Sound :=
  callAll_keeps (P := fun _ table => Sound table) (fun _ _ r _ sound => sound.add r) []
    sound_builtin

/-- **Tables over any registrations.** After any registrations asked of the built-in table, each
entry is found under its own id, a layout has fields and raw data once at most, and the built-in
entries are what they were. A further registration that is refused leaves the table as it is; it is
accepted just if its id is free and its descriptor is read, and then adds its entry and changes
nothing else. A descriptor is read just if each letter stands for a field and `D` occurs once at
most, as the one layout that it is written for; else the first unknown letter is told, and only if
there is none, that raw data occurs twice. -/
theorem sound_over_registrations (registrations : List Registration) :
    let table := (callAll add builtin registrations).2
    (∀ id spec, table.get? id = some spec → spec.id = id ∧
      ∀ layout, spec.layout = some layout → layout ≠ [] ∧ layout.count .data ≤ 1) ∧
    (∀ spec ∈ table.entries, table.get? spec.id = some spec) ∧
    (∀ id spec, builtin.get? id = some spec → table.get? id = some spec) ∧
    (∀ r : Registration,
      (∀ e, (table.add r).1 = .error e → (table.add r).2 = table) ∧
      ((table.add r).1 = .ok () ↔
        table.get? r.id = none ∧ ∃ layout, Layout.parse r.descriptor = .ok layout) ∧
      ∀ layout, (table.add r).1 = .ok () → Layout.parse r.descriptor = .ok layout → ∀ id,
        (table.add r).2.get? id = if id = r.id then some (r.entry layout) else table.get? id) ∧
    ∀ descriptor : String,
      ((∃ layout, Layout.parse descriptor = .ok layout) ↔
        (∀ c ∈ descriptor.toList, c ∈ Field.letters) ∧ descriptor.toList.count 'D' ≤ 1) ∧
      (∀ layout : Layout, Layout.parse descriptor = .ok layout ↔
        layout.render = descriptor ∧ layout.count .data ≤ 1) ∧
      (∀ c, Layout.parse descriptor = .error (.unknownField c) ↔ ∃ before after,
        descriptor.toList = before ++ c :: after ∧ (∀ known ∈ before, known ∈ Field.letters) ∧
          c ∉ Field.letters) ∧
      (Layout.parse descriptor = .error .duplicateData ↔
        (∀ c ∈ descriptor.toList, c ∈ Field.letters) ∧ 1 < descriptor.toList.count 'D') := by
  intro table
  have sound : table.Sound := sound_callAll registrations
  refine ⟨?_, sound.in_place, ?_, fun r => ⟨fun e => add_of_error, add_ok_iff, ?_⟩,
    fun descriptor => ⟨Layout.exists_parse_eq_ok_iff, fun layout => Layout.parse_eq_ok_iff,
      fun c => Layout.parse_eq_unknownField_iff, Layout.parse_eq_duplicateData_iff⟩⟩
  · intro id spec found
    have mem : spec ∈ table.entries := List.mem_of_find?_eq_some found
    exact ⟨id_of_get? found, fun layout here => sound.layout spec mem layout here⟩
  · intro id spec found
    have mem : spec ∈ builtin.entries := List.mem_of_find?_eq_some found
    rw [← id_of_get? found]
    exact sound.builtin spec mem
  · intro layout accepted read
    exact get?_add (add_ok_iff.mp accepted).1 read

/-- An id that is taken, an unknown letter behind raw data that occurs twice, and one that is
accepted. -/
example : (callAll add builtin [⟨Command.version, "VERSION", "", false⟩,
    ⟨0x40, "PAIR", "DDx", false⟩, ⟨0x40, "PAIR", "bDq", false⟩]).1.map Prod.snd =
    [.error (.duplicateCommand Command.version), .error (.layout (.unknownField 'x')),
      .ok ()] := by
  decide +kernel

end CommandTable

end SerialLink
