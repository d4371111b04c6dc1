import Mathlib.Data.List.Basic
import Mathlib.Data.List.Count
import SerialLink.Proofs.Command.Reading

/-!
Descriptors. Writing and reading them are inverse to each other: a descriptor is read as a layout
just if it is what is written for it and raw data occurs once at most (`parse_eq_ok_iff`). So it is
read just if each of its letters stands for a field and `D` occurs once at most
(`exists_parse_eq_ok_iff`); else the first letter that stands for none is told
(`parse_eq_unknownField_iff`), and only if there is none, that raw data occurs twice
(`parse_eq_duplicateData_iff`).
-/

namespace SerialLink

namespace Field

/-- The letters that may stand in a descriptor. -/
def letters : List Char := ['B', 'W', 'L', 'Q', 'S', 'b', 'w', 'l', 'q', 'D']

theorem toChar_injective : Function.Injective toChar := by
  intro field other same
  have read := ofChar?_toChar field
  rw [same, ofChar?_toChar] at read
  exact (Option.some.inj read).symm

theorem ofChar?_eq_some_iff {c : Char} {field : Field} :
    ofChar? c = some field ↔ c = field.toChar := by
  constructor
  · intro read
    exact (toChar_of_ofChar? read).symm
  · rintro rfl
    exact ofChar?_toChar field

theorem mem_letters_iff {c : Char} : c ∈ letters ↔ ∃ field : Field, c = field.toChar := by
  constructor
  · intro mem
    have listed : letters = all.map toChar := rfl
    rw [listed] at mem
    obtain ⟨field, -, same⟩ := List.mem_map.mp mem
    exact ⟨field, same.symm⟩
  · rintro ⟨field, rfl⟩
    rcases field with (_ | _ | _ | _) | _ | (_ | _ | _ | _) | _ <;> decide

theorem ofChar?_eq_none_iff {c : Char} : ofChar? c = none ↔ c ∉ letters := by
  rw [mem_letters_iff, Option.eq_none_iff_forall_ne_some]
  simp [ofChar?_eq_some_iff]

end Field

namespace Layout

open SerialLink.Field (letters)

/-! ### One letter after the other -/

theorem fields_cons_toChar (field : Field) (cs : List Char) :
    fields (field.toChar :: cs) = (fields cs).map (field :: ·) := by
  rw [fields, Field.ofChar?_toChar]

theorem fields_cons_of_notMem {c : Char} (unknown : c ∉ letters) (cs : List Char) :
    fields (c :: cs) = .error (.unknownField c) := by
  rw [fields, Field.ofChar?_eq_none_iff.mpr unknown]

theorem fields_map_toChar (layout : Layout) :
    fields (layout.map Field.toChar) = .ok layout := by
  induction layout with
  | nil => rfl
  | cons field layout ih =>
    rw [List.map_cons, fields_cons_toChar, ih]
    rfl

theorem fields_eq_ok_iff {cs : List Char} {layout : Layout} :
    fields cs = .ok layout ↔ cs = layout.map Field.toChar := by
  constructor
  · intro read
    induction cs generalizing layout with
    | nil =>
      cases read
      rfl
    | cons c cs ih =>
      by_cases known : c ∈ letters
      · obtain ⟨field, rfl⟩ := Field.mem_letters_iff.mp known
        rw [fields_cons_toChar] at read
        obtain ⟨others, rest, rfl⟩ := ok_of_map read
        rw [List.map_cons, ih rest]
      · rw [fields_cons_of_notMem known] at read
        cases read
  · rintro rfl
    exact fields_map_toChar layout

/-- Only a letter that stands for no field is told, and it is the first one. -/
theorem fields_eq_error_iff {cs : List Char} {e : LayoutError} :
    fields cs = .error e ↔ ∃ before c after, cs = before ++ c :: after ∧
      (∀ known ∈ before, known ∈ letters) ∧ c ∉ letters ∧ e = .unknownField c := by
  constructor
  · intro failed
    induction cs with
    | nil => cases failed
    | cons c cs ih =>
      by_cases known : c ∈ letters
      · obtain ⟨field, rfl⟩ := Field.mem_letters_iff.mp known
        rw [fields_cons_toChar] at failed
        obtain ⟨before, c, after, rfl, others, unknown, rfl⟩ := ih (error_of_map failed)
        exact ⟨_ :: before, c, after, rfl, List.forall_mem_cons.mpr ⟨known, others⟩, unknown, rfl⟩
      · rw [fields_cons_of_notMem known] at failed
        cases failed
        exact ⟨[], c, cs, rfl, nofun, known, rfl⟩
  · rintro ⟨before, c, after, rfl, known, unknown, rfl⟩
    induction before with
    | nil => exact fields_cons_of_notMem unknown after
    | cons first before ih =>
      obtain ⟨here, others⟩ := List.forall_mem_cons.mp known
      obtain ⟨field, rfl⟩ := Field.mem_letters_iff.mp here
      rw [List.cons_append, fields_cons_toChar, ih others]
      rfl

/-! ### Whole descriptors -/

variable {descriptor : String} {layout : Layout}

theorem toList_render (layout : Layout) : layout.render.toList = layout.map Field.toChar :=
  String.toList_ofList

theorem render_eq_iff : layout.render = descriptor ↔ fields descriptor.toList = .ok layout := by
  rw [fields_eq_ok_iff, ← String.toList_inj, toList_render, eq_comm]

theorem count_map_toChar (layout : Layout) :
    (layout.map Field.toChar).count 'D' = layout.count .data :=
  List.count_map_of_injective layout Field.toChar Field.toChar_injective .data

theorem parse_of_unknown {e : LayoutError} (unknown : fields descriptor.toList = .error e) :
    parse descriptor = .error e := by
  rw [parse, unknown]

theorem parse_of_known (known : fields descriptor.toList = .ok layout) :
    parse descriptor = if 1 < layout.count .data then .error .duplicateData else .ok layout := by
  rw [parse, known]

/-- The letters of a descriptor that stand for fields, and how often `D` is among them. -/
theorem letters_of_known (known : fields descriptor.toList = .ok layout) :
    (∀ c ∈ descriptor.toList, c ∈ letters) ∧ descriptor.toList.count 'D' = layout.count .data := by
  rw [fields_eq_ok_iff.mp known, count_map_toChar]
  refine ⟨fun c mem => ?_, rfl⟩
  obtain ⟨field, -, same⟩ := List.mem_map.mp mem
  exact Field.mem_letters_iff.mpr ⟨field, same.symm⟩

/-- A descriptor is read as the layout that it is written for, if that has raw data once at most. -/
theorem parse_eq_ok_iff :
    parse descriptor = .ok layout ↔ layout.render = descriptor ∧ layout.count .data ≤ 1 := by
  rw [render_eq_iff]
  cases read : fields descriptor.toList with
  | error e => simp [parse_of_unknown read]
  | ok others =>
    rw [parse_of_known read, Except.ok.injEq]
    split
    case isTrue twice =>
      simp only [reduceCtorEq, false_iff]
      rintro ⟨rfl, once⟩
      exact Nat.not_lt.mpr once twice
    case isFalse once =>
      rw [Except.ok.injEq]
      constructor
      · rintro rfl
        exact ⟨rfl, Nat.le_of_not_lt once⟩
      · exact And.left

theorem exists_parse_eq_ok_iff :
    (∃ layout, parse descriptor = .ok layout) ↔
      (∀ c ∈ descriptor.toList, c ∈ letters) ∧ descriptor.toList.count 'D' ≤ 1 := by
  cases read : fields descriptor.toList with
  | error e =>
    obtain ⟨before, c, after, split, -, unknown, -⟩ := fields_eq_error_iff.mp read
    rw [parse_of_unknown read]
    simp only [reduceCtorEq, exists_const, false_iff]
    intro known
    exact unknown (known.1 c (by simp [split]))
  | ok layout =>
    obtain ⟨known, count⟩ := letters_of_known read
    rw [parse_of_known read, and_iff_right known, count]
    split
    case isTrue twice => simpa using twice
    case isFalse once => exact iff_of_true ⟨layout, rfl⟩ (Nat.le_of_not_lt once)

/-- An unknown letter is told before raw data that occurs twice, and of several the first. -/
theorem parse_eq_unknownField_iff {c : Char} :
    parse descriptor = .error (.unknownField c) ↔ ∃ before after,
      descriptor.toList = before ++ c :: after ∧ (∀ known ∈ before, known ∈ letters) ∧
        c ∉ letters := by
  have same : parse descriptor = .error (.unknownField c) ↔
      fields descriptor.toList = .error (.unknownField c) := by
    cases read : fields descriptor.toList with
    | error e => rw [parse_of_unknown read]
    | ok layout =>
      rw [parse_of_known read]
      split <;> simp
  rw [same, fields_eq_error_iff]
  constructor
  · rintro ⟨before, c', after, split, known, unknown, eq⟩
    cases eq
    exact ⟨before, after, split, known, unknown⟩
  · rintro ⟨before, after, split, known, unknown⟩
    exact ⟨before, c, after, split, known, unknown, rfl⟩

theorem parse_eq_duplicateData_iff :
    parse descriptor = .error .duplicateData ↔
      (∀ c ∈ descriptor.toList, c ∈ letters) ∧ 1 < descriptor.toList.count 'D' := by
  cases read : fields descriptor.toList with
  | error e =>
    obtain ⟨before, c, after, split, -, unknown, rfl⟩ := fields_eq_error_iff.mp read
    rw [parse_of_unknown read]
    simp only [Except.error.injEq, reduceCtorEq, false_iff]
    intro known
    exact unknown (known.1 c (by simp [split]))
  | ok layout =>
    obtain ⟨known, count⟩ := letters_of_known read
    rw [parse_of_known read, and_iff_right known, count]
    split
    case isTrue twice => exact iff_of_true rfl twice
    case isFalse once => simpa using once

end Layout

end SerialLink
