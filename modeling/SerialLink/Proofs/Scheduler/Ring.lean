import Mathlib.Data.List.Basic
import SerialLink.Scheduler.PendingRing

/-!
The ring of bulk requests is a list that grows at its end (`WellFormed.push?`) and shrinks at its
front (`WellFormed.pop`), and draining it gives all of it (`WellFormed.drain`). This needs that the
places from the head on are taken, as many as the length tells.
-/

namespace SerialLink.PendingRing

variable {r r' : PendingRing}

/-- The id in the place that lies so many places behind the head, in a circle. -/
def behind? (r : PendingRing) (step : Nat) : Option RequestId :=
  r.ids[(r.head + step) % capacity]?.join

/-- The places that count as taken are taken. -/
structure WellFormed (r : PendingRing) : Prop where
  head : r.head < capacity
  length : r.length ≤ capacity
  taken : ∀ step < r.length, (r.behind? step).isSome = true

theorem wellFormed_empty : WellFormed {} :=
  ⟨Nat.zero_lt_succ _, Nat.zero_le _, fun _ inside => absurd inside (Nat.not_lt_zero _)⟩

theorem toList_of_length_eq_zero (empty : r.length = 0) : r.toList = [] := by
  unfold toList
  rw [empty]
  rfl

/-- The ids are those of the first place and of the rest. -/
theorem toList_of_length_eq_succ {length : Nat} (nonempty : r.length = length + 1) :
    r.toList = (r.behind? 0).toList ++
      (List.range length).filterMap fun step => r.behind? (step + 1) := by
  change (List.range r.length).filterMap r.behind? = _
  rw [nonempty, List.range_succ_eq_map]
  cases first : r.behind? 0 with
  | none =>
    rw [List.filterMap_cons_none first, List.filterMap_map]
    rfl
  | some id =>
    rw [List.filterMap_cons_some first, List.filterMap_map]
    rfl

/-! ### Adding -/

theorem push?_eq_some {id : RequestId} (pushed : r.push? id = some r') :
    r.length ≠ capacity ∧
      r' = { r with
        ids := r.ids.setIfInBounds ((r.head + r.length) % capacity) (some id)
        length := r.length + 1 } := by
  unfold push? at pushed
  split at pushed
  · cases pushed
  · rename_i room
    exact ⟨by simpa [isFull] using room, (Option.some.inj pushed).symm⟩

/-- Only the place behind the last one changes. -/
theorem behind?_push? {id : RequestId} (pushed : r.push? id = some r')
    (within : r.length ≤ capacity) {step : Nat} (inside : step < capacity) :
    r'.behind? step = if step = r.length then some id else r.behind? step := by
  obtain ⟨room, rfl⟩ := push?_eq_some pushed
  unfold behind?
  dsimp only
  rw [Vector.getElem?_setIfInBounds]
  by_cases last : step = r.length
  · rw [if_pos (by rw [last]), if_pos (Nat.mod_lt _ (by decide)), if_pos last]
    rfl
  · have apart : (r.head + r.length) % capacity ≠ (r.head + step) % capacity := by
      simp only [capacity] at within room inside ⊢
      omega
    rw [if_neg apart, if_neg last]

/-- An id is added behind the others. -/
theorem WellFormed.push? (wf : r.WellFormed) {id : RequestId} (pushed : r.push? id = some r') :
    r'.WellFormed ∧ r'.toList = r.toList ++ [id] := by
  obtain ⟨room, made⟩ := push?_eq_some pushed
  have grown : r'.length = r.length + 1 := by rw [made]
  have within := wf.length
  have places {step : Nat} (inside : step ≤ r.length) :=
    behind?_push? pushed within (show step < capacity by omega)
  refine ⟨⟨?_, ?_, ?_⟩, ?_⟩
  · rw [made]
    exact wf.head
  · omega
  · intro step inside
    rw [places (by omega)]
    split
    · rfl
    · exact wf.taken step (by omega)
  · change (List.range r'.length).filterMap r'.behind? = _
    rw [grown, List.range_succ, List.filterMap_append]
    congr 1
    · refine List.filterMap_congr fun step listed => ?_
      have inside := List.mem_range.mp listed
      rw [places (Nat.le_of_lt inside), if_neg (Nat.ne_of_lt inside)]
      rfl
    · have last := places (Nat.le_refl r.length)
      rw [if_pos rfl] at last
      exact List.filterMap_cons_some last

/-! ### Taking -/

theorem pop_of_empty (empty : r.length = 0) : r.pop = (none, r) := by
  unfold pop isEmpty
  rw [if_pos (decide_eq_true empty)]

theorem length_pop (nonempty : r.isEmpty = false) : r.pop.2.length + 1 = r.length := by
  have some : r.length ≠ 0 := of_decide_eq_false nonempty
  unfold pop
  rw [nonempty]
  exact Nat.succ_pred some

/-- The id in the first place is taken, and the head moves on. -/
theorem WellFormed.pop_of_nonempty (wf : r.WellFormed) (nonempty : r.length ≠ 0) :
    r.pop = (r.behind? 0,
      { ids := r.ids.setIfInBounds r.head none
        head := (r.head + 1) % capacity
        length := r.length - 1 }) := by
  have taken : r.isEmpty ≠ true := fun empty => nonempty (of_decide_eq_true empty)
  have place : (r.head + 0) % capacity = r.head := Nat.mod_eq_of_lt wf.head
  unfold PendingRing.pop behind?
  rw [if_neg taken, place]

/-- The places behind the head keep their ids, and lie one place less behind it. -/
theorem WellFormed.behind?_pop (wf : r.WellFormed) (nonempty : r.length ≠ 0) {step : Nat}
    (inside : step + 1 < capacity) : r.pop.2.behind? step = r.behind? (step + 1) := by
  have head := wf.head
  rw [wf.pop_of_nonempty nonempty]
  unfold behind?
  dsimp only
  have apart : r.head ≠ ((r.head + 1) % capacity + step) % capacity := by
    simp only [capacity] at head inside ⊢
    omega
  have same : ((r.head + 1) % capacity + step) % capacity = (r.head + (step + 1)) % capacity := by
    simp only [capacity]
    omega
  rw [Vector.getElem?_setIfInBounds, if_neg apart, same]

/-- The oldest id is taken, unless there is none. -/
theorem WellFormed.pop (wf : r.WellFormed) :
    r.pop.2.WellFormed ∧ r.toList = r.pop.1.toList ++ r.pop.2.toList := by
  cases count : r.length with
  | zero =>
    rw [pop_of_empty count]
    exact ⟨wf, rfl⟩
  | succ rest =>
    have popped := wf.pop_of_nonempty (by omega)
    have left : r.pop.2.length = rest := by rw [popped, count]; rfl
    have length := wf.length
    have places {step : Nat} (inside : step < rest) :=
      wf.behind?_pop (by omega) (show step + 1 < capacity by omega)
    refine ⟨⟨?_, ?_, ?_⟩, ?_⟩
    · rw [popped]
      exact Nat.mod_lt _ (by decide)
    · omega
    · intro step inside
      rw [left] at inside
      rw [places inside]
      exact wf.taken _ (by omega)
    · have first : r.pop.1 = r.behind? 0 := by rw [popped]
      rw [toList_of_length_eq_succ count, first]
      congr 1
      change _ = (List.range r.pop.2.length).filterMap r.pop.2.behind?
      rw [left]
      refine List.filterMap_congr fun step listed => ?_
      exact (places (List.mem_range.mp listed)).symm

/-- Nothing can be taken from an empty ring only. -/
theorem WellFormed.length_of_pop_eq_none (wf : r.WellFormed) (nothing : r.pop = (none, r')) :
    r.length = 0 ∧ r' = r := by
  by_cases empty : r.length = 0
  · rw [pop_of_empty empty] at nothing
    cases nothing
    exact ⟨empty, rfl⟩
  · have first := wf.taken 0 (Nat.pos_of_ne_zero empty)
    rw [wf.pop_of_nonempty empty] at nothing
    rw [(Prod.mk.inj nothing).1] at first
    cases first

/-! ### Draining -/

theorem drain_of_pop_none (nothing : r.pop = (none, r')) : r.drain = ([], r') := by
  rw [PendingRing.drain]
  split <;> simp_all

theorem drain_of_pop_some {id : RequestId} (taken : r.pop = (some id, r')) :
    r.drain = (id :: r'.drain.1, r'.drain.2) := by
  rw [PendingRing.drain]
  split <;> simp_all

/-- Draining gives all ids, oldest first, and leaves none. -/
theorem WellFormed.drain (wf : r.WellFormed) :
    r.drain.1 = r.toList ∧ r.drain.2.WellFormed ∧ r.drain.2.toList = [] := by
  induction r using PendingRing.drain.induct with
  | case1 r r' taken =>
    obtain ⟨empty, rfl⟩ := wf.length_of_pop_eq_none taken
    rw [drain_of_pop_none taken]
    have all := toList_of_length_eq_zero empty
    exact ⟨all.symm, wf, all⟩
  | case2 r id r' taken ids ring later ih =>
    have popped := wf.pop
    rw [taken] at popped
    obtain ⟨rest, all⟩ := popped
    obtain ⟨ids, drained, none⟩ := ih rest
    rw [drain_of_pop_some taken, all, ids]
    exact ⟨rfl, drained, none⟩

end SerialLink.PendingRing
