import Mathlib.Data.List.Basic
import SerialLink.Proofs.Calling
import SerialLink.Proofs.Scheduler.Ring

/-!
The ring of bulk requests answers like a list of bounded length. Beyond the places that count as
taken every place is free, and adding, taking and draining keep it so (`Packed`). So ring and list
answer each call alike and stay alike (`call_alike`), over any calls and however often the ring has
turned (`answers_like_fifo`).
-/

namespace SerialLink.PendingRing

variable {r r' : PendingRing}

/-- The places that count as taken are taken, and no others are. -/
structure Packed (r : PendingRing) : Prop extends WellFormed r where
  free : ∀ step < capacity, r.length ≤ step → r.behind? step = none

theorem packed_empty : Packed {} where
  toWellFormed := wellFormed_empty
  free step _ _ := by
    unfold behind?
    rw [Vector.getElem?_replicate]
    split <;> rfl

theorem Packed.push? (packed : r.Packed) {id : RequestId} (pushed : r.push? id = some r') :
    r'.Packed where
  toWellFormed := (packed.toWellFormed.push? pushed).1
  free step inside beyond := by
    have grown : r'.length = r.length + 1 := by rw [(push?_eq_some pushed).2]
    rw [behind?_push? pushed packed.length inside, if_neg (by omega)]
    exact packed.free step inside (by omega)

theorem Packed.pop (packed : r.Packed) : r.pop.2.Packed := by
  by_cases empty : r.length = 0
  · rw [pop_of_empty empty]
    exact packed
  · refine { toWellFormed := packed.toWellFormed.pop.1, free := fun step inside beyond => ?_ }
    have popped := packed.pop_of_nonempty empty
    have left : r.pop.2.length = r.length - 1 := by rw [popped]
    rcases Nat.lt_or_ge (step + 1) capacity with before | last
    · rw [packed.behind?_pop empty before]
      exact packed.free _ before (by omega)
    · -- The place furthest behind the new head is the one that was taken from.
      have head := packed.head
      have place : ((r.head + 1) % capacity + step) % capacity = r.head := by
        simp only [capacity] at head inside last ⊢
        omega
      rw [popped]
      unfold behind?
      dsimp only
      rw [place, Vector.getElem?_setIfInBounds_self_of_lt head]
      rfl

theorem Packed.drain (packed : r.Packed) : r.drain.2.Packed := by
  induction r using PendingRing.drain.induct with
  | case1 r r' taken =>
    rw [drain_of_pop_none taken, (packed.length_of_pop_eq_none taken).2]
    exact packed
  | case2 r id r' taken ids ring later ih =>
    have rest := packed.pop
    rw [taken] at rest
    rw [drain_of_pop_some taken]
    exact ih rest

/-! ### What the places hold -/

theorem WellFormed.length_toList (wf : r.WellFormed) : r.toList.length = r.length := by
  change ((List.range r.length).filterMap r.behind?).length = _
  rw [List.length_filterMap_eq_countP, List.countP_eq_length.mpr, List.length_range]
  exact fun step listed => wf.taken step (List.mem_range.mp listed)

theorem Packed.isSome_iff (packed : r.Packed) (place : Nat) :
    r.ids[place]?.join.isSome = true ↔
      ∃ step < r.length, place = (r.head + step) % capacity := by
  constructor
  · intro taken
    have inside : place < capacity := by
      by_contra outside
      rw [Vector.getElem?_eq_none (Nat.le_of_not_lt outside)] at taken
      cases taken
    have head := packed.head
    refine ⟨(place + capacity - r.head) % capacity, ?_, ?_⟩
    · by_contra beyond
      have free := packed.free _ (Nat.mod_lt _ (by decide)) (Nat.le_of_not_lt beyond)
      have here : (r.head + (place + capacity - r.head) % capacity) % capacity = place := by
        simp only [capacity] at head inside ⊢
        omega
      rw [behind?, here] at free
      rw [free] at taken
      cases taken
    · simp only [capacity] at head inside ⊢
      omega
  · rintro ⟨step, within, rfl⟩
    exact packed.taken step within

theorem WellFormed.pop_eq_none_iff (wf : r.WellFormed) : r.pop.1 = none ↔ r.length = 0 := by
  constructor
  · intro nothing
    have taken : r.pop = (none, r.pop.2) := Prod.ext nothing rfl
    exact (wf.length_of_pop_eq_none taken).1
  · intro empty
    rw [pop_of_empty empty]

/-- What is taken is the head of the list, and what stays is its tail. -/
theorem WellFormed.head?_toList (wf : r.WellFormed) :
    r.toList.head? = r.pop.1 ∧ r.toList.tail = r.pop.2.toList := by
  cases first : r.pop.1 with
  | none =>
    have empty := wf.pop_eq_none_iff.mp first
    rw [pop_of_empty empty, toList_of_length_eq_zero empty]
    exact ⟨rfl, rfl⟩
  | some id =>
    have all := wf.pop.2
    rw [first] at all
    rw [all]
    exact ⟨rfl, rfl⟩

/-! ### Calls -/

inductive Call where
  | push (id : RequestId)
  | pop
  | drain
  deriving DecidableEq, Repr

inductive Answer where
  | pushed
  /-- There is no room, and the id is given back. -/
  | refused (id : RequestId)
  /-- The oldest id, if there is one. -/
  | popped (id : Option RequestId)
  | drained (ids : List RequestId)
  deriving DecidableEq, Repr

/-- A call to a ring. -/
def call (r : PendingRing) : Call → Answer × PendingRing
  | .push id =>
    match r.push? id with
    | some r' => (.pushed, r')
    | none => (.refused id, r)
  | .pop => (.popped r.pop.1, r.pop.2)
  | .drain => (.drained r.drain.1, r.drain.2)

/-- The same call to a list that grows at its end, up to the capacity, and shrinks at its front. -/
def fifo (ids : List RequestId) : Call → Answer × List RequestId
  | .push id => if ids.length < capacity then (.pushed, ids ++ [id]) else (.refused id, ids)
  | .pop => (.popped ids.head?, ids.tail)
  | .drain => (.drained ids, [])

/-- There is no room just if every place is taken. -/
theorem push?_eq_none_iff {id : RequestId} : r.push? id = none ↔ r.length = capacity := by
  unfold PendingRing.push? isFull
  simp

/-- Ring and list answer alike, and stay alike. -/
theorem call_alike {ids : List RequestId} (k : Call) (packed : r.Packed) (same : r.toList = ids) :
    (r.call k).1 = (fifo ids k).1 ∧ (r.call k).2.Packed ∧
      (r.call k).2.toList = (fifo ids k).2 := by
  subst same
  have length := packed.length_toList
  cases k with
  | push id =>
    cases pushed : r.push? id with
    | none =>
      have full := push?_eq_none_iff.mp pushed
      have answer : r.call (.push id) = (.refused id, r) := by rw [call, pushed]
      rw [answer, fifo, if_neg (by omega)]
      exact ⟨rfl, packed, rfl⟩
    | some r' =>
      have room := (push?_eq_some pushed).1
      have within := packed.length
      have answer : r.call (.push id) = (.pushed, r') := by rw [call, pushed]
      rw [answer, fifo, if_pos (by omega)]
      exact ⟨rfl, packed.push? pushed, (packed.toWellFormed.push? pushed).2⟩
  | pop =>
    obtain ⟨first, rest⟩ := packed.head?_toList
    rw [fifo, first, rest]
    exact ⟨rfl, packed.pop, rfl⟩
  | drain =>
    obtain ⟨all, -, none⟩ := packed.toWellFormed.drain
    rw [fifo, call, all]
    exact ⟨rfl, packed.drain, none⟩

/-- **The ring is a queue of bounded length.** Over any calls it answers like a list that takes an
id at its end while it has fewer than its capacity, gives back one that it has no room for, gives
its first when asked for one, and all of them in order when drained. The head is a place of the
ring, and the places taken are exactly those from the head on, in a circle, as many as the list has
ids. So nothing can be taken from an empty ring only, and draining leaves nothing. -/
theorem answers_like_fifo (calls : List Call) :
    let r := (callAll call {} calls).2
    let ids := (callAll fifo [] calls).2
    (callAll call {} calls).1 = (callAll fifo [] calls).1 ∧
      r.toList = ids ∧ r.length = ids.length ∧ r.head < capacity ∧ r.length ≤ capacity ∧
      (∀ place : Nat, r.ids[place]?.join.isSome = true ↔
        ∃ step < r.length, place = (r.head + step) % capacity) ∧
      (r.pop.1 = none ↔ ids = []) ∧
      r.drain.1 = ids ∧ r.drain.2.length = 0 ∧
      ∀ place : Nat, r.drain.2.ids[place]?.join = none := by
  intro r ids
  obtain ⟨answers, packed, same⟩ : (callAll call {} calls).1 = (callAll fifo [] calls).1 ∧
      r.Packed ∧ r.toList = ids :=
    callAll_alike (R := fun r ids => Packed r ∧ r.toList = ids)
      (fun _ _ k related => call_alike k related.1 related.2) ⟨packed_empty, rfl⟩ calls
  have length : r.length = ids.length := by rw [← same, packed.length_toList]
  obtain ⟨drained, -, nothing⟩ := packed.toWellFormed.drain
  have after := packed.drain
  have empty : r.drain.2.length = 0 := by rw [← after.length_toList, nothing, List.length_nil]
  refine ⟨answers, same, length, packed.head, packed.length, packed.isSome_iff, ?_,
    drained.trans same, empty, fun place => ?_⟩
  · rw [packed.pop_eq_none_iff, length, List.length_eq_zero_iff]
  · rw [← Option.not_isSome_iff_eq_none, after.isSome_iff, empty]
    rintro ⟨step, within, -⟩
    exact Nat.not_lt_zero step within

end SerialLink.PendingRing
