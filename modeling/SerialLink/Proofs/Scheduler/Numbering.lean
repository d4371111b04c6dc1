import Mathlib.Data.List.Nodup
import SerialLink.Proofs.Scheduler.Slots

/-!
Sequence numbers of queued items. A free number is looked for in a circle behind the last one
given. Among more numbers than there are items one is free (`le_size_of_usesSeq`), so the search
ends within its tries, at the first free number behind the last (`freeSeq_eq`).
-/

namespace SerialLink.SendQueue

variable {q : SendQueue}

theorem usesSeq_iff {seq : UInt8} :
    q.usesSeq seq = true ↔ ∃ item ∈ q.items, item.command.seq = seq := by
  unfold usesSeq
  rw [List.any_eq_true]
  simp only [decide_eq_true_eq]

/-- The number `step` places behind `seq`, in a circle. -/
def seqBehind (seq : UInt8) (step : Nat) : UInt8 := seq + UInt8.ofNat step

theorem toNat_seqBehind (seq : UInt8) (step : Nat) :
    (seqBehind seq step).toNat = (seq.toNat + step) % 256 := by
  simp only [seqBehind, UInt8.toNat_add, UInt8.toNat_ofNat']
  omega

theorem seqBehind_one (seq : UInt8) : seqBehind seq 1 = seq + 1 := rfl

theorem seqBehind_succ (seq : UInt8) (step : Nat) :
    seqBehind seq (step + 1) = seqBehind (seq + 1) step := by
  unfold seqBehind
  rw [UInt8.ofNat_add, UInt8.add_comm (UInt8.ofNat step), ← UInt8.add_assoc]
  rfl

theorem seqBehind_seqBehind (seq : UInt8) (i j : Nat) :
    seqBehind (seqBehind seq i) j = seqBehind seq (i + j) := by
  unfold seqBehind
  rw [UInt8.ofNat_add, UInt8.add_assoc]

/-- A full circle behind a number is the number itself. -/
theorem seqBehind_circle (seq : UInt8) : seqBehind seq 256 = seq := UInt8.add_zero seq

/-- Numbers less than a full circle apart differ. -/
theorem seqBehind_inj {seq : UInt8} {i j : Nat} (hi : i ≤ 256) (hj : j ≤ 256) (posi : 0 < i)
    (posj : 0 < j) (same : seqBehind seq i = seqBehind seq j) : i = j := by
  have values := congrArg UInt8.toNat same
  rw [toNat_seqBehind, toNat_seqBehind] at values
  omega

theorem seqBehind_ne_self {seq : UInt8} {place : Nat} (pos : 0 < place) (inside : place < 256) :
    seqBehind seq place ≠ seq := by
  intro same
  have around : seqBehind seq place = seqBehind seq 256 := by rw [same, seqBehind_circle]
  have := seqBehind_inj (by omega) (Nat.le_refl 256) pos (by omega) around
  omega

/-- So many numbers in a row behind `seq`. -/
def seqsBehind (seq : UInt8) (count : Nat) : List UInt8 :=
  (List.range count).map fun step => seqBehind seq (step + 1)

theorem length_seqsBehind (seq : UInt8) (count : Nat) : (seqsBehind seq count).length = count := by
  rw [seqsBehind, List.length_map, List.length_range]

theorem nodup_seqsBehind {seq : UInt8} {count : Nat} (few : count ≤ 256) :
    (seqsBehind seq count).Nodup := by
  refine List.Nodup.map_on (fun i hi j hj same => ?_) List.nodup_range
  have hi := List.mem_range.mp hi
  have hj := List.mem_range.mp hj
  have := seqBehind_inj (by omega) (by omega) (by omega) (by omega) same
  omega

/-- If so many numbers in a row are listed, the list is as long. -/
theorem le_length_of_seqsBehind {seq : UInt8} {count : Nat} {numbers : List UInt8}
    (few : count ≤ 256) (listed : ∀ step < count, seqBehind seq (step + 1) ∈ numbers) :
    count ≤ numbers.length := by
  have subset : seqsBehind seq count ⊆ numbers := by
    intro number mem
    obtain ⟨step, inside, rfl⟩ := List.mem_map.mp mem
    exact listed step (List.mem_range.mp inside)
  have shorter := (nodup_seqsBehind few).length_le_of_subset subset
  rwa [length_seqsBehind] at shorter

/-- The numbers that are taken, by slot. -/
def seqs (q : SendQueue) : List UInt8 := q.items.map fun item => item.command.seq

theorem usesSeq_iff_mem {seq : UInt8} : q.usesSeq seq = true ↔ seq ∈ q.seqs :=
  usesSeq_iff.trans List.mem_map.symm

theorem mem_seqs {seq : UInt8} :
    seq ∈ q.seqs ↔ ∃ slot item, q.get? slot = some item ∧ item.command.seq = seq := by
  constructor
  · intro mem
    obtain ⟨item, listed, number⟩ := List.mem_map.mp mem
    obtain ⟨slot, held⟩ := mem_items.mp listed
    exact ⟨slot, item, held, number⟩
  · rintro ⟨slot, item, held, rfl⟩
    exact List.mem_map_of_mem (mem_items.mpr ⟨slot, held⟩)

theorem usesSeq_iff_get? {seq : UInt8} :
    q.usesSeq seq = true ↔ ∃ slot item, q.get? slot = some item ∧ item.command.seq = seq :=
  usesSeq_iff_mem.trans mem_seqs

/-- No item has a free number. -/
theorem ne_of_usesSeq {seq : UInt8} (unused : q.usesSeq seq = false) {slot : Nat}
    {item : QueueItem} (held : q.get? slot = some item) : item.command.seq ≠ seq := by
  intro same
  exact Bool.eq_false_iff.mp unused (usesSeq_iff_get?.mpr ⟨slot, item, held, same⟩)

theorem length_seqs (q : SendQueue) : q.seqs.length = q.size := List.length_map ..

/-- If so many numbers in a row are taken, there are as many items. -/
theorem le_size_of_usesSeq {seq : UInt8} {tries : Nat} (few : tries ≤ 256)
    (taken : ∀ step < tries, q.usesSeq (seqBehind seq (step + 1)) = true) : tries ≤ q.size := by
  rw [← length_seqs]
  exact le_length_of_seqsBehind few fun step inside => usesSeq_iff_mem.mp (taken step inside)

/-- The search stops at the first free number, if there is one among its tries. -/
theorem seqAfter_eq {seq : UInt8} {tries : Nat}
    (free : ∃ step < tries, q.usesSeq (seqBehind seq (step + 1)) = false) :
    ∃ step < tries, q.seqAfter seq tries = seqBehind seq (step + 1) ∧
      q.usesSeq (seqBehind seq (step + 1)) = false ∧
      ∀ earlier < step, q.usesSeq (seqBehind seq (earlier + 1)) = true := by
  induction tries generalizing seq with
  | zero =>
    obtain ⟨step, inside, -⟩ := free
    exact absurd inside (Nat.not_lt_zero step)
  | succ tries ih =>
    have next : seqBehind seq (0 + 1) = seq + 1 := seqBehind_one seq
    by_cases used : q.usesSeq (seq + 1) = true
    · have later : ∃ step < tries, q.usesSeq (seqBehind (seq + 1) (step + 1)) = false := by
        obtain ⟨step, inside, unused⟩ := free
        cases step with
        | zero =>
          rw [next, used] at unused
          cases unused
        | succ step => exact ⟨step, by omega, by rwa [seqBehind_succ] at unused⟩
      obtain ⟨step, inside, eq, unused, before⟩ := ih later
      refine ⟨step + 1, by omega, ?_, by rwa [seqBehind_succ], fun earlier less => ?_⟩
      · rw [seqAfter, if_pos used, eq, seqBehind_succ seq]
      · cases earlier with
        | zero => rw [next, used]
        | succ earlier =>
          rw [seqBehind_succ]
          exact before earlier (by omega)
    · refine ⟨0, by omega, ?_, ?_, fun earlier less => absurd less (Nat.not_lt_zero earlier)⟩
      · rw [seqAfter, if_neg used, next]
      · rw [next]
        exact Bool.eq_false_iff.mpr used

/-- The number given is the first free one behind the last, and no further behind than there are
items. -/
theorem freeSeq_eq (q : SendQueue) (seq : UInt8) :
    ∃ step ≤ q.size, q.freeSeq seq = seqBehind seq (step + 1) ∧
      q.usesSeq (seqBehind seq (step + 1)) = false ∧
      ∀ earlier < step, q.usesSeq (seqBehind seq (earlier + 1)) = true := by
  have most := q.size_le
  have free : ∃ step < q.size + 1, q.usesSeq (seqBehind seq (step + 1)) = false := by
    by_contra none
    have taken : ∀ step < q.size + 1, q.usesSeq (seqBehind seq (step + 1)) = true := by
      intro step inside
      by_contra unused
      exact none ⟨step, inside, Bool.eq_false_iff.mpr unused⟩
    have := le_size_of_usesSeq (by simp only [capacity] at most; omega) taken
    omega
  obtain ⟨step, inside, found⟩ := seqAfter_eq free
  exact ⟨step, Nat.le_of_lt_succ inside, found⟩

theorem usesSeq_freeSeq (q : SendQueue) (seq : UInt8) : q.usesSeq (q.freeSeq seq) = false := by
  obtain ⟨step, -, eq, unused, -⟩ := q.freeSeq_eq seq
  rw [eq]
  exact unused

end SerialLink.SendQueue
