import SerialLink.Proofs.Scheduler.Effects
import SerialLink.Transport.Simulated

/-!
The search for a free sequence number as a loop that nothing bounds (`CountsOn`): while every number
is taken it does not stop. It stops in one way at most (`CountsOn.unique`), at the first free number
(`countsOn_of_free`). Among one more numbers than there are items one is free, so it always stops,
and so few tries are enough for the number that an insertion takes (`countsOn_ends`).
-/

namespace SerialLink.SendQueue

variable {q : SendQueue}

/-- Counting on from this counter, in a circle, until no item has the number stops after so many
increments, at this number. -/
inductive CountsOn (q : SendQueue) : (counter : UInt8) → (increments : Nat) → (found : UInt8) → Prop
  | stop {counter : UInt8} (unused : q.usesSeq (counter + 1) = false) :
    CountsOn q counter 1 (counter + 1)
  | again {counter found : UInt8} {increments : Nat} (used : q.usesSeq (counter + 1) = true)
    (rest : CountsOn q (counter + 1) increments found) :
    CountsOn q counter (increments + 1) found

/-- From a counter, the loop stops in one way at most. -/
theorem CountsOn.unique {counter found found' : UInt8} {increments increments' : Nat}
    (ends : q.CountsOn counter increments found) (ends' : q.CountsOn counter increments' found') :
    increments' = increments ∧ found' = found := by
  induction ends generalizing increments' with
  | stop unused =>
    cases ends' with
    | stop => exact ⟨rfl, rfl⟩
    | again used => exact absurd used (Bool.eq_false_iff.mp unused)
  | again used rest ih =>
    cases ends' with
    | stop unused => exact absurd used (Bool.eq_false_iff.mp unused)
    | again _ rest' =>
      obtain ⟨rfl, rfl⟩ := ih rest'
      exact ⟨rfl, rfl⟩

/-- The loop stops at the first free number. -/
theorem countsOn_of_free {counter : UInt8} {step : Nat}
    (free : q.usesSeq (seqBehind counter (step + 1)) = false)
    (taken : ∀ earlier < step, q.usesSeq (seqBehind counter (earlier + 1)) = true) :
    q.CountsOn counter (step + 1) (seqBehind counter (step + 1)) := by
  induction step generalizing counter with
  | zero =>
    rw [seqBehind_one] at free ⊢
    exact .stop free
  | succ step ih =>
    have used := taken 0 (Nat.zero_lt_succ step)
    rw [seqBehind_one] at used
    rw [seqBehind_succ] at free ⊢
    apply CountsOn.again used
    apply ih free
    intro earlier before
    rw [← seqBehind_succ]
    exact taken (earlier + 1) (Nat.succ_lt_succ before)

/-- **The search for a sequence number ends.** Whatever a queue holds, and wherever the counter
stands, the loop stops, in one way only, when it has counted on once at least and at most once more
than there are items. It stops at the first number behind the counter, in a circle of 256, that no
slot holds. This is the number that `freeSeq` finds, and a command that is queued takes it and
leaves the counter there. -/
theorem countsOn_ends (q : SendQueue) (counter : UInt8) :
    ∃ (found : UInt8) (increments : Nat),
      (∀ n seq, q.CountsOn counter n seq ↔ n = increments ∧ seq = found) ∧
      q.freeSeq counter = found ∧ 0 < increments ∧ increments ≤ q.size + 1 ∧
      found.toNat = (counter.toNat + increments) % 256 ∧
      (∀ slot item, q.get? slot = some item → item.command.seq ≠ found) ∧
      (∀ earlier, 0 < earlier → earlier < increments → ∃ slot item, q.get? slot = some item ∧
        item.command.seq.toNat = (counter.toNat + earlier) % 256) ∧
      ∀ {τ : Type} {s s' : Scheduler τ} {command : Command} {origin : Origin}
        {handle : ItemHandle}, s.queue = q → s.lastSeq = counter →
        s.insert command origin = (.ok handle, s') → handle.seq = found ∧ s'.lastSeq = found := by
  obtain ⟨step, few, given, free, taken⟩ := q.freeSeq_eq counter
  have ends := countsOn_of_free free taken
  refine ⟨seqBehind counter (step + 1), step + 1, ?_, given, Nat.zero_lt_succ step,
    Nat.succ_le_succ few, toNat_seqBehind counter _, ?_, ?_, ?_⟩
  · intro n seq
    constructor
    · intro other
      exact ends.unique other
    · rintro ⟨rfl, rfl⟩
      exact ends
  · intro slot item held
    exact ne_of_usesSeq free held
  · intro earlier pos before
    obtain ⟨earlier, rfl⟩ := Nat.exists_eq_succ_of_ne_zero (Nat.ne_of_gt pos)
    have used := taken earlier (Nat.lt_of_succ_lt_succ before)
    obtain ⟨slot, item, held, number⟩ := usesSeq_iff_get?.mp used
    refine ⟨slot, item, held, ?_⟩
    rw [number, toNat_seqBehind]
  · rintro τ s s' command origin handle rfl rfl inserted
    obtain ⟨_, _, _, -, -, number, -, rfl⟩ := Scheduler.insert_eq_ok inserted
    rw [given] at number
    exact ⟨number, number⟩

/-- Four items with gaps between them. Their numbers go over the end of the circle, and two of them
have the same. -/
def scattered : SendQueue :=
  let item (seq : UInt8) : QueueItem := { command := { id := Command.version, seq } }
  (((({} : SendQueue).set 3 (item 0)).set 7 (item 255)).set 20 (item 1)).set 31 (item 1)

/-- Three numbers are passed over, and the next one is given. -/
theorem countsOn_ends_of_scattered :
    let s : Scheduler SimulatedTransport := { transport := {}, queue := scattered, lastSeq := 254 }
    let command : Command := { id := Command.version, values := [.u32 0] }
    scattered.size = 4 ∧ scattered.CountsOn 254 4 2 ∧
      (s.insert command .scheduler).1 = .ok ⟨0, 2⟩ ∧
      (s.insert command .scheduler).2.lastSeq = 2 := by
  intro s command
  have size : scattered.size = 4 := by decide +kernel
  have number : scattered.freeSeq 254 = 2 := by decide +kernel
  have inserted : (s.insert command .scheduler).1 = .ok ⟨0, 2⟩ := by decide +kernel
  obtain ⟨found, increments, ends, given, pos, few, place, -, -, insertion⟩ :=
    countsOn_ends scattered 254
  obtain rfl : found = 2 := given.symm.trans number
  have counted : 4 = increments := by
    simp only [UInt8.reduceToNat] at place
    omega
  exact ⟨size, (ends 4 2).mpr ⟨counted, rfl⟩, inserted,
    (insertion rfl rfl (Prod.ext inserted rfl)).2⟩

end SerialLink.SendQueue
