import SerialLink.Proofs.Scheduler.Calls
import SerialLink.Transport.Simulated

/-!
No two queued commands have the same sequence number (`Run.seqs_distinct`). A command is queued
under a number that no other has, an item keeps its number while it is queued, and nothing else
enters the queue. So a confirm is waited for by one item at most, and that one is found for it.
-/

namespace SerialLink

theorem QueueItem.seq_of_awaits {item : QueueItem} {id seq : UInt8}
    (awaits : item.awaits id seq = true) : item.command.seq = seq :=
  (of_decide_eq_true awaits).2.2

namespace SendQueue

/-- No two items have the same sequence number. -/
def SeqsDistinct (q : SendQueue) : Prop :=
  ∀ ⦃i j : Nat⦄ ⦃a b : QueueItem⦄, q.get? i = some a → q.get? j = some b →
    a.command.seq = b.command.seq → i = j

theorem seqsDistinct_empty : SeqsDistinct {} := by
  intro i j a b heldA
  rw [get?_empty] at heldA
  cases heldA

theorem SeqsDistinct.insert? {q q' : SendQueue} {item : QueueItem} {slot : Nat}
    (distinct : q.SeqsDistinct) (unused : q.usesSeq item.command.seq = false)
    (inserted : q.insert? item = some (slot, q')) : q'.SeqsDistinct := by
  intro i j a b heldA heldB same
  rcases get?_insert?_eq_some inserted heldA with ⟨rfl, rfl⟩ | ⟨-, oldA⟩
  · rcases get?_insert?_eq_some inserted heldB with ⟨rfl, -⟩ | ⟨-, oldB⟩
    · rfl
    · exact absurd same.symm (ne_of_usesSeq unused oldB)
  · rcases get?_insert?_eq_some inserted heldB with ⟨rfl, rfl⟩ | ⟨-, oldB⟩
    · exact absurd same (ne_of_usesSeq unused oldA)
    · exact distinct oldA oldB same

theorem SeqsDistinct.modify {q : SendQueue} (distinct : q.SeqsDistinct) (slot : Nat)
    {change : QueueItem → QueueItem} (kept : ∀ item, (change item).command = item.command) :
    (q.modify slot change).SeqsDistinct := by
  have before {other : Nat} {item : QueueItem}
      (held : (q.modify slot change).get? other = some item) :
      ∃ old : QueueItem, q.get? other = some old ∧ item.command = old.command := by
    obtain ⟨old, found, rfl⟩ := get?_modify_eq_some held
    refine ⟨old, found, ?_⟩
    split
    · exact kept old
    · rfl
  intro i j a b heldA heldB same
  obtain ⟨oldA, foundA, eqA⟩ := before heldA
  obtain ⟨oldB, foundB, eqB⟩ := before heldB
  rw [eqA, eqB] at same
  exact distinct foundA foundB same

theorem SeqsDistinct.remove {q : SendQueue} (distinct : q.SeqsDistinct) (slot : Nat) :
    (q.remove slot).2.SeqsDistinct := by
  intro i j a b heldA heldB same
  exact distinct (get?_remove_eq_some heldA).2 (get?_remove_eq_some heldB).2 same

/-- With distinct numbers, the slot found for a confirm is the one slot that waits for it. -/
theorem SeqsDistinct.findConfirm?_iff {q : SendQueue} (distinct : q.SeqsDistinct)
    {id seq : UInt8} {slot : Nat} :
    q.findConfirm? id seq = some slot ↔
      ∃ item, q.get? slot = some item ∧ item.awaits id seq = true := by
  constructor
  · exact awaits_of_findConfirm?
  · rintro ⟨item, held, awaits⟩
    obtain ⟨found, eq⟩ := Option.isSome_iff_exists.mp (findConfirm?_isSome held awaits)
    obtain ⟨other, held', awaits'⟩ := awaits_of_findConfirm? eq
    have same := (QueueItem.seq_of_awaits awaits).trans (QueueItem.seq_of_awaits awaits').symm
    rw [eq, distinct held held' same]

end SendQueue

namespace Scheduler

theorem QueueStep.seqsDistinct {q q' : SendQueue} {deed : Deed} (step : QueueStep q deed q')
    (distinct : q.SeqsDistinct) : q'.SeqsDistinct := by
  cases step with
  | keep => exact distinct
  | enter unused inserted => exact distinct.insert? unused inserted
  | send held => exact distinct.modify _ fun _ => rfl
  | retry held => exact distinct.modify _ fun _ => rfl
  | leave held => exact distinct.remove _
  | clear => exact SendQueue.seqsDistinct_empty

variable {τ : Type} [Transport τ]

theorem Steps.seqsDistinct {start s : Scheduler τ} {deeds : List Deed} (fresh : start.Fresh)
    (steps : Steps start deeds s) : s.queue.SeqsDistinct := by
  have first : start.queue.SeqsDistinct := by
    cases fresh with
    | mk => exact SendQueue.seqsDistinct_empty
  exact steps.keep (fun step distinct => step.queueStep.seqsDistinct distinct) first

/-- **Sequence numbers are distinct.** Whatever has been done to a scheduler, no two queued commands
have the same sequence number. So no confirm is waited for in two slots, and the slot found for a
confirm is the only one that waits for it. -/
theorem Run.seqs_distinct {start s : Scheduler τ} {trace : Trace τ} (fresh : start.Fresh)
    (run : Run start trace s) :
    s.queue.SeqsDistinct ∧
      ∀ id seq : UInt8,
        (∀ ⦃i j : Nat⦄ ⦃a b : QueueItem⦄, s.queue.get? i = some a → s.queue.get? j = some b →
          a.awaits id seq = true → b.awaits id seq = true → i = j) ∧
        ∀ slot, s.queue.findConfirm? id seq = some slot ↔
          ∃ item, s.queue.get? slot = some item ∧ item.awaits id seq = true := by
  have distinct : s.queue.SeqsDistinct := by
    refine run.keep (fun s => s.queue.SeqsDistinct) ?_ ?_
    · intro s s' deed step distinct
      exact step.queueStep.seqsDistinct distinct
    · cases fresh with
      | mk => exact SendQueue.seqsDistinct_empty
  refine ⟨distinct, fun id seq => ⟨?_, fun slot => distinct.findConfirm?_iff⟩⟩
  intro i j a b heldA heldB awaitsA awaitsB
  exact distinct heldA heldB
    ((QueueItem.seq_of_awaits awaitsA).trans (QueueItem.seq_of_awaits awaitsB).symm)

/-- Two commands with the same id wait for their confirms. -/
def twoInFlight : Trace SimulatedTransport × Scheduler SimulatedTransport :=
  performAll { transport := { autoConnect := true } }
    [.openSession, .handleEvent ⟨1, .connected⟩ 0,
      .enqueue { id := Command.version, values := [.u32 0] } (some ⟨1⟩),
      .enqueue { id := Command.version, values := [.u32 0] } (some ⟨2⟩), .tick 5]

theorem Run.seqs_distinct_of_twoInFlight :
    Fresh ({ transport := { autoConnect := true } } : Scheduler SimulatedTransport) ∧
      Run { transport := { autoConnect := true } } twoInFlight.1 twoInFlight.2 ∧
      twoInFlight.2.inFlight = 2 ∧ twoInFlight.2.queue.SeqsDistinct ∧
      twoInFlight.2.queue.findConfirm? Command.version 2 = some 1 := by
  have fresh : Fresh ({ transport := { autoConnect := true } } : Scheduler SimulatedTransport) :=
    .mk _ _ _ _ _
  have run : Run { transport := { autoConnect := true } } twoInFlight.1 twoInFlight.2 :=
    run_performAll _ _
  obtain ⟨distinct, found⟩ := seqs_distinct fresh run
  refine ⟨fresh, run, by rfl, distinct, ((found Command.version 2).2 1).mpr ⟨_, by rfl, by rfl⟩⟩

end Scheduler

end SerialLink
