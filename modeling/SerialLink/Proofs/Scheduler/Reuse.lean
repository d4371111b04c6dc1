import SerialLink.Proofs.Scheduler.Order
import SerialLink.Proofs.Scheduler.Sequence

/-!
How soon a sequence number is given again. Numbers are given in a circle of 256, and only those that
queued items carry are left out. From the moment an item is queued until its number is reached
again, each number is given to an item queued since or is left out for one that was queued then
(`Revolution`): one that is left out cannot belong to an item queued since, whose number lies behind
the search. As 32 items are queued at most, so many numbers are left out, the item's own included,
and at least 224 are given (`Revolution.most_given`). Before that, no other item has the number
(`Run.seq_reuse_distance`).
-/

namespace SerialLink.Scheduler

/-! ### Items and their slots -/

/-- The item in the slot leaves it. -/
def Deed.frees (slot : Nat) : Deed → Bool
  | .ended other _ _ _ _ => other = slot
  | .killed _ _ _ => true
  | _ => false

/-- What is held after a step was queued by it, or is work that was held before and did not leave its
slot. -/
theorem QueueStep.queued_or_held {q q' : SendQueue} {deed : Deed} (step : QueueStep q deed q')
    {slot : Nat} {item : QueueItem} (held : q'.get? slot = some item) :
    deed = .queued slot item ∨
      deed.frees slot = false ∧
        ∃ before : QueueItem, q.get? slot = some before ∧ item.work = before.work := by
  rcases step.held held with
    ⟨before, apart⟩ | ⟨rfl, -⟩ | ⟨old, frame, now, rfl, before, rfl⟩ | ⟨old, now, rfl, before, rfl⟩
  · refine .inr ⟨?_, item, before, rfl⟩
    cases deed with
    | ended other => exact decide_eq_false fun same => apart (congrArg some same)
    | killed =>
      -- Nothing is held once everything has been failed.
      cases step with
      | keep _ away => cases away
      | clear =>
        rw [SendQueue.get?_empty] at held
        cases held
    | _ => rfl
  · exact .inl rfl
  · exact .inr ⟨rfl, old, before, rfl⟩
  · exact .inr ⟨rfl, old, before, rfl⟩

variable {τ : Type} {s s' : Scheduler τ}

/-! ### Once around -/

/-- By these deeds the numbering has come so far behind the number that was the last in an earlier
state, and not around yet. The numbers passed are those of the items queued since, and numbers of
items of that state. An item that is held was held then and has not left its slot, or has one of
the numbers passed. -/
structure Revolution (old : Scheduler τ) (deeds : List Deed) (s : Scheduler τ) (ahead : Nat) :
    Prop where
  within : ahead < 256
  last : s.lastSeq = SendQueue.seqBehind old.lastSeq ahead
  passed : ∀ place, 0 < place → place ≤ ahead →
    SendQueue.seqBehind old.lastSeq place ∈
      (deeds.flatMap Deed.entering).map (fun item => item.command.seq) ++ old.queue.seqs
  held : ∀ ⦃slot : Nat⦄ ⦃item : QueueItem⦄, s.queue.get? slot = some item →
    (∃ before : QueueItem, old.queue.get? slot = some before ∧ item.command = before.command ∧
        ∀ deed ∈ deeds, deed.frees slot = false) ∨
      ∃ place, 0 < place ∧ place ≤ ahead ∧
        item.command.seq = SendQueue.seqBehind old.lastSeq place

namespace Revolution

variable {old : Scheduler τ} {deeds : List Deed} {ahead : Nat}

theorem start (old : Scheduler τ) : Revolution old [] old 0 where
  within := by decide
  last := (UInt8.add_zero old.lastSeq).symm
  passed := by
    intro place pos none
    omega
  held := fun _ item held => .inl ⟨item, held, rfl, fun _ mem => absurd mem List.not_mem_nil⟩

/-- An item that does not leave its slot is as it was, up to its state. -/
theorem held_of_stays (revolution : Revolution old deeds s ahead) {deed : Deed} {slot : Nat}
    {item before : QueueItem} (stays : deed.frees slot = false)
    (held : s.queue.get? slot = some before) (same : item.command = before.command) :
    (∃ first : QueueItem, old.queue.get? slot = some first ∧ item.command = first.command ∧
        ∀ done ∈ deeds ++ [deed], done.frees slot = false) ∨
      ∃ place, 0 < place ∧ place ≤ ahead ∧
        item.command.seq = SendQueue.seqBehind old.lastSeq place := by
  rcases revolution.held held with ⟨first, heldFirst, same', kept⟩ | passed
  · refine .inl ⟨first, heldFirst, same.trans same', ?_⟩
    exact List.forall_mem_append.mpr ⟨kept, List.forall_mem_singleton.mpr stays⟩
  · rw [← same] at passed
    exact .inr passed

/-- A number ahead that is taken was taken then. -/
theorem mem_seqs_of_ahead (revolution : Revolution old deeds s ahead) {place : Nat}
    (behind : ahead < place) (inside : place < 256)
    (taken : SendQueue.seqBehind old.lastSeq place ∈ s.queue.seqs) :
    SendQueue.seqBehind old.lastSeq place ∈ old.queue.seqs := by
  obtain ⟨slot, item, held, number⟩ := SendQueue.mem_seqs.mp taken
  rcases revolution.held held with ⟨before, held', same, -⟩ | ⟨place', pos, reached, number'⟩
  · rw [same] at number
    exact SendQueue.mem_seqs.mpr ⟨slot, before, held', number⟩
  · have := SendQueue.seqBehind_inj (by omega) (by omega) pos (by omega)
      (number'.symm.trans number)
    omega

/-- The number given next lies behind the last, and those between were taken then. -/
theorem next (revolution : Revolution old deeds s ahead) :
    ∃ further, ahead < further ∧
      s.queue.freeSeq s.lastSeq = SendQueue.seqBehind old.lastSeq further ∧
      ∀ place, ahead < place → place < further → place < 256 →
        SendQueue.seqBehind old.lastSeq place ∈ old.queue.seqs := by
  obtain ⟨step, -, given, -, taken⟩ := s.queue.freeSeq_eq s.lastSeq
  rw [revolution.last, SendQueue.seqBehind_seqBehind] at given
  refine ⟨ahead + (step + 1), by omega, by rw [revolution.last]; exact given, ?_⟩
  intro place behind before inside
  obtain ⟨earlier, rfl⟩ : ∃ earlier, place = ahead + (earlier + 1) := ⟨place - ahead - 1, by omega⟩
  have used := taken earlier (by omega)
  rw [revolution.last, SendQueue.seqBehind_seqBehind] at used
  exact revolution.mem_seqs_of_ahead behind inside (SendQueue.usesSeq_iff_mem.mp used)

/-- If the numbering comes around next, at least 224 commands have been queued since. -/
theorem most_given (revolution : Revolution old deeds s ahead)
    (own : old.lastSeq ∈ old.queue.seqs)
    (around : ∀ place, ahead < place → place < 256 →
      SendQueue.seqBehind old.lastSeq place ∈ old.queue.seqs) : 224 ≤ insertions deeds := by
  -- Each of the 256 numbers has been given since or was taken then.
  have all : ∀ step < 256, SendQueue.seqBehind old.lastSeq (step + 1) ∈
      (deeds.flatMap Deed.entering).map (fun item => item.command.seq) ++ old.queue.seqs := by
    intro step inside
    rcases Nat.lt_or_ge ahead (step + 1) with behind | reached
    · refine List.mem_append_right _ ?_
      rcases Nat.lt_or_ge (step + 1) 256 with before | last
      · exact around (step + 1) behind before
      · rw [show step + 1 = 256 by omega, SendQueue.seqBehind_circle]
        exact own
    · exact revolution.passed (step + 1) (Nat.succ_pos step) reached
  have count := SendQueue.le_length_of_seqsBehind (Nat.le_refl 256) all
  rw [List.length_append, List.length_map, SendQueue.length_seqs] at count
  have most := old.queue.size_le
  unfold insertions
  simp only [SendQueue.capacity] at most
  omega

/-- As long as fewer than 224 commands have been queued since, the next number is a new one. -/
theorem next_within (revolution : Revolution old deeds s ahead)
    (own : old.lastSeq ∈ old.queue.seqs) (few : insertions deeds < 224) :
    ∃ further, ahead < further ∧ further < 256 ∧
      s.queue.freeSeq s.lastSeq = SendQueue.seqBehind old.lastSeq further ∧
      ∀ place, ahead < place → place < further →
        SendQueue.seqBehind old.lastSeq place ∈ old.queue.seqs := by
  obtain ⟨further, behind, given, between⟩ := revolution.next
  have inside : further < 256 := by
    by_contra around
    have := revolution.most_given own fun place behind inside =>
      between place behind (by omega) inside
    omega
  exact ⟨further, behind, inside, given, fun place behind before =>
    between place behind before (by omega)⟩

/-- Once an item has left its slot, no other has its number before the numbering comes around. -/
theorem not_mem_seqs_of_freed (revolution : Revolution old deeds s ahead) {slot : Nat}
    {item : QueueItem} (distinct : old.queue.SeqsDistinct) (held : old.queue.get? slot = some item)
    (last : old.lastSeq = item.command.seq) (freed : ∃ deed ∈ deeds, deed.frees slot = true) :
    item.command.seq ∉ s.queue.seqs := by
  intro mem
  obtain ⟨slot', other, held', number⟩ := SendQueue.mem_seqs.mp mem
  rcases revolution.held held' with ⟨before, heldBefore, same, kept⟩ | ⟨place, pos, reached, eq⟩
  · rw [same] at number
    cases distinct heldBefore held number
    obtain ⟨deed, mem, frees⟩ := freed
    exact Bool.false_ne_true ((kept deed mem).symm.trans frees)
  · have inside := Nat.lt_of_le_of_lt reached revolution.within
    exact SendQueue.seqBehind_ne_self pos inside (eq.symm.trans (number.trans last.symm))

end Revolution

/-! ### Steps -/

variable [Transport τ]

/-- The number of an item that is queued is the first free one behind the last, and is the last from
then on. -/
theorem Step.seq_of_queued {slot : Nat} {item : QueueItem} (step : Step s (.queued slot item) s') :
    item.command.seq = s.queue.freeSeq s.lastSeq ∧ s'.lastSeq = item.command.seq := by
  cases step with
  | queueCaller _ inserted | queueOwn _ _ _ _ inserted =>
    obtain ⟨_, _, _, -, -, number, -, -⟩ := insert_eq_ok inserted
    exact ⟨number, rfl⟩
  | queueRequest _ _ _ _ inserted =>
    obtain ⟨_, _, _, -, -, number, -, -⟩ := insert_eq_ok inserted
    exact ⟨number, rfl⟩

theorem Step.lastSeq_eq {deed : Deed} (step : Step s deed s')
    (other : ∀ slot item, deed ≠ .queued slot item) : s'.lastSeq = s.lastSeq := by
  cases step with
  | quiet aside => exact aside.work_eq.2.1
  | queueCaller | queueOwn | queueRequest => exact absurd rfl (other _ _)
  | _ => rfl

namespace Revolution

variable {old : Scheduler τ} {deeds : List Deed} {ahead : Nat}

/-- A step that queues nothing leaves the numbering where it is. -/
theorem step_of_unqueued (revolution : Revolution old deeds s ahead) {deed : Deed}
    (step : Step s deed s') (other : ∀ slot item, deed ≠ .queued slot item) :
    Revolution old (deeds ++ [deed]) s' ahead where
  within := revolution.within
  last := (step.lastSeq_eq other).trans revolution.last
  passed := by
    intro place pos reached
    rcases List.mem_append.mp (revolution.passed place pos reached) with given | taken
    · rw [List.flatMap_append, List.map_append, List.append_assoc]
      exact List.mem_append_left _ given
    · exact List.mem_append_right _ taken
  held := by
    intro slot item held
    rcases step.queueStep.queued_or_held held with queued | ⟨stays, before, held', same⟩
    · exact absurd queued (other slot item)
    · exact revolution.held_of_stays stays held' (congrArg Prod.snd same)

/-- A command that is queued takes the numbering on to its number, if that is not yet around. -/
theorem step_of_queued (revolution : Revolution old deeds s ahead) {slot : Nat} {item : QueueItem}
    (own : old.lastSeq ∈ old.queue.seqs) (few : insertions deeds < 224)
    (step : Step s (.queued slot item) s') :
    ∃ further, Revolution old (deeds ++ [.queued slot item]) s' further := by
  obtain ⟨number, last⟩ := step.seq_of_queued
  obtain ⟨further, behind, within, given, between⟩ := revolution.next_within own few
  have seq := number.trans given
  have entered : (deeds ++ [Deed.queued slot item]).flatMap Deed.entering =
      deeds.flatMap Deed.entering ++ [item] := List.flatMap_append
  refine ⟨further, within, last.trans seq, ?_, ?_⟩
  · intro place pos reached
    rw [entered, List.map_append, List.append_assoc]
    rcases Nat.lt_trichotomy place further with before | rfl | after
    · rcases Nat.lt_or_ge ahead place with new | reached
      · exact List.mem_append_right _ (List.mem_append_right _ (between place new before))
      · rcases List.mem_append.mp (revolution.passed place pos reached) with given | taken
        · exact List.mem_append_left _ given
        · exact List.mem_append_right _ (List.mem_append_right _ taken)
    · rw [← seq]
      exact List.mem_append_right _ (List.mem_append_left _ (List.mem_singleton_self _))
    · omega
  · intro slot' item' held
    rcases step.queueStep.queued_or_held held with queued | ⟨stays, before, held', same⟩
    · cases queued
      exact .inr ⟨further, by omega, Nat.le_refl further, seq⟩
    · rcases revolution.held_of_stays stays held' (congrArg Prod.snd same) with
        first | ⟨place, pos, reached, eq⟩
      · exact .inl first
      · exact .inr ⟨place, pos, by omega, eq⟩

/-- The numbering has not come around as long as 224 commands at most have been queued since. -/
theorem of_steps (own : old.lastSeq ∈ old.queue.seqs) (steps : Steps old deeds s)
    (few : insertions deeds ≤ 224) : ∃ ahead, Revolution old deeds s ahead := by
  refine steps.along (fun deeds s => insertions deeds ≤ 224 → ∃ ahead, Revolution old deeds s ahead)
    (fun _ => ⟨0, start old⟩) ?_ few
  intro deeds s s' deed _ ih step few
  rw [insertions_append] at few
  obtain ⟨ahead, revolution⟩ := ih (by omega)
  by_cases queues : ∃ slot item, deed = .queued slot item
  · obtain ⟨slot, item, rfl⟩ := queues
    exact revolution.step_of_queued own (Nat.lt_of_succ_le few) step
  · exact ⟨ahead, revolution.step_of_unqueued step fun slot item eq => queues ⟨slot, item, eq⟩⟩

end Revolution

/-! ### Numbers given again -/

omit [Transport τ] in
/-- While nothing is queued, a command that can be written is queued under the next number. -/
theorem enqueue_of_empty {command : Command} {payload : Bytes} (connected : s.connection ≠ .off)
    (empty : s.queue = {}) (written : s.table.encode command Command.maxLength = .ok payload)
    (callback : Option Callback) :
    ∃ handle : ItemHandle, (s.enqueue command callback).1 = .ok handle ∧
      handle.seq = SendQueue.seqBehind s.lastSeq 1 ∧
      (s.enqueue command callback).2.connection = s.connection ∧
      (s.enqueue command callback).2.table = s.table ∧
      (s.enqueue command callback).2.lastSeq = handle.seq := by
  unfold enqueue
  rw [if_neg connected]
  cases inserted : s.insert command (.caller callback) with
  | mk result s' =>
    cases result with
    | ok handle =>
      obtain ⟨_, _, _, -, -, number, -, rfl⟩ := insert_eq_ok inserted
      obtain ⟨step, few, given, -⟩ := s.queue.freeSeq_eq s.lastSeq
      rw [empty, SendQueue.size, SendQueue.items_empty] at few
      obtain rfl : step = 0 := Nat.le_zero.mp few
      exact ⟨handle, rfl, number.trans given, rfl, rfl, rfl⟩
    | error fault =>
      obtain ⟨-, ⟨cause, unwritable, -⟩ | ⟨-, full, -⟩⟩ := insert_eq_error inserted
      · cases written.symm.trans unwritable
      · rw [empty] at full
        exact absurd full (by decide)

omit [Transport τ] in
theorem killAll_frame (s : Scheduler τ) (status : CompletionStatus) :
    (s.killAll status).connection = s.connection ∧ (s.killAll status).queue = {} ∧
      (s.killAll status).table = s.table ∧ (s.killAll status).lastSeq = s.lastSeq :=
  ⟨rfl, rfl, rfl, rfl⟩

/-- The command can be queued and fail so many times. Each time it takes the next number. -/
theorem exists_run_of_empty {command : Command} {payload : Bytes} (connected : s.connection ≠ .off)
    (empty : s.queue = {}) (written : s.table.encode command Command.maxLength = .ok payload)
    (n : Nat) :
    ∃ (trace : Trace τ) (s' : Scheduler τ), Run s trace s' ∧ s'.connection = s.connection ∧
      s'.queue = {} ∧ s'.table = s.table ∧ s'.lastSeq = SendQueue.seqBehind s.lastSeq n := by
  induction n generalizing s with
  | zero => exact ⟨[], s, .nil, rfl, empty, rfl, (UInt8.add_zero s.lastSeq).symm⟩
  | succ n ih =>
    obtain ⟨handle, -, number, connection, table, last⟩ :=
      enqueue_of_empty connected empty written none
    obtain ⟨connection', empty', table', last'⟩ :=
      killAll_frame (s.enqueue command none).2 .disconnected
    rw [← connection, ← connection'] at connected
    rw [← table, ← table'] at written
    obtain ⟨trace, s', run, connection'', empty, table'', last''⟩ := ih connected empty' written
    have first := run.cons (.killAll .disconnected)
    refine ⟨_, s', first.cons (.enqueue command none), ?_, empty, ?_, ?_⟩
    · rw [connection'', connection', connection]
    · rw [table'', table', table]
    · rw [last'', last', last, number, SendQueue.seqBehind_seqBehind, Nat.add_comm]

/-- While nothing is queued, a command can be queued that fails, and 255 more. Then the next has the
number of the first. -/
theorem Run.exists_seq_again {start s : Scheduler τ} {trace : Trace τ} {command : Command}
    {payload : Bytes} (run : Run start trace s) (connected : s.connection ≠ .off)
    (empty : s.queue = {}) (written : s.table.encode command Command.maxLength = .ok payload) :
    ∃ (trace : Trace τ) (s₁ s₂ : Scheduler τ) (before between : List Deed) (i j : Nat)
      (first again : QueueItem), Run start trace s₂ ∧
      Steps start (before ++ .queued i first :: between) s₁ ∧ Steps s₁ [.queued j again] s₂ ∧
      again.command.seq = first.command.seq := by
  obtain ⟨handle, accepted, -, connection, table, last⟩ :=
    enqueue_of_empty connected empty written none
  obtain ⟨connection', empty', table', last'⟩ :=
    killAll_frame (s.enqueue command none).2 .disconnected
  rw [← connection, ← connection'] at connected
  rw [← table, ← table'] at written
  obtain ⟨_, s₁, others, connection'', empty'', table'', last''⟩ :=
    exists_run_of_empty connected empty' written 255
  rw [← connection''] at connected
  rw [← table''] at written
  obtain ⟨handle', accepted', number, -⟩ := enqueue_of_empty connected empty'' written none
  have same : handle'.seq = handle.seq := by
    rw [number, last'', last', last, SendQueue.seqBehind_seqBehind, SendQueue.seqBehind_circle]
  have since := others.cons (.killAll .disconnected)
  obtain ⟨before, steps, -⟩ := run.steps
  obtain ⟨between, steps', -⟩ := since.steps
  exact ⟨_, s₁, _, before, between, handle.slot, handle'.slot, _, _,
    ((run.snoc (.enqueue command none)).append since).snoc (.enqueue command none),
    steps.append (.cons (.of_enqueue accepted) steps'), .cons (.of_enqueue accepted') (.nil _),
    same⟩

/-! ### The distance -/

/-- **A sequence number is not given again soon.** A run has a history that accounts for its trace.
Take any moment of such a history after a command was queued. If a command is queued next under the
same number, at least 224 others have been queued since the first. And once the first has left its
slot, for whatever reason, a confirm for it finds no item until more than 224 commands have been
queued. -/
theorem Run.seq_reuse_distance {start s : Scheduler τ} {trace : Trace τ} (fresh : start.Fresh)
    (run : Run start trace s) :
    (∃ deeds : List Deed, Steps start deeds s ∧ Accounts trace deeds) ∧
      ∀ ⦃before between after : List Deed⦄ ⦃slot : Nat⦄ ⦃item : QueueItem⦄ ⦃s' : Scheduler τ⦄,
        Steps start (before ++ .queued slot item :: between) s' → Steps s' after s →
        (∀ slot' item' later, after = .queued slot' item' :: later →
            item'.command.seq = item.command.seq → 224 ≤ insertions between) ∧
          ((∃ deed ∈ between, deed.frees slot = true) → insertions between ≤ 224 →
            ∀ id, s'.queue.findConfirm? id item.command.seq = none) := by
  refine ⟨run.steps, ?_⟩
  intro before between after slot item s' steps rest
  obtain ⟨s₁, steps₁, steps⟩ := steps.of_append
  obtain ⟨old, queued, since⟩ := steps.of_cons
  obtain ⟨-, last⟩ := queued.seq_of_queued
  obtain ⟨-, held, -⟩ := queued.queueStep.get?_of_queued
  have distinct := (steps₁.append (.cons queued (.nil old))).seqsDistinct fresh
  have own : old.lastSeq ∈ old.queue.seqs := by
    rw [last]
    exact SendQueue.mem_seqs.mpr ⟨slot, item, held, rfl⟩
  constructor
  · rintro slot' item' later rfl same
    by_contra few
    obtain ⟨_, again, -⟩ := rest.of_cons
    obtain ⟨ahead, revolution⟩ := Revolution.of_steps own since (by omega)
    obtain ⟨further, behind, within, given, -⟩ := revolution.next_within own (by omega)
    refine SendQueue.seqBehind_ne_self (Nat.zero_lt_of_lt behind) within (given.symm.trans ?_)
    rw [← again.seq_of_queued.1, same, last]
  · intro freed few id
    obtain ⟨ahead, revolution⟩ := Revolution.of_steps own since few
    have gone := revolution.not_mem_seqs_of_freed distinct held last freed
    refine Option.eq_none_iff_forall_ne_some.mpr fun slot' found => ?_
    obtain ⟨other, held', awaits⟩ := SendQueue.awaits_of_findConfirm? found
    exact gone (SendQueue.mem_seqs.mpr ⟨slot', other, held', QueueItem.seq_of_awaits awaits⟩)

/-- In an open session, a number is given again behind 255 others. -/
theorem Run.seq_reuse_distance_of_sameSeq :
    ∃ (trace : Trace SimulatedTransport) (s₁ s₂ : Scheduler SimulatedTransport)
      (before between : List Deed) (i j : Nat) (first again : QueueItem),
      Fresh ({ transport := { autoConnect := true } } : Scheduler SimulatedTransport) ∧
      Run { transport := { autoConnect := true } } trace s₂ ∧
      Steps { transport := { autoConnect := true } } (before ++ .queued i first :: between) s₁ ∧
      Steps s₁ [.queued j again] s₂ ∧ again.command.seq = first.command.seq ∧
      224 ≤ insertions between := by
  have fresh : Fresh ({ transport := { autoConnect := true } } : Scheduler SimulatedTransport) :=
    .mk _ _ _ _ _
  have opened : Run ({ transport := { autoConnect := true } } : Scheduler SimulatedTransport) _ _ :=
    Run.nil.snoc .openSession
  have written : CommandTable.builtin.encode { id := Command.version, values := [.u32 0] }
      Command.maxLength = .ok [13, 0, 0, 9, 0, 0, 0, 0, 0] := by rfl
  obtain ⟨trace, s₁, s₂, before, between, i, j, first, again, run, steps, last, same⟩ :=
    opened.exists_seq_again (by decide) rfl written
  obtain ⟨-, distance⟩ := seq_reuse_distance fresh run
  exact ⟨trace, s₁, s₂, before, between, i, j, first, again, fresh, run, steps, last, same,
    (distance steps last).1 j again [] rfl same⟩

end SerialLink.Scheduler
