import SerialLink.Proofs.Scheduler.Reuse

/-!
What the scheduler adds to the queue on its own. It queues a command of its own only while no
command with that id is queued, whoever submitted it (`Step.own_of_queued`), and an item keeps its
slot and its work until it leaves (`QueueStep.queued_or_held`). So of each kind at most one is
queued at a time, however often it is put back, and whatever callers submit beside it
(`Step.ownBounded`). And of the three parts of a tick only one queues anything, and one command at
most (`tick_advances`).
-/

namespace SerialLink

/-- The ids of the commands that the scheduler makes: the probe and the fetches. -/
def Command.ownIds : List UInt8 :=
  [Command.deviceStatus, Command.dataConfirm, Command.dataIndication]

theorem CommandTable.id_of_zeroed? {table : CommandTable} {id : UInt8} {command : Command}
    (zeroed : table.zeroed? id = some command) : command.id = id := by
  obtain ⟨layout, -, rfl⟩ := Option.map_eq_some_iff.mp zeroed
  rfl

theorem SendQueue.ne_of_holdsId {q : SendQueue} {id : UInt8} (free : q.holdsId id = false)
    {slot : Nat} {item : QueueItem} (held : q.get? slot = some item) : item.command.id ≠ id := by
  unfold holdsId at free
  simpa using List.any_eq_false.mp free item (mem_items.mpr ⟨slot, held⟩)

namespace Scheduler

variable {τ : Type}

/-- Each item of the scheduler's own is of one of its kinds, and no two are of the same. -/
structure OwnBounded (s : Scheduler τ) : Prop where
  known : ∀ ⦃slot : Nat⦄ ⦃item : QueueItem⦄, s.queue.get? slot = some item →
    item.origin = .scheduler → item.command.id ∈ Command.ownIds
  single : ∀ ⦃slot slot' : Nat⦄ ⦃item item' : QueueItem⦄, s.queue.get? slot = some item →
    s.queue.get? slot' = some item' → item.origin = .scheduler → item'.origin = .scheduler →
      item.command.id = item'.command.id → slot = slot'

theorem Fresh.ownBounded {s : Scheduler τ} (fresh : s.Fresh) : s.OwnBounded := by
  cases fresh with
  | mk =>
    refine ⟨fun slot item held => ?_, fun slot slot' item item' held => ?_⟩ <;>
      rw [SendQueue.get?_empty] at held <;> cases held

variable [Transport τ] {s s' : Scheduler τ} {deed : Deed} {deeds : List Deed}

/-- What the scheduler queues on its own is of one of its kinds, and alone with its id. -/
theorem Step.own_of_queued {slot : Nat} {item : QueueItem} (step : Step s (.queued slot item) s')
    (own : item.origin = .scheduler) :
    item.command.id ∈ Command.ownIds ∧ s.queue.holdsId item.command.id = false := by
  cases step with
  | queueCaller | queueRequest => cases own
  | queueOwn _ known single zeroed =>
    obtain rfl := CommandTable.id_of_zeroed? zeroed
    exact ⟨known, single⟩

theorem Step.ownBounded (step : Step s deed s') (bounded : s.OwnBounded) : s'.OwnBounded := by
  -- What is held then was queued by the step, or has the origin and the command of what was held.
  have cases {slot : Nat} {item : QueueItem} (held : s'.queue.get? slot = some item) :
      deed = .queued slot item ∨ ∃ before : QueueItem, s.queue.get? slot = some before ∧
        item.origin = before.origin ∧ item.command = before.command := by
    rcases step.queueStep.queued_or_held held with queued | ⟨-, before, held, work⟩
    · exact .inl queued
    · exact .inr ⟨before, held, Prod.mk.inj work⟩
  have alone {slot slot' : Nat} {item before : QueueItem} (queued : deed = .queued slot item)
      (own : item.origin = .scheduler) (held : s.queue.get? slot' = some before) :
      before.command.id ≠ item.command.id := by
    subst queued
    exact SendQueue.ne_of_holdsId (step.own_of_queued own).2 held
  refine ⟨fun slot item held own => ?_, fun slot slot' item item' held held' own own' same => ?_⟩
  · rcases cases held with rfl | ⟨before, held, origin, command⟩
    · exact (step.own_of_queued own).1
    · rw [command]
      exact bounded.known held (origin.symm.trans own)
  · rcases cases held with queued | ⟨before, heldBefore, origin, command⟩
    · rcases cases held' with queued' | ⟨before', held', origin', command'⟩
      · cases queued.symm.trans queued'
        rfl
      · rw [command'] at same
        exact absurd same.symm (alone queued own held')
    · rcases cases held' with queued' | ⟨before', heldBefore', origin', command'⟩
      · rw [command] at same
        exact absurd same (alone queued' own' heldBefore)
      · rw [command, command'] at same
        exact bounded.single heldBefore heldBefore' (origin.symm.trans own)
          (origin'.symm.trans own') same

/-! ### Ticks -/

/-- What is held after some steps was queued by one of them, or is work that was held before. -/
theorem Steps.queued_or_held (steps : Steps s deeds s') {slot : Nat} {item : QueueItem}
    (held : s'.queue.get? slot = some item) :
    (∃ queued : QueueItem, Deed.queued slot queued ∈ deeds ∧ item.work = queued.work) ∨
      ∃ before : QueueItem, s.queue.get? slot = some before ∧ item.work = before.work := by
  induction steps with
  | nil s => exact .inr ⟨item, held, rfl⟩
  | cons step rest ih =>
    rcases ih held with ⟨queued, listed, work⟩ | ⟨before, held, work⟩
    · exact .inl ⟨queued, List.mem_cons_of_mem _ listed, work⟩
    · rcases step.queueStep.queued_or_held held with rfl | ⟨-, first, held, same⟩
      · exact .inl ⟨before, List.mem_cons_self, work⟩
      · exact .inr ⟨first, held, work.trans same⟩

omit [Transport τ] in
theorem queued_notMem_of_insertions (none : insertions deeds = 0) (slot : Nat) (item : QueueItem) :
    Deed.queued slot item ∉ deeds := by
  intro listed
  have entering := List.flatMap_eq_nil_iff.mp (List.eq_nil_of_length_eq_zero none) _ listed
  cases entering

omit [Transport τ] in
/-- Where one command at most is queued, one slot at most is taken. -/
theorem exists_slot_of_insertions (few : insertions deeds ≤ 1) :
    ∃ place : Nat, ∀ slot item, Deed.queued slot item ∈ deeds → slot = place := by
  induction deeds with
  | nil => exact ⟨0, fun _ _ listed => absurd listed List.not_mem_nil⟩
  | cons deed deeds ih =>
    rw [show deed :: deeds = [deed] ++ deeds from rfl, insertions_append] at few
    cases deed with
    | queued place first =>
      have one : insertions [Deed.queued place first] = 1 := rfl
      refine ⟨place, fun slot item listed => ?_⟩
      rcases List.mem_cons.mp listed with same | listed
      · cases same
        rfl
      · exact absurd listed (queued_notMem_of_insertions (by omega) slot item)
    | _ =>
      obtain ⟨place, only⟩ := ih (by omega)
      refine ⟨place, fun slot item listed => ?_⟩
      rcases List.mem_cons.mp listed with same | listed
      · cases same
      · exact only slot item listed

/-- A tick queues one command at most, whether it is one of its own or that of a bulk request. -/
theorem perform_tick_insertions (s : Scheduler τ) (now : Nat) :
    ∃ deeds : List Deed, Steps s deeds (s.tick now).2 ∧
      Accounts [((.tick now : Act τ), (s.perform (.tick now)).1)] deeds ∧ insertions deeds ≤ 1 := by
  obtain ⟨deeds, steps, each, -, few⟩ := s.tick_advances now
  have permitted := permitted_of_act (s.perform (.tick now)).1 fun deed mem => (each deed mem).2
  exact ⟨deeds, steps, .of_own (fun deed mem => (each deed mem).1) permitted
    (.nothing rfl rfl rfl rfl), few⟩

/-- **The scheduler's own traffic is bounded.** Whatever has been done to a scheduler, each queued
item of its own is a probe or a fetch, and of each of these three kinds one item of its own at most
is queued. A tick that may follow queues one command at most, of whatever origin: all it leaves in
the queue, but for one slot, is work that was in the same slot before it. -/
theorem Run.own_traffic_bounded {start s : Scheduler τ} {trace : Trace τ} (fresh : start.Fresh)
    (run : Run start trace s) :
    (∀ ⦃slot : Nat⦄ ⦃item : QueueItem⦄, s.queue.get? slot = some item → item.origin = .scheduler →
        item.command.id ∈ [Command.deviceStatus, Command.dataConfirm, Command.dataIndication]) ∧
      (∀ ⦃slot slot' : Nat⦄ ⦃item item' : QueueItem⦄, s.queue.get? slot = some item →
        s.queue.get? slot' = some item' → item.origin = .scheduler → item'.origin = .scheduler →
          item.command.id = item'.command.id → slot = slot') ∧
      ∀ now : Nat,
        (∃ deeds : List Deed, Steps s deeds (s.tick now).2 ∧
          Accounts [((.tick now : Act τ), (s.perform (.tick now)).1)] deeds ∧
            insertions deeds ≤ 1) ∧
        ∃ place : Nat, ∀ ⦃slot : Nat⦄ ⦃item : QueueItem⦄,
          (s.tick now).2.queue.get? slot = some item → slot ≠ place →
            ∃ before : QueueItem, s.queue.get? slot = some before ∧ item.work = before.work := by
  have bounded := run.keep OwnBounded Step.ownBounded fresh.ownBounded
  refine ⟨bounded.known, bounded.single, fun now => ?_⟩
  obtain ⟨deeds, steps, accounts, few⟩ := s.perform_tick_insertions now
  refine ⟨⟨deeds, steps, accounts, few⟩, ?_⟩
  obtain ⟨place, only⟩ := exists_slot_of_insertions few
  refine ⟨place, fun slot item held other => ?_⟩
  rcases steps.queued_or_held held with ⟨queued, listed, -⟩ | before
  · exact absurd (only slot queued listed) other
  · exact before

/-- The device has asked for both fetches. A probe and both of them are queued, one in each tick, a
caller has submitted a probe and a fetch as well, and the device answers nothing. -/
def ownBesideCaller : Trace SimulatedTransport × Scheduler SimulatedTransport :=
  performAll { transport := { autoConnect := true } }
    [.openSession, .handleEvent ⟨1, .connected⟩ 0,
      .changeTransport fun t => { t with inbound := Frame.encode [0x0E, 1, 0, 7, 0, 0x0E, 0] },
      .processInbound 0, .tick 0,
      .enqueue { id := Command.deviceStatus, values := [.u8 0, .u8 0] } none, .tick 1, .tick 2,
      .enqueue
        { id := Command.dataConfirm
          values := [.u8 0, .u8 0, .u8 0, .u16 0, .u8 0, .u8 0, .u8 0] } none,
      .tick 9000, .tick 20000]

theorem Run.own_traffic_bounded_of_ownBesideCaller :
    Fresh ({ transport := { autoConnect := true } } : Scheduler SimulatedTransport) ∧
      Run { transport := { autoConnect := true } } ownBesideCaller.1 ownBesideCaller.2 ∧
      (ownBesideCaller.2.queue.items.map fun item =>
          (decide (item.origin = .scheduler), item.command.id, item.retries)) =
        [(true, Command.deviceStatus, 1), (false, Command.deviceStatus, 1),
          (true, Command.dataConfirm, 1), (true, Command.dataIndication, 1),
          (false, Command.dataConfirm, 0)] ∧
      (∀ slot item, ownBesideCaller.2.queue.get? slot = some item → item.origin = .scheduler →
        item.command.id = Command.deviceStatus → slot = 0) ∧
      ∃ deeds : List Deed,
        Steps ownBesideCaller.2 deeds (ownBesideCaller.2.tick 30000).2 ∧ insertions deeds ≤ 1 := by
  have fresh : Fresh ({ transport := { autoConnect := true } } : Scheduler SimulatedTransport) :=
    .mk _ _ _ _ _
  have run : Run { transport := { autoConnect := true } } ownBesideCaller.1 ownBesideCaller.2 :=
    run_performAll _ _
  obtain ⟨known, single, ticks⟩ := own_traffic_bounded fresh run
  obtain ⟨⟨deeds, steps, -, few⟩, -⟩ := ticks 30000
  obtain ⟨probe, held, own, id⟩ : ∃ probe : QueueItem,
      ownBesideCaller.2.queue.get? 0 = some probe ∧ probe.origin = .scheduler ∧
        probe.command.id = Command.deviceStatus :=
    ⟨{ command := { id := Command.deviceStatus, seq := 1, values := [.u8 0, .u8 0] },
       state := .waitConfirm, retries := 1, sentAt := some 20000, firstSentAt := some 0 },
      by decide +kernel, rfl, rfl⟩
  exact ⟨fresh, run, by decide +kernel,
    fun slot item held' own' same => single held' held own' own (same.trans id.symm),
    deeds, steps, few⟩

end Scheduler

end SerialLink
