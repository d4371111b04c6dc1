import SerialLink.Proofs.Command.Grammar
import SerialLink.Proofs.Scheduler.Attempts
import SerialLink.Proofs.Scheduler.Confirm
import SerialLink.Proofs.Scheduler.Sessions

/-!
Which commands can be confirmed. A payload of the device ends the item that waits for it, or it ends
none (`acceptPayload_cases`). So an item that waits for its confirm waits on until a payload is
heard that answers it, and ends with success then, whatever else is heard before or after
(`Hears.fate`). The frame that was sent for it carries such a payload, if the command has a
layout. A command without one is written all the same, as a header, but no payload is read as such a
command: it is accepted and sent, and nothing that is received confirms it
(`Delivery.held_of_noLayout`).
-/

namespace SerialLink

/-- Only commands with a layout are read. -/
theorem CommandTable.layout?_of_decode {table : CommandTable} {bytes : Bytes} {command : Command}
    (read : table.decode bytes = .ok command) :
    ∃ layout, table.layout? command.id = some layout := by
  cases carries_of_decode read with
  | long known => exact ⟨_, known⟩
  | short known => exact ⟨_, known⟩

namespace Scheduler

variable {τ : Type} {s s' s'' : Scheduler τ} {slot : Nat} {item : QueueItem} {response : Command}

/-! ### One payload -/

theorem Confirmed.seqsDistinct (confirmed : s.Confirmed slot item response s')
    (distinct : s.queue.SeqsDistinct) : s'.queue.SeqsDistinct := by
  have before {other : Nat} {kept : QueueItem} (held : s'.queue.get? other = some kept) :
      s.queue.get? other = some kept := by
    by_cases same : other = slot
    · rw [same, confirmed.removed] at held
      cases held
    · rwa [confirmed.others other same] at held
  intro i j a b heldA heldB same
  exact distinct (before heldA) (before heldB) same

/-- A payload that is heard ends the item that waits for it, or it leaves the queued items and the
failures as they are and events are told at most. -/
theorem acceptPayload_cases (s : Scheduler τ) (payload : Bytes) (now : Nat) :
    (∃ slot item command, s.table.decode payload = .ok command ∧
      s.queue.findConfirm? command.id command.seq = some slot ∧
      s.queue.get? slot = some item ∧ item.awaits command.id command.seq = true ∧
      s.Confirmed slot item command (s.acceptPayload payload now)) ∨
    (∀ command, s.table.decode payload = .ok command →
      s.queue.findConfirm? command.id command.seq = none) ∧
      (s.acceptPayload payload now).queue = s.queue ∧
      (s.acceptPayload payload now).failures = s.failures ∧
      ∃ events : List LinkEvent,
        (s.acceptPayload payload now).completions = s.completions ++ events.map .event := by
  cases read : s.table.decode payload with
  | error cause =>
    right
    obtain ⟨metrics, eq⟩ := acceptPayload_of_error read now
    rw [eq]
    exact ⟨nofun, rfl, rfl, [], (List.append_nil _).symm⟩
  | ok command =>
    cases found : s.queue.findConfirm? command.id command.seq with
    | some slot =>
      left
      obtain ⟨item, held, awaits⟩ := SendQueue.awaits_of_findConfirm? found
      have waits : item.state = .waitConfirm := (of_decide_eq_true awaits).1
      exact ⟨slot, item, command, rfl, found, held, awaits,
        confirmed_acceptPayload read found held waits now⟩
    | none =>
      right
      obtain ⟨metrics, device, wake, events, eq⟩ :=
        (s.countMetric .framesReceived).dispatch_eq command now
      have passed : { s with metrics }.confirm command now = { s with metrics } := by
        unfold confirm
        simp only [found]
      have eq : s.acceptPayload payload now =
          { { s with metrics } with device, wake }.tell (events.map .event) := by
        rw [acceptPayload_of_ok read, eq, ← passed]
        rfl
      rw [eq]
      refine ⟨?_, rfl, rfl, events, rfl⟩
      rintro command' same
      cases same
      exact found

/-- What is told of a payload is told behind what was told before. -/
theorem acceptPayload_completions (s : Scheduler τ) (payload : Bytes) (now : Nat) :
    ∃ told, (s.acceptPayload payload now).completions = s.completions ++ told := by
  rcases s.acceptPayload_cases payload now with
    ⟨_, _, _, -, -, -, -, confirmed⟩ | ⟨-, -, -, events, told⟩
  · obtain ⟨events, told⟩ := confirmed.told
    exact ⟨_, told.trans (List.append_assoc _ _ _)⟩
  · exact ⟨_, told⟩

/-! ### Any number of payloads -/

/-- The item in the slot has ended with success: this command of the device, with its id and its
sequence number, was told to the one who waits for it, if there is one, and the failures are
forgotten. -/
structure Succeeded (s : Scheduler τ) (slot : Nat) (item : QueueItem) (response : Command)
    (s' : Scheduler τ) : Prop where
  answers : item.awaits response.id response.seq = true
  removed : s'.queue.get? slot = none
  told : ∃ earlier later : List Completion, s'.completions = s.completions ++
    (earlier ++ (item.origin.outcome .success (some response)).toList ++ later)
  failures : s'.failures = 0

theorem Confirmed.succeeded (confirmed : s.Confirmed slot item response s')
    (answers : item.awaits response.id response.seq = true) :
    s.Succeeded slot item response s' where
  answers := answers
  removed := confirmed.removed
  told := by
    obtain ⟨events, told⟩ := confirmed.told
    exact ⟨[], events.map .event, by simpa using told⟩
  failures := confirmed.failures

theorem Succeeded.of_later (succeeded : s'.Succeeded slot item response s'')
    {told : List Completion} (since : s'.completions = s.completions ++ told) :
    s.Succeeded slot item response s'' where
  answers := succeeded.answers
  removed := succeeded.removed
  told := by
    obtain ⟨earlier, later, eq⟩ := succeeded.told
    exact ⟨told ++ earlier, later, by simp [eq, since]⟩
  failures := succeeded.failures

/-- It stays at that, whatever is heard. -/
theorem Succeeded.acceptPayload (succeeded : s.Succeeded slot item response s') (payload : Bytes)
    (now : Nat) : s.Succeeded slot item response (s'.acceptPayload payload now) := by
  obtain ⟨answers, removed, ⟨earlier, later, told⟩, failures⟩ := succeeded
  obtain ⟨more, told'⟩ := s'.acceptPayload_completions payload now
  have told'' : ∃ earlier later : List Completion, (s'.acceptPayload payload now).completions =
      s.completions ++
        (earlier ++ (item.origin.outcome .success (some response)).toList ++ later) :=
    ⟨earlier, later ++ more, by simp [told', told]⟩
  rcases s'.acceptPayload_cases payload now with
    ⟨other, _, _, -, -, held, -, confirmed⟩ | ⟨-, queue, same, -⟩
  · have apart : slot ≠ other := by
      rintro rfl
      cases removed.symm.trans held
    exact ⟨answers, (confirmed.others slot apart).trans removed, told'', confirmed.failures⟩
  · exact ⟨answers, by rw [queue, removed], told'', same.trans failures⟩

theorem Hears.succeeded {payloads : List Bytes} (hears : Hears s' payloads s'')
    (succeeded : s.Succeeded slot item response s') : s.Succeeded slot item response s'' := by
  induction hears with
  | nil => exact succeeded
  | aside transport receiver metrics rest ih =>
    obtain ⟨answers, removed, told, failures⟩ := succeeded
    exact ih ⟨answers, removed, told, failures⟩
  | payload payload now rest ih => exact ih (succeeded.acceptPayload payload now)

/-- What becomes of an item that waits while payloads are heard: none of them answers it and it is
still there, or it has ended with success by one of them. -/
inductive Fate (s : Scheduler τ) (slot : Nat) (item : QueueItem) (payloads : List Bytes)
    (s' : Scheduler τ) : Prop where
  | waits (held : s'.queue.get? slot = some item)
    (unanswered : ∀ payload ∈ payloads, ∀ command, s.table.decode payload = .ok command →
      item.awaits command.id command.seq = false)
  | ended {payload : Bytes} {response : Command} (heard : payload ∈ payloads)
    (read : s.table.decode payload = .ok response)
    (succeeded : s.Succeeded slot item response s')

theorem Fate.cons {payload : Bytes} {payloads : List Bytes} {now : Nat}
    (fate : (s.acceptPayload payload now).Fate slot item payloads s')
    (unanswered : ∀ command, s.table.decode payload = .ok command →
      item.awaits command.id command.seq = false) :
    s.Fate slot item (payload :: payloads) s' := by
  obtain ⟨-, -, table⟩ := s.acceptPayload_frame payload now
  cases fate with
  | waits held later =>
    rw [table] at later
    exact .waits held (List.forall_mem_cons.mpr ⟨unanswered, later⟩)
  | ended heard read succeeded =>
    rw [table] at read
    obtain ⟨told, since⟩ := s.acceptPayload_completions payload now
    exact .ended (List.mem_cons_of_mem _ heard) read (succeeded.of_later since)

/-- An item waits until it is answered, whatever is heard before, and has ended with success then,
whatever is heard after. -/
theorem Hears.fate {payloads : List Bytes} (hears : Hears s payloads s')
    (distinct : s.queue.SeqsDistinct) (held : s.queue.get? slot = some item) :
    s.Fate slot item payloads s' := by
  induction hears with
  | nil => exact .waits held nofun
  | aside transport receiver metrics rest ih =>
    cases ih distinct held with
    | waits held unanswered => exact .waits held unanswered
    | ended heard read succeeded =>
      obtain ⟨answers, removed, told, failures⟩ := succeeded
      exact .ended heard read ⟨answers, removed, told, failures⟩
  | @payload s s' payloads payload now rest ih =>
    -- What answers the item is found for it, for no other item has its number.
    have found (command : Command) (answers : item.awaits command.id command.seq = true) :
        s.queue.findConfirm? command.id command.seq = some slot :=
      distinct.findConfirm?_iff.mpr ⟨item, held, answers⟩
    rcases s.acceptPayload_cases payload now with
      ⟨other, item', command, read, found', held', answers, confirmed⟩ | ⟨none, queue, -⟩
    · by_cases same : slot = other
      · subst same
        cases held.symm.trans held'
        exact .ended List.mem_cons_self read (rest.succeeded (confirmed.succeeded answers))
      · refine (ih (confirmed.seqsDistinct distinct)
          ((confirmed.others slot same).trans held)).cons ?_
        intro command' read'
        cases read.symm.trans read'
        refine eq_false_of_ne_true fun answers' => same ?_
        exact Option.some.inj ((found command answers').symm.trans found')
    · refine (ih (by rwa [queue]) (by rwa [queue])).cons ?_
      intro command read
      refine eq_false_of_ne_true fun answers => ?_
      cases (none command read).symm.trans (found command answers)

/-! ### Deliveries -/

variable [Transport τ] {session : Nat} {chunks : List Bytes}

/-- Nothing that is received ends a command without a layout. -/
theorem Delivery.held_of_noLayout (delivery : Delivery session s chunks s')
    (joined : s.session = some session) (distinct : s.queue.SeqsDistinct)
    (held : s.queue.get? slot = some item)
    (plain : s.table.layout? item.command.id = none) : s'.queue.get? slot = some item := by
  cases (delivery.hears joined).fate distinct held with
  | waits kept => exact kept
  | ended _ read succeeded =>
    obtain ⟨layout, known⟩ := CommandTable.layout?_of_decode read
    obtain ⟨-, id, -⟩ := of_decide_eq_true succeeded.answers
    rw [← id] at known
    cases plain.symm.trans known

/-- The echo of its frame ends an item with success, whatever the receiver holds when it comes. -/
theorem Delivery.succeeded_of_echo (delivery : Delivery session s chunks s')
    (joined : s.session = some session) (distinct : s.queue.SeqsDistinct)
    (held : s.queue.get? slot = some item) (waits : item.state = .waitConfirm) {payload : Bytes}
    (room : payload.length + Frame.trailerLength ≤ s.receiver.capacity)
    (read : s.table.decode payload = .ok item.command)
    (echo : chunks.flatten = Frame.encode payload) :
    ∃ response, s.Succeeded slot item response s' := by
  have hears := delivery.hears joined
  rw [echo, Receiver.feedAll_encode room] at hears
  cases hears.fate distinct held with
  | waits _ unanswered =>
    have silent := unanswered payload (List.mem_append_right _ List.mem_cons_self) _ read
    have answers : item.awaits item.command.id item.command.seq = true :=
      decide_eq_true ⟨waits, rfl, rfl⟩
    cases silent.symm.trans answers
  | ended _ _ succeeded => exact ⟨_, succeeded⟩

/-! ### Runs -/

/-- **A command with a layout is confirmed by its echo.** Let a run of a scheduler over a table of
registered commands lead to a state in which an item waits for its confirm. A session is accepted
then, and the transport has taken the same frame for the item once and once more for each retry. If
the command has a layout and the device sends this frame back, in any number of pieces and whatever
the receiver holds at the time, the item ends with success. A command without a layout, such as the
acknowledgment, is sent as well, but nothing that is received ends it. -/
theorem Run.echo_confirms {start s : Scheduler τ} {trace : Trace τ} (fresh : start.Fresh)
    (made : start.table.Registered) (run : Run start trace s) :
    ∃ deeds : List Deed, Steps start deeds s ∧ Accounts trace deeds ∧
      ∀ (slot : Nat) (item : QueueItem), s.queue.get? slot = some item →
        item.state = .waitConfirm →
        ∃ (session : Nat) (payload : Bytes), s.session = some session ∧
          start.table.encode item.command Command.maxLength = .ok payload ∧
          (attempts slot deeds).sent.map Prod.fst =
            List.replicate (item.retries + 1) (Frame.encode payload) ∧
          ∀ (chunks : List Bytes) (s' : Scheduler τ), Delivery session s chunks s' →
            (∀ layout, start.table.layout? item.command.id = some layout →
              chunks.flatten = Frame.encode payload →
                ∃ response, s.Succeeded slot item response s') ∧
            (start.table.layout? item.command.id = none →
              s'.queue.get? slot = some item) := by
  obtain ⟨deeds, steps, accounts⟩ := run.steps
  obtain ⟨-, table⟩ := steps.made_eq
  refine ⟨deeds, steps, accounts, ?_⟩
  intro slot item held waits
  obtain ⟨-, session, joined⟩ := run.connected_of_held fresh held
  obtain ⟨payload, written, sent, -⟩ := steps.withinBudget fresh held
  rw [if_pos waits] at sent
  have distinct := steps.seqsDistinct fresh
  refine ⟨session, payload, joined, written, sent, fun chunks s' delivery => ⟨?echo, ?plain⟩⟩
  case echo =>
    intro layout known echo
    have other := made.ne_acknowledge known
    have read := CommandTable.decode_of_carries
      (CommandTable.carries_of_encode known other written)
    rw [← table] at read
    have capacity : s.receiver.capacity = 512 := by
      cases fresh with
      | mk => exact run.capacity_receiver
    have short := CommandTable.length_le_of_encode known other written
    have room : payload.length + Frame.trailerLength ≤ s.receiver.capacity := by
      rw [capacity]
      exact Nat.le_trans (Nat.add_le_add_right short _) (by decide)
    exact delivery.succeeded_of_echo joined distinct held waits room read echo
  case plain =>
    intro plain
    rw [← table] at plain
    exact delivery.held_of_noLayout joined distinct held plain

/-- A command waits for its confirm, and the device has broken off a frame. -/
def frameBrokenOff : Trace SimulatedTransport × Scheduler SimulatedTransport :=
  performAll { transport := { autoConnect := true } }
    [.openSession, .handleEvent ⟨1, .connected⟩ 0,
      .enqueue { id := Command.version, values := [.u32 0] } (some ⟨1⟩), .tick 0,
      .changeTransport fun t => t.arrive [0xC0, 0x0E, 0x07], .processInbound 1]

theorem Run.echo_confirms_of_frameBrokenOff :
    ∃ (item : QueueItem) (response : Command) (s' : Scheduler SimulatedTransport),
      let frame := Frame.encode [13, 1, 0, 9, 0, 0, 0, 0, 0]
      Fresh ({ transport := { autoConnect := true } } : Scheduler SimulatedTransport) ∧
      CommandTable.builtin.Registered ∧
      Run { transport := { autoConnect := true } } frameBrokenOff.1 frameBrokenOff.2 ∧
      frameBrokenOff.2.receiver.buffer = #[0x0E, 0x07] ∧
      frameBrokenOff.2.queue.get? 0 = some item ∧
      Delivery 1 frameBrokenOff.2 [frame.take 4, frame.drop 4] s' ∧
      frameBrokenOff.2.Succeeded 0 item response s' := by
  let frame := Frame.encode [13, 1, 0, 9, 0, 0, 0, 0, 0]
  have fresh : Fresh ({ transport := { autoConnect := true } } : Scheduler SimulatedTransport) :=
    .mk _ _ _ _ _
  have run : Run { transport := { autoConnect := true } } frameBrokenOff.1 frameBrokenOff.2 :=
    run_performAll _ _
  let item : QueueItem :=
    { command := { id := Command.version, seq := 1, values := [.u32 0] }, state := .waitConfirm,
      sentAt := some 0, firstSentAt := some 0, origin := .caller (some ⟨1⟩) }
  have held : frameBrokenOff.2.queue.get? 0 = some item := by decide +kernel
  have known : CommandTable.builtin.layout? item.command.id = some [.word .four] := by
    decide +kernel
  have encoded : CommandTable.builtin.encode item.command Command.maxLength =
      .ok [13, 1, 0, 9, 0, 0, 0, 0, 0] := by decide +kernel
  obtain ⟨deeds, -, -, confirmable⟩ := echo_confirms fresh .builtin run
  obtain ⟨session, payload, joined, written, -, answered⟩ := confirmable 0 item held rfl
  cases joined.symm.trans (show frameBrokenOff.2.session = some 1 by decide +kernel)
  cases written.symm.trans encoded
  have delivery : Delivery 1 frameBrokenOff.2 [frame.take 4, frame.drop 4] _ :=
    .cons (fun t => t.arrive (frame.take 4)) 2 (by decide +kernel) <|
      .cons (fun t => t.arrive (frame.drop 4)) 3 (by decide +kernel) (.nil _)
  obtain ⟨response, succeeded⟩ := (answered _ _ delivery).1 _ known (by decide +kernel)
  exact ⟨item, response, _, fresh, .builtin, run, by decide +kernel, held, delivery, succeeded⟩

/-- The acknowledgment was sent as a command, and waits for its confirm. -/
def acknowledgeInFlight : Trace SimulatedTransport × Scheduler SimulatedTransport :=
  performAll { transport := { autoConnect := true } }
    [.openSession, .handleEvent ⟨1, .connected⟩ 0,
      .enqueue { id := Command.acknowledge } (some ⟨1⟩), .tick 0]

/-- Not every command that is accepted can be confirmed. The acknowledgment has no layout: it is
sent, and whatever the device answers, it waits on. -/
theorem Run.unanswered_of_acknowledgeInFlight :
    ∃ item : QueueItem,
      Fresh ({ transport := { autoConnect := true } } : Scheduler SimulatedTransport) ∧
      CommandTable.builtin.Registered ∧
      Run { transport := { autoConnect := true } } acknowledgeInFlight.1 acknowledgeInFlight.2 ∧
      acknowledgeInFlight.2.session = some 1 ∧
      acknowledgeInFlight.2.queue.get? 0 = some item ∧ item.state = .waitConfirm ∧
      item.command = { id := Command.acknowledge, seq := 1 } ∧
      Frame.encode [1, 1, 0] ∈ acknowledgeInFlight.2.transport.frames ∧
      ∀ (chunks : List Bytes) (s' : Scheduler SimulatedTransport),
        Delivery 1 acknowledgeInFlight.2 chunks s' →
          s'.queue.get? 0 = some item ∧
          ∀ response, ¬ acknowledgeInFlight.2.Succeeded 0 item response s' := by
  have fresh : Fresh ({ transport := { autoConnect := true } } : Scheduler SimulatedTransport) :=
    .mk _ _ _ _ _
  have run : Run { transport := { autoConnect := true } } acknowledgeInFlight.1
      acknowledgeInFlight.2 := run_performAll _ _
  have joined : acknowledgeInFlight.2.session = some 1 := by decide +kernel
  let item : QueueItem :=
    { command := { id := Command.acknowledge, seq := 1 }, state := .waitConfirm,
      sentAt := some 0, firstSentAt := some 0, origin := .caller (some ⟨1⟩) }
  have held : acknowledgeInFlight.2.queue.get? 0 = some item := by decide +kernel
  have plain : acknowledgeInFlight.2.table.layout? item.command.id = none := by decide +kernel
  obtain ⟨deeds, steps, -⟩ := run.steps
  have distinct := steps.seqsDistinct fresh
  refine ⟨item, fresh, .builtin, run, joined, held, rfl, rfl, by decide +kernel, ?_⟩
  intro chunks s' delivery
  have kept := delivery.held_of_noLayout joined distinct held plain
  refine ⟨kept, fun response succeeded => ?_⟩
  cases kept.symm.trans succeeded.removed

end Scheduler

end SerialLink
