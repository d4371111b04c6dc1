import SerialLink.Proofs.Command.RoundTrip
import SerialLink.Proofs.Frame.Stream
import SerialLink.Proofs.Scheduler.Sequence

/-!
A confirm completes its command. What a scheduler does with received bytes depends on the payloads
in them only, however they are cut and whenever they come (`Delivery.hears`). A payload that some
command waits for ends it and nothing else (`Hears.confirmed`), and one that none waits for ends
nothing (`Hears.work_eq`). `Run.confirm_ends` puts this together with the way of a command
through its table and its frame.
-/

namespace SerialLink.Scheduler

variable {τ : Type}

/-! ### One payload -/

/-- A payload that no item waits for ends none. -/
theorem acceptPayload_of_unawaited {s : Scheduler τ} {payload : Bytes}
    (unawaited : ∀ command, s.table.decode payload = .ok command →
      ∀ item ∈ s.queue.items, item.awaits command.id command.seq = false) (now : Nat) :
    (s.acceptPayload payload now).queue = s.queue ∧
      (s.acceptPayload payload now).pending = s.pending := by
  cases read : s.table.decode payload with
  | error cause =>
    obtain ⟨metrics, eq⟩ := acceptPayload_of_error read now
    rw [eq]
    exact ⟨rfl, rfl⟩
  | ok command =>
    have none : s.queue.findConfirm? command.id command.seq = none := by
      by_contra found
      obtain ⟨slot, found⟩ := Option.ne_none_iff_exists'.mp found
      obtain ⟨item, held, awaits⟩ := SendQueue.awaits_of_findConfirm? found
      have idle := unawaited command read item (SendQueue.mem_items.mpr ⟨slot, held⟩)
      exact Bool.false_ne_true (idle.symm.trans awaits)
    obtain ⟨metrics, device, wake, events, eq⟩ :=
      (s.countMetric .framesReceived).dispatch_eq command now
    rw [acceptPayload_of_ok read, eq]
    have passed : { s with metrics }.confirm command now = { s with metrics } := by
      unfold confirm
      simp only [none]
    change ({ s with metrics }.confirm command now).queue = s.queue ∧
      ({ s with metrics }.confirm command now).pending = s.pending
    rw [passed]
    exact ⟨rfl, rfl⟩

/-- The item in the slot was confirmed by a command of the device, and nothing else has ended. -/
structure Confirmed (s : Scheduler τ) (slot : Nat) (item : QueueItem) (command : Command)
    (s' : Scheduler τ) : Prop where
  removed : s'.queue.get? slot = none
  others : ∀ other, other ≠ slot → s'.queue.get? other = s.queue.get? other
  pending : s'.pending = s.pending
  /-- The outcome is told to the one who waits for it, if there is one, and events to everyone. -/
  told : ∃ events : List LinkEvent, s'.completions =
    s.completions ++ (item.origin.outcome .success (some command)).toList ++ events.map .event
  counted : s'.counts = { s.counts with confirmed := s.counts.confirmed + 1 }
  inFlight : s'.inFlight + 1 = s.inFlight
  failures : s'.failures = 0

theorem confirmed_acceptPayload {s : Scheduler τ} {payload : Bytes} {command : Command}
    {slot : Nat} {item : QueueItem} (read : s.table.decode payload = .ok command)
    (found : s.queue.findConfirm? command.id command.seq = some slot)
    (held : s.queue.get? slot = some item) (awaits : item.state = .waitConfirm) (now : Nat) :
    s.Confirmed slot item command (s.acceptPayload payload now) := by
  obtain ⟨metrics, device, wake, events, eq⟩ :=
    (s.countMetric .framesReceived).dispatch_eq command now
  obtain ⟨metrics', confirmed⟩ :=
    confirm_of_found (s := { s with metrics }) found held now
  rw [acceptPayload_of_ok read, eq]
  change s.Confirmed slot item command
    ({ { s with metrics }.confirm command now with device, wake }.tell (events.map .event))
  rw [confirmed]
  have fewer := SendQueue.count_remove held .waitConfirm
  rw [if_pos awaits] at fewer
  exact {
    removed := SendQueue.get?_set_self (SendQueue.lt_of_get? held) none
    others := fun other ne => SendQueue.get?_remove_of_ne ne
    pending := rfl
    told := ⟨events, rfl⟩
    counted := rfl
    inFlight := fewer.symm
    failures := rfl }

/-! ### Any number of bytes -/

/-- The scheduler hears payloads one after the other, each at a time of its own, while its transport,
its receiver and its metrics change. -/
inductive Hears : Scheduler τ → List Bytes → Scheduler τ → Prop where
  | nil (s : Scheduler τ) : Hears s [] s
  | aside {s s' : Scheduler τ} {payloads : List Bytes} (transport : τ) (receiver : Receiver)
    (metrics : Recording) (rest : Hears { s with transport, receiver, metrics } payloads s') :
    Hears s payloads s'
  | payload {s s' : Scheduler τ} {payloads : List Bytes} (payload : Bytes) (now : Nat)
    (rest : Hears (s.acceptPayload payload now) payloads s') : Hears s (payload :: payloads) s'

theorem Hears.append {s s' s'' : Scheduler τ} {payloads later : List Bytes}
    (before : Hears s payloads s') (after : Hears s' later s'') :
    Hears s (payloads ++ later) s'' := by
  induction before with
  | nil s => exact after
  | aside transport receiver metrics rest ih => exact .aside transport receiver metrics (ih after)
  | payload payload now rest ih => exact .payload payload now (ih after)

/-- As long as no payload is heard, it stays at that. -/
theorem Confirmed.of_silent {s s' s'' : Scheduler τ} {slot : Nat} {item : QueueItem}
    {command : Command} (confirmed : s.Confirmed slot item command s') (silent : Hears s' [] s'') :
    s.Confirmed slot item command s'' := by
  generalize eq : [] = payloads at silent
  induction silent with
  | nil s => exact confirmed
  | aside transport receiver metrics rest ih =>
    obtain ⟨removed, others, pending, told, counted, inFlight, failures⟩ := confirmed
    exact ih ⟨removed, others, pending, told, counted, inFlight, failures⟩ eq
  | payload payload now rest ih => cases eq

/-- Payloads that no item waits for end none. -/
theorem Hears.work_eq {s s' : Scheduler τ} {payloads : List Bytes} (hears : Hears s payloads s')
    (unawaited : ∀ payload ∈ payloads, ∀ command, s.table.decode payload = .ok command →
      ∀ item ∈ s.queue.items, item.awaits command.id command.seq = false) :
    s'.queue = s.queue ∧ s'.pending = s.pending := by
  induction hears with
  | nil s => exact ⟨rfl, rfl⟩
  | aside transport receiver metrics rest ih => exact ih unawaited
  | @payload s s' payloads payload now rest ih =>
    obtain ⟨first, later⟩ := List.forall_mem_cons.mp unawaited
    obtain ⟨queue, pending⟩ := acceptPayload_of_unawaited first now
    obtain ⟨-, -, table⟩ := s.acceptPayload_frame payload now
    rw [queue, pending, table] at ih
    exact ih later

/-- A payload that an item waits for ends that item and nothing else. -/
theorem Hears.confirmed {s s' : Scheduler τ} {payload : Bytes} {command : Command} {slot : Nat}
    {item : QueueItem} (hears : Hears s [payload] s')
    (read : s.table.decode payload = .ok command)
    (found : s.queue.findConfirm? command.id command.seq = some slot)
    (held : s.queue.get? slot = some item) (awaits : item.state = .waitConfirm) :
    s.Confirmed slot item command s' := by
  generalize eq : [payload] = payloads at hears
  induction hears with
  | nil s => cases eq
  | aside transport receiver metrics rest ih =>
    obtain ⟨removed, others, pending, told, counted, inFlight, failures⟩ := ih read found held eq
    exact ⟨removed, others, pending, told, counted, inFlight, failures⟩
  | payload payload now rest ih =>
    cases eq
    exact (confirmed_acceptPayload read found held awaits now).of_silent rest

theorem hears_acceptByte (s : Scheduler τ) (b : UInt8) (now : Nat) :
    Hears s (s.receiver.feed b).1.toList (s.acceptByte now b) := by
  unfold acceptByte
  cases fed : s.receiver.feed b with
  | mk payload? receiver =>
    cases payload? with
    | none => exact .aside s.transport receiver s.metrics (.nil _)
    | some payload => exact .aside s.transport receiver s.metrics (.payload payload now (.nil _))

theorem hears_acceptBytes (s : Scheduler τ) (bytes : Bytes) (now : Nat) :
    Hears s (s.receiver.feedAll bytes).1 (bytes.foldl (acceptByte now) s) ∧
      (bytes.foldl (acceptByte now) s).receiver = (s.receiver.feedAll bytes).2 ∧
      (bytes.foldl (acceptByte now) s).session = s.session := by
  induction bytes generalizing s with
  | nil => exact ⟨.nil s, rfl, rfl⟩
  | cons b bytes ih =>
    have first := s.hears_acceptByte b now
    obtain ⟨receiver, session, -⟩ := s.acceptByte_frame b now
    obtain ⟨rest, receiver', session'⟩ := ih (s.acceptByte now b)
    rw [receiver] at rest receiver'
    rw [Receiver.feedAll_cons]
    exact ⟨first.append rest, receiver', session'.trans session⟩

theorem countReceiverErrors_frame (s : Scheduler τ) (before : ReceiverCounts) :
    (s.countReceiverErrors before).receiver = s.receiver ∧
      (s.countReceiverErrors before).session = s.session := by
  obtain ⟨metrics, counted⟩ := s.countReceiverErrors_eq before
  rw [counted]
  exact ⟨rfl, rfl⟩

theorem Hears.counting {s s' : Scheduler τ} {payloads : List Bytes} (hears : Hears s payloads s')
    (before : ReceiverCounts) : Hears s payloads (s'.countReceiverErrors before) := by
  obtain ⟨metrics, counted⟩ := s'.countReceiverErrors_eq before
  have rest := hears.append (.aside s'.transport s'.receiver metrics (.nil _))
  rw [List.append_nil] at rest
  rwa [counted]

variable [Transport τ]

theorem hears_processInbound (s : Scheduler τ) (now : Nat) :
    Hears s (s.receiver.feedAll (Transport.receive s.transport).1).1 (s.processInbound now) ∧
      (s.processInbound now).receiver =
        (s.receiver.feedAll (Transport.receive s.transport).1).2 ∧
      (s.processInbound now).session = s.session := by
  unfold processInbound
  dsimp only
  split
  · rename_i empty
    rw [List.isEmpty_iff.mp empty]
    exact ⟨.aside _ s.receiver s.metrics (.nil _), rfl, rfl⟩
  · obtain ⟨heard, receiver, session⟩ :=
      hears_acceptBytes { s with transport := (Transport.receive s.transport).2 }
        (Transport.receive s.transport).1 now
    refine ⟨.aside _ s.receiver s.metrics (heard.counting s.receiver.counts), ?_, ?_⟩
    · exact (countReceiverErrors_frame _ _).1.trans receiver
    · exact (countReceiverErrors_frame _ _).2.trans session

/-- The transport reports that bytes can be received, any number of times, and hands over these.
Before each report it may change in any way. -/
inductive Delivery (session : Nat) : Scheduler τ → List Bytes → Scheduler τ → Prop where
  | nil (s : Scheduler τ) : Delivery session s [] s
  | cons {s s' : Scheduler τ} {chunk : Bytes} {chunks : List Bytes} (change : τ → τ) (now : Nat)
    (received : (Transport.receive (change s.transport)).1 = chunk)
    (rest : Delivery session ((s.mapTransport change).handleEvent ⟨session, .readable⟩ now) chunks
      s') : Delivery session s (chunk :: chunks) s'

/-- Of the bytes only the payloads in them matter. -/
theorem Delivery.hears {session : Nat} {s s' : Scheduler τ} {chunks : List Bytes}
    (delivery : Delivery session s chunks s') (joined : s.session = some session) :
    Hears s (s.receiver.feedAll chunks.flatten).1 s' := by
  induction delivery with
  | nil s => exact .nil s
  | @cons s s' chunk chunks change now received rest ih =>
    have heard : (s.mapTransport change).handleEvent ⟨session, .readable⟩ now =
        (s.mapTransport change).processInbound now := by
      unfold handleEvent
      exact if_neg (not_not.mpr joined)
    rw [heard] at ih
    obtain ⟨first, receiver, session⟩ := (s.mapTransport change).hears_processInbound now
    have rest := ih (session.trans joined)
    rw [receiver] at rest
    have received : (Transport.receive (s.mapTransport change).transport).1 = chunk := received
    rw [received] at first rest
    rw [List.flatten_cons, Receiver.feedAll_append]
    exact .aside (change s.transport) s.receiver s.metrics (first.append rest)

/-! ### Runs -/

/-- The receiver stays as large as it was made. -/
theorem Step.capacity_receiver {s s' : Scheduler τ} {deed : Deed} (step : Step s deed s') :
    s'.receiver.capacity = s.receiver.capacity := by
  cases step with
  | quiet aside =>
    cases aside with
    | @byte b _ fed | @frame b _ _ fed =>
      have kept := s.receiver.capacity_feed b
      rw [fed] at kept
      exact kept
    | _ => rfl
  | _ => rfl

theorem Run.capacity_receiver {start s : Scheduler τ} {trace : Trace τ} (run : Run start trace s) :
    s.receiver.capacity = start.receiver.capacity := by
  refine run.keep (fun s => s.receiver.capacity = start.receiver.capacity) ?_ rfl
  intro s s' deed step kept
  exact step.capacity_receiver.trans kept

/-- **A confirm ends exactly its command.** Let a session run, and let no byte of a body have been
received. A command of the device with the id and the sequence number of an item that waits for its
confirm, sent in a frame that is received in any number of pieces, ends that item and no other: it
leaves its slot, success is told to the one who waits for it, with the command if that is a callback,
and the failures are forgotten. On the other hand, received bytes leave the queued items and the bulk
requests as they are if no payload in them is a command that some item waits for. -/
theorem Run.confirm_ends {start s : Scheduler τ} {trace : Trace τ} {session : Nat}
    (fresh : start.Fresh) (made : start.table.Registered) (run : Run start trace s)
    (joined : s.session = some session) :
    (∀ (slot : Nat) (item : QueueItem) (layout : Layout) (command : Command) (payload : Bytes)
        (chunks : List Bytes) (s' : Scheduler τ),
      s.receiver.buffer = #[] → s.receiver.escaped = false →
      s.queue.get? slot = some item → item.state = .waitConfirm →
      start.table.layout? item.command.id = some layout →
      command.id = item.command.id → command.seq = item.command.seq →
      start.table.encode command Command.maxLength = .ok payload →
      chunks.flatten = Frame.encode payload → Delivery session s chunks s' →
        s.Confirmed slot item command s') ∧
    ∀ (chunks : List Bytes) (s' : Scheduler τ), Delivery session s chunks s' →
      (∀ payload ∈ (s.receiver.feedAll chunks.flatten).1, ∀ command,
        start.table.decode payload = .ok command →
        ∀ item ∈ s.queue.items, item.awaits command.id command.seq = false) →
      s'.queue = s.queue ∧ s'.pending = s.pending := by
  obtain ⟨deeds, steps, -⟩ := run.steps
  obtain ⟨-, table⟩ := steps.made_eq
  constructor
  · intro slot item layout command payload chunks s' empty plain held awaits known id seq written
      pieces delivery
    rw [← id] at known
    have other := made.ne_acknowledge known
    have read := CommandTable.decode_of_carries
      (CommandTable.carries_of_encode known other written)
    rw [← table] at read
    have capacity : s.receiver.capacity = 512 := by
      cases fresh with
      | mk => exact run.capacity_receiver
    have short := CommandTable.length_le_of_encode known other written
    have room : payload.length + Frame.trailerLength ≤ s.receiver.capacity := by
      rw [capacity]
      exact Nat.le_trans (Nat.add_le_add_right short _) (by decide)
    -- The opening delimiter completes nothing, since no byte of a body has been received.
    have silent : (s.receiver.feed Frame.delimiter).1 = none := by
      refine Receiver.feed_delimiter_none (.inr ?_)
      rw [empty]
      decide
    have hears := delivery.hears joined
    rw [pieces, Receiver.feedAll_encode room, silent] at hears
    have distinct : s.queue.SeqsDistinct := by
      refine run.keep (fun s => s.queue.SeqsDistinct) ?_ ?_
      · intro s s' deed step distinct
        exact step.queueStep.seqsDistinct distinct
      · cases fresh with
        | mk => exact SendQueue.seqsDistinct_empty
    have found : s.queue.findConfirm? command.id command.seq = some slot :=
      distinct.findConfirm?_iff.mpr ⟨item, held, decide_eq_true ⟨awaits, id.symm, seq.symm⟩⟩
    exact hears.confirmed read found held awaits
  · intro chunks s' delivery unawaited
    refine (delivery.hears joined).work_eq ?_
    rw [table]
    exact unawaited

/-- Two commands are in flight. The device confirms the later one, in two pieces with nothing between
them. -/
theorem Run.confirm_ends_of_twoInFlight :
    ∃ (item : QueueItem) (s' : Scheduler SimulatedTransport),
      let command : Command := { id := Command.version, seq := 2, values := [.u32 7] }
      let frame := Frame.encode [13, 2, 0, 9, 0, 7, 0, 0, 0]
      Fresh ({ transport := { autoConnect := true } } : Scheduler SimulatedTransport) ∧
      CommandTable.builtin.Registered ∧
      Run { transport := { autoConnect := true } } twoInFlight.1 twoInFlight.2 ∧
      twoInFlight.2.session = some 1 ∧ twoInFlight.2.inFlight = 2 ∧
      Delivery 1 twoInFlight.2 [frame.take 4, [], frame.drop 4] s' ∧
      twoInFlight.2.Confirmed 1 item command s' := by
  let command : Command := { id := Command.version, seq := 2, values := [.u32 7] }
  let frame := Frame.encode [13, 2, 0, 9, 0, 7, 0, 0, 0]
  have fresh : Fresh ({ transport := { autoConnect := true } } : Scheduler SimulatedTransport) :=
    .mk _ _ _ _ _
  have run : Run { transport := { autoConnect := true } } twoInFlight.1 twoInFlight.2 :=
    run_performAll _ _
  have joined : twoInFlight.2.session = some 1 := by decide +kernel
  let item : QueueItem :=
    { command := { id := Command.version, seq := 2, values := [.u32 0] }, state := .waitConfirm,
      sentAt := some 5, firstSentAt := some 5, origin := .caller (some ⟨2⟩) }
  have held : twoInFlight.2.queue.get? 1 = some item := by decide +kernel
  have written : CommandTable.builtin.encode command Command.maxLength =
      .ok [13, 2, 0, 9, 0, 7, 0, 0, 0] := by decide +kernel
  have delivery : Delivery 1 twoInFlight.2 [frame.take 4, [], frame.drop 4] _ :=
    .cons (fun t => t.arrive (frame.take 4)) 6 (by decide +kernel) <|
      .cons id 7 (by decide +kernel) <|
      .cons (fun t => t.arrive (frame.drop 4)) 8 (by decide +kernel) (.nil _)
  have confirmed := (confirm_ends fresh .builtin run joined).1 1 item _ command _ _ _
    (by decide +kernel) (by decide +kernel) held rfl rfl rfl rfl written (by decide +kernel) delivery
  exact ⟨item, _, fresh, .builtin, run, joined, by decide +kernel, delivery, confirmed⟩

end SerialLink.Scheduler
