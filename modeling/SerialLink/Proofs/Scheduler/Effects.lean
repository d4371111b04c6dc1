import SerialLink.Proofs.Command.Writing
import SerialLink.Proofs.Scheduler.Step

/-!
What a step does to the parts of a scheduler. The queue changes in five ways only (`QueueStep`);
what is collected to be told grows by what the deed says, and is handed out as a whole
(`Step.completions_append`); and the session changes when one starts or ends
(`Step.session_eq`).
-/

namespace SerialLink

/-- What an item keeps from its submission to its end. -/
def QueueItem.work (item : QueueItem) : Origin × Command := (item.origin, item.command)

namespace Scheduler

variable {τ : Type}

@[simp] theorem tell_nil (s : Scheduler τ) : s.tell [] = s := by
  unfold tell
  rw [List.append_nil]

theorem tell_tell (s : Scheduler τ) (first second : List Completion) :
    (s.tell first).tell second = s.tell (first ++ second) := by
  unfold tell
  rw [List.append_assoc]

/-! ### Insertions -/

theorem insert_eq_ok {s s' : Scheduler τ} {command : Command} {origin : Origin}
    {handle : ItemHandle} (inserted : s.insert command origin = (.ok handle, s')) :
    ∃ (payload : Bytes) (queue : SendQueue) (wake : Bool),
      s.table.encode command Command.maxLength = .ok payload ∧ s.queue.isFull = false ∧
      handle.seq = s.queue.freeSeq s.lastSeq ∧
      s.queue.insert? (handle.item command origin) = some (handle.slot, queue) ∧
      s' = s.taking handle queue wake := by
  unfold insert at inserted
  cases written : s.table.encode command Command.maxLength with
  | error cause =>
    rw [written] at inserted
    cases inserted
  | ok payload =>
    rw [written] at inserted
    cases full : s.queue.isFull with
    | true =>
      simp only [full, if_true] at inserted
      cases inserted
    | false =>
      simp only [full, Bool.false_eq_true, if_false] at inserted
      cases placed : s.queue.insert?
          { command := { command with seq := s.queue.freeSeq s.lastSeq }, origin } with
      | none =>
        rw [placed] at inserted
        cases inserted
      | some place =>
        obtain ⟨slot, queue⟩ := place
        rw [placed] at inserted
        cases inserted
        exact ⟨payload, queue, _, rfl, rfl, rfl, placed, rfl⟩

/-- A refused command leaves no trace. It cannot be written, or else the queue is full. -/
theorem insert_eq_error {s s' : Scheduler τ} {command : Command} {origin : Origin}
    {fault : ScheduleFault} (refused : s.insert command origin = (.error fault, s')) :
    s' = s ∧
      ((∃ cause, s.table.encode command Command.maxLength = .error cause ∧
          fault = .rejected cause) ∨
        (∃ payload, s.table.encode command Command.maxLength = .ok payload) ∧
          s.queue.isFull = true ∧ fault = .queueFull SendQueue.capacity) := by
  unfold insert at refused
  cases written : s.table.encode command Command.maxLength with
  | error cause =>
    rw [written] at refused
    cases refused
    exact ⟨rfl, .inl ⟨cause, rfl, rfl⟩⟩
  | ok payload =>
    rw [written] at refused
    cases full : s.queue.isFull with
    | true =>
      simp only [full, if_true] at refused
      cases refused
      exact ⟨rfl, .inr ⟨⟨payload, rfl⟩, rfl, rfl⟩⟩
    | false =>
      simp only [full, Bool.false_eq_true, if_false] at refused
      -- There is a free slot, so the branch without one is not taken.
      obtain ⟨place, placed⟩ := Option.isSome_iff_exists.mp (SendQueue.insert?_isSome full
        { command := { command with seq := s.queue.freeSeq s.lastSeq }, origin })
      rw [placed] at refused
      cases refused

/-- An insertion leaves all but the queue, the numbering and the gauges alone. -/
theorem insert_frame (s : Scheduler τ) (command : Command) (origin : Origin) :
    ∃ (queue : SendQueue) (lastSeq : UInt8) (wake : Bool) (metrics : Recording),
      (s.insert command origin).2 = { s with queue, lastSeq, wake, metrics } := by
  cases inserted : s.insert command origin with
  | mk result s' =>
    cases result with
    | error fault =>
      rw [(insert_eq_error inserted).1]
      exact ⟨s.queue, s.lastSeq, s.wake, s.metrics, rfl⟩
    | ok handle =>
      obtain ⟨_, queue, wake, -, -, -, -, rfl⟩ := insert_eq_ok inserted
      exact ⟨queue, handle.seq, wake, _, rfl⟩

theorem enqueueOwn_frame (s : Scheduler τ) (id : UInt8) :
    ∃ (queue : SendQueue) (lastSeq : UInt8) (wake : Bool) (metrics : Recording),
      s.enqueueOwn id = { s with queue, lastSeq, wake, metrics } := by
  unfold enqueueOwn
  split
  · exact ⟨s.queue, s.lastSeq, s.wake, s.metrics, rfl⟩
  · exact s.insert_frame _ _

/-- The oldest bulk request leaves all but the work, the completions and the gauges alone. -/
theorem materialize_frame (s : Scheduler τ) :
    ∃ (queue : SendQueue) (pending : PendingRing) (lastSeq : UInt8) (wake : Bool)
      (completions : List Completion) (metrics : Recording),
      s.materialize = { s with queue, pending, lastSeq, wake, completions, metrics } := by
  unfold materialize
  cases popped : s.pending.pop with
  | mk id? pending =>
    cases id? with
    | none => exact ⟨s.queue, pending, s.lastSeq, s.wake, s.completions, s.metrics, rfl⟩
    | some id =>
      dsimp only
      cases s.resolve id with
      | none => exact ⟨s.queue, pending, s.lastSeq, s.wake, _, s.metrics, rfl⟩
      | some command =>
        dsimp only
        obtain ⟨queue, lastSeq, wake, metrics, eq⟩ :=
          insert_frame { s with pending } command (.request id)
        cases inserted : { s with pending }.insert command (.request id) with
        | mk result s' =>
          rw [inserted] at eq
          dsimp only at eq
          subst eq
          cases result <;> exact ⟨queue, pending, lastSeq, wake, _, metrics, rfl⟩

theorem scheduleBackground_frame (s : Scheduler τ) (now : Nat) :
    ∃ (queue : SendQueue) (pending : PendingRing) (lastSeq : UInt8) (wake : Bool)
      (completions : List Completion) (metrics : Recording),
      s.scheduleBackground now =
        { s with queue, pending, lastSeq, wake, completions, metrics } := by
  have own (id : UInt8) :
      ∃ (queue : SendQueue) (pending : PendingRing) (lastSeq : UInt8) (wake : Bool)
        (completions : List Completion) (metrics : Recording),
        s.enqueueOwn id = { s with queue, pending, lastSeq, wake, completions, metrics } := by
    obtain ⟨queue, lastSeq, wake, metrics, eq⟩ := s.enqueueOwn_frame id
    exact ⟨queue, s.pending, lastSeq, wake, s.completions, metrics, eq⟩
  unfold scheduleBackground
  split
  · exact ⟨s.queue, s.pending, s.lastSeq, s.wake, s.completions, s.metrics, rfl⟩
  split
  · exact own _
  split
  · exact own _
  split
  · exact own _
  split
  · exact s.materialize_frame
  · exact ⟨s.queue, s.pending, s.lastSeq, s.wake, s.completions, s.metrics, rfl⟩

theorem scheduleBackground_connection (s : Scheduler τ) (now : Nat) :
    (s.scheduleBackground now).connection = s.connection := by
  obtain ⟨_, _, _, _, _, _, eq⟩ := s.scheduleBackground_frame now
  rw [eq]

/-! ### What can be written -/

/-- Every queued command can be written. -/
def Writable (s : Scheduler τ) : Prop :=
  ∀ ⦃slot : Nat⦄ ⦃item : QueueItem⦄, s.queue.get? slot = some item →
    ∃ payload, s.table.encode item.command Command.maxLength = .ok payload

/-- A command is refused first if it cannot be written. -/
theorem encode_of_insert {s s' : Scheduler τ} {command : Command} {origin : Origin}
    {handle : ItemHandle} (inserted : s.insert command origin = (.ok handle, s')) :
    ∃ payload, s.table.encode (handle.item command origin).command Command.maxLength =
      .ok payload := by
  obtain ⟨payload, _, _, written, -⟩ := insert_eq_ok inserted
  refine ⟨payload.set 1 handle.seq, ?_⟩
  change s.table.encode { command with seq := handle.seq } Command.maxLength = _
  rw [CommandTable.encode_withSeq, written]
  rfl

/-! ### The queue -/

/-- What a step does to the queue. -/
inductive QueueStep : SendQueue → Deed → SendQueue → Prop where
  | keep {deed : Deed} (q : SendQueue) (apart : deed.onQueue = false) : QueueStep q deed q
  | enter {q q' : SendQueue} {slot : Nat} {item : QueueItem}
    (unused : q.usesSeq item.command.seq = false)
    (inserted : q.insert? item = some (slot, q'))
    (new : item = { command := item.command, origin := item.origin }) :
    QueueStep q (.queued slot item) q'
  | send {q : SendQueue} {slot : Nat} {item : QueueItem} {frame : Bytes} {now : Nat}
    (held : q.get? slot = some item) :
    QueueStep q (.sent slot item frame now)
      ((q.modify slot (QueueItem.sending now)).markSent slot)
  | retry {q : SendQueue} {slot : Nat} {item : QueueItem} {now : Nat}
    (held : q.get? slot = some item) :
    QueueStep q (.retried slot item now) (q.modify slot QueueItem.again)
  | leave {q : SendQueue} {slot : Nat} {item : QueueItem} {status : CompletionStatus}
    {response : Option Command} {now : Nat} (held : q.get? slot = some item) :
    QueueStep q (.ended slot item status response now) (q.remove slot).2
  | clear (q : SendQueue) (ids : List RequestId) (status : CompletionStatus) :
    QueueStep q (.killed q.items ids status) {}

theorem queueStep_of_insert {s s' : Scheduler τ} {command : Command} {origin : Origin}
    {handle : ItemHandle} (inserted : s.insert command origin = (.ok handle, s')) :
    QueueStep s.queue (.queued handle.slot (handle.item command origin)) s'.queue := by
  obtain ⟨_, queue, _, -, -, number, placed, rfl⟩ := insert_eq_ok inserted
  refine .enter ?_ placed rfl
  have unused := s.queue.usesSeq_freeSeq s.lastSeq
  rwa [← number] at unused

theorem expire_of_retry {s : Scheduler τ} {slot : Nat} {item : QueueItem}
    (held : s.queue.get? slot = some item) (left : item.retries < s.settings.maxRetries) :
    s.expire slot = s.puttingBack slot item := by
  unfold expire
  simp only [held, if_pos left]
  rfl

theorem expire_of_spent {s : Scheduler τ} {slot : Nat} {item : QueueItem}
    (held : s.queue.get? slot = some item) (spent : ¬ item.retries < s.settings.maxRetries) :
    s.expire slot = s.givingUp slot item := by
  unfold expire
  simp only [held, if_neg spent]
  rfl

/-- Of the slots only the one itself changes. -/
theorem expire_frame (s : Scheduler τ) (slot : Nat) :
    (s.expire slot).connection = s.connection ∧ (s.expire slot).settings = s.settings ∧
      (s.expire slot).transport = s.transport ∧ (s.expire slot).pending = s.pending ∧
      ∀ other, other ≠ slot → (s.expire slot).queue.get? other = s.queue.get? other := by
  cases held : s.queue.get? slot with
  | none =>
    unfold expire
    rw [held]
    exact ⟨rfl, rfl, rfl, rfl, fun _ _ => rfl⟩
  | some item =>
    by_cases left : item.retries < s.settings.maxRetries
    · rw [expire_of_retry held left]
      exact ⟨rfl, rfl, rfl, rfl, fun other ne => SendQueue.get?_modify_of_ne ne _⟩
    · rw [expire_of_spent held left]
      exact ⟨rfl, rfl, rfl, rfl, fun other ne => SendQueue.get?_remove_of_ne ne⟩

theorem foldl_expire_frame (s : Scheduler τ) (slots : List Nat) :
    (slots.foldl expire s).connection = s.connection ∧
      (slots.foldl expire s).settings = s.settings ∧
      (slots.foldl expire s).transport = s.transport ∧
      (slots.foldl expire s).pending = s.pending := by
  induction slots generalizing s with
  | nil => exact ⟨rfl, rfl, rfl, rfl⟩
  | cons slot slots ih =>
    obtain ⟨connection, settings, transport, pending, -⟩ := s.expire_frame slot
    obtain ⟨connection', settings', transport', pending'⟩ := ih (s.expire slot)
    exact ⟨connection'.trans connection, settings'.trans settings, transport'.trans transport,
      pending'.trans pending⟩

theorem nodup_expired (s : Scheduler τ) (now : Nat) : (s.expired now).Nodup :=
  s.queue.nodup_entries.sublist (List.filter_sublist.map Prod.fst)

theorem mem_expired {s : Scheduler τ} {now slot : Nat} :
    slot ∈ s.expired now ↔
      ∃ item, s.queue.get? slot = some item ∧ s.overdue now item = true := by
  constructor
  · intro listed
    obtain ⟨⟨slot', item⟩, mem, rfl⟩ := List.mem_map.mp listed
    obtain ⟨entry, overdue⟩ := List.mem_filter.mp mem
    exact ⟨item, SendQueue.mem_entries.mp entry, overdue⟩
  · rintro ⟨item, held, overdue⟩
    have entry := SendQueue.mem_entries.mpr held
    exact List.mem_map.mpr ⟨(slot, item), List.mem_filter.mpr ⟨entry, overdue⟩, rfl⟩

theorem confirm_of_found {s : Scheduler τ} {command : Command} {slot : Nat} {item : QueueItem}
    (found : s.queue.findConfirm? command.id command.seq = some slot)
    (held : s.queue.get? slot = some item) (now : Nat) :
    ∃ metrics : Recording,
      s.confirm command now = s.confirming slot item command now metrics := by
  unfold confirm
  simp only [found, SendQueue.remove, held]
  cases item.firstSentAt with
  | none => exact ⟨s.metrics, rfl⟩
  | some sent => exact ⟨_, rfl⟩

/-- What is held after a step was held before and the step is not about its slot, or it entered, was
sent or was put back by the step. -/
theorem QueueStep.held {q q' : SendQueue} {deed : Deed} (step : QueueStep q deed q') {slot : Nat}
    {item : QueueItem} (held : q'.get? slot = some item) :
    q.get? slot = some item ∧ deed.slot? ≠ some slot ∨
      (deed = .queued slot item ∧ item = { command := item.command, origin := item.origin }) ∨
      (∃ old frame now, deed = .sent slot old frame now ∧ q.get? slot = some old ∧
        item = old.sending now) ∨
      ∃ old now, deed = .retried slot old now ∧ q.get? slot = some old ∧ item = old.again := by
  -- The step is about the slot `other`, so what another slot holds is as it was.
  have apart {other : Nat} (ne : slot ≠ other) : some other ≠ some slot :=
    fun same => ne (Option.some.inj same).symm
  cases step with
  | keep _ away =>
    rw [Deed.slot?_of_not_onQueue away]
    exact .inl ⟨held, nofun⟩
  | enter unused inserted new =>
    rcases SendQueue.get?_insert?_eq_some inserted held with ⟨rfl, rfl⟩ | ⟨ne, kept⟩
    · exact .inr (.inl ⟨rfl, new⟩)
    · exact .inl ⟨kept, apart ne⟩
  | @send _ _ _ frame now sent =>
    rcases SendQueue.get?_modify_cases held with ⟨rfl, old, before, eq⟩ | ⟨ne, kept⟩
    · cases sent.symm.trans before
      exact .inr (.inr (.inl ⟨_, frame, now, rfl, before, eq⟩))
    · exact .inl ⟨kept, apart ne⟩
  | @retry _ _ _ now retried =>
    rcases SendQueue.get?_modify_cases held with ⟨rfl, old, before, eq⟩ | ⟨ne, kept⟩
    · cases retried.symm.trans before
      exact .inr (.inr (.inr ⟨_, now, rfl, before, eq⟩))
    · exact .inl ⟨kept, apart ne⟩
  | leave left =>
    obtain ⟨ne, before⟩ := SendQueue.get?_remove_eq_some held
    exact .inl ⟨before, apart ne⟩
  | clear =>
    rw [SendQueue.get?_empty] at held
    cases held

/-- What is held before a step is held after it, unless the step sends it, puts it back, ends it or
fails everything. -/
theorem QueueStep.stays {q q' : SendQueue} {deed : Deed} (step : QueueStep q deed q') {slot : Nat}
    {item : QueueItem} (held : q.get? slot = some item) :
    q'.get? slot = some item ∨ (∃ frame now, deed = .sent slot item frame now) ∨
      (∃ now, deed = .retried slot item now) ∨
      (∃ status response now, deed = .ended slot item status response now) ∨
      ∃ items ids status, deed = .killed items ids status := by
  cases step with
  | keep => exact .inl held
  | @enter _ _ other item' _ inserted =>
    obtain ⟨-, free, rfl⟩ := SendQueue.insert?_eq_some inserted
    have ne : slot ≠ other := by
      rintro rfl
      cases free.symm.trans held
    exact .inl ((SendQueue.get?_set_of_ne ne (some item')).trans held)
  | @send _ other _ frame now sent =>
    by_cases same : slot = other
    · subst same
      cases held.symm.trans sent
      exact .inr (.inl ⟨frame, now, rfl⟩)
    · exact .inl ((SendQueue.get?_modify_of_ne same (QueueItem.sending now)).trans held)
  | @retry _ other _ now retried =>
    by_cases same : slot = other
    · subst same
      cases held.symm.trans retried
      exact .inr (.inr (.inl ⟨now, rfl⟩))
    · exact .inl ((SendQueue.get?_modify_of_ne same QueueItem.again).trans held)
  | @leave _ other _ status response now left =>
    by_cases same : slot = other
    · subst same
      cases held.symm.trans left
      exact .inr (.inr (.inr (.inl ⟨status, response, now, rfl⟩)))
    · exact .inl ((SendQueue.get?_remove_of_ne same).trans held)
  | clear _ ids status => exact .inr (.inr (.inr (.inr ⟨_, ids, status, rfl⟩)))

/-- The work that was queued and that enters is the work that leaves and that is queued then. -/
theorem QueueStep.work_perm {q q' : SendQueue} {deed : Deed} (step : QueueStep q deed q') :
    ((q.items ++ deed.entering).map QueueItem.work).Perm
      ((deed.leaving ++ q'.items).map QueueItem.work) := by
  -- A change that keeps the work of one item keeps the work of all.
  have changed {slot : Nat} {item : QueueItem} {change : QueueItem → QueueItem}
      (held : q.get? slot = some item) (kept : (change item).work = item.work) :
      (q.items.map QueueItem.work).Perm ((q.modify slot change).items.map QueueItem.work) := by
    obtain ⟨before, after⟩ := SendQueue.perm_items_modify held change
    have before := before.map QueueItem.work
    have after := after.map QueueItem.work
    rw [List.map_cons, kept] at after
    exact before.trans after.symm
  cases step with
  | keep _ apart =>
    obtain ⟨entering, leaving⟩ := Deed.eq_nil_of_not_onQueue apart
    rw [entering, leaving, List.append_nil]
    exact .refl _
  | enter unused inserted =>
    refine List.Perm.map _ ?_
    exact List.perm_append_comm.trans (SendQueue.perm_items_insert? inserted).symm
  | send held =>
    simp only [Deed.entering, List.append_nil]
    exact changed held rfl
  | retry held =>
    simp only [Deed.entering, List.append_nil]
    exact changed held rfl
  | leave held =>
    simp only [Deed.entering, List.append_nil]
    exact (SendQueue.perm_items_remove held).map _
  | clear _ ids status =>
    simp only [Deed.entering, Deed.leaving, SendQueue.items_empty, List.append_nil]
    exact .refl _

theorem countReceiverErrors_eq (s : Scheduler τ) (before : ReceiverCounts) :
    ∃ metrics : Recording, s.countReceiverErrors before = { s with metrics } := by
  unfold countReceiverErrors
  dsimp only
  split <;> split <;> split <;> exact ⟨_, rfl⟩

variable [Transport τ]

theorem Aside.work_eq {s s' : Scheduler τ} (aside : Aside s s') :
    s'.queue = s.queue ∧ s'.lastSeq = s.lastSeq ∧ s'.pending = s.pending ∧
      s'.completions = s.completions := by
  cases aside <;> exact ⟨rfl, rfl, rfl, rfl⟩

theorem Step.queueStep {s s' : Scheduler τ} {deed : Deed} (step : Step s deed s') :
    QueueStep s.queue deed s'.queue := by
  cases step with
  | quiet aside =>
    rw [aside.work_eq.1]
    exact .keep _ rfl
  | queueCaller _ inserted | queueOwn _ _ _ _ inserted => exact queueStep_of_insert inserted
  | queueRequest _ _ _ _ inserted =>
    have entered := queueStep_of_insert inserted
    exact entered
  | send now _ _ _ held => exact .send held
  | discard now _ held => exact .leave held
  | retry _ held => exact .retry held
  | giveUp _ held => exact .leave held
  | confirm found held => exact .leave held
  | kill status => exact .clear _ _ _
  | _ => exact .keep _ rfl

/-- Settings and table are those that the scheduler was made with. -/
theorem Step.made_eq {s s' : Scheduler τ} {deed : Deed} (step : Step s deed s') :
    s'.settings = s.settings ∧ s'.table = s.table := by
  cases step with
  | quiet aside => cases aside <;> exact ⟨rfl, rfl⟩
  | _ => exact ⟨rfl, rfl⟩

theorem Steps.made_eq {s s' : Scheduler τ} {deeds : List Deed} (steps : Steps s deeds s') :
    s'.settings = s.settings ∧ s'.table = s.table := by
  induction steps with
  | nil s => exact ⟨rfl, rfl⟩
  | cons step rest ih =>
    obtain ⟨settings, table⟩ := step.made_eq
    exact ⟨ih.1.trans settings, ih.2.trans table⟩

/-- The resolver is the same until another one is set. -/
theorem Step.resolve_eq {s s' : Scheduler τ} {deed : Deed} (step : Step s deed s')
    (kept : deed ≠ .resolverSet) : s'.resolve = s.resolve := by
  cases step with
  | setResolver => exact absurd rfl kept
  | quiet aside => cases aside <;> rfl
  | _ => rfl

theorem Steps.resolve_eq {s s' : Scheduler τ} {deeds : List Deed} (steps : Steps s deeds s')
    (kept : ∀ deed ∈ deeds, deed ≠ .resolverSet) : s'.resolve = s.resolve := by
  induction steps with
  | nil s => rfl
  | cons step rest ih =>
    obtain ⟨first, later⟩ := List.forall_mem_cons.mp kept
    exact (ih later).trans (step.resolve_eq first)

theorem Step.writable {s s' : Scheduler τ} {deed : Deed} (step : Step s deed s')
    (writable : s.Writable) : s'.Writable := by
  obtain ⟨-, table⟩ := step.made_eq
  intro slot item held
  rw [table]
  rcases step.queueStep.held held with
    ⟨kept, -⟩ | ⟨rfl, -⟩ | ⟨old, frame, now, -, before, rfl⟩ | ⟨old, now, -, before, rfl⟩
  · exact writable kept
  · cases step with
    | queueCaller _ inserted | queueOwn _ _ _ _ inserted => exact encode_of_insert inserted
    | queueRequest _ _ _ _ inserted =>
      have written := encode_of_insert inserted
      exact written
  -- Sending an item or putting it back leaves its command as it was.
  · have written := writable before
    exact written
  · have written := writable before
    exact written

/-! ### The work -/

theorem Steps.work_perm {s s' : Scheduler τ} {deeds : List Deed} (steps : Steps s deeds s') :
    ((s.queue.items ++ deeds.flatMap Deed.entering).map QueueItem.work).Perm
      ((deeds.flatMap Deed.leaving ++ s'.queue.items).map QueueItem.work) := by
  induction steps with
  | nil s => rw [List.flatMap_nil, List.flatMap_nil, List.append_nil, List.nil_append]
  | cons step rest ih =>
    rename_i s s' s'' deed deeds
    have first := step.queueStep.work_perm
    simp only [List.flatMap_cons, List.map_append] at first ih ⊢
    rw [← List.append_assoc, List.append_assoc (deed.leaving.map _)]
    refine (first.append_right _).trans ?_
    rw [List.append_assoc]
    exact ih.append_left _

/-! ### What is told -/

/-- What is collected grows by what the deed tells, or is handed out. -/
theorem Step.completions_append {s s' : Scheduler τ} {deed : Deed} (step : Step s deed s') :
    s.completions ++ deed.completions = deed.handedOut ++ s'.completions := by
  cases step with
  | quiet aside =>
    rw [aside.work_eq.2.2.2]
    exact List.append_nil _
  | submit | queueCaller | queueOwn | queueRequest | skipRequest | send | turnBack | retry | leave
  | start | startFailed | tearDown | setResolver | change => exact List.append_nil _
  | _ => rfl

/-- All that was told in a row of steps was handed out or is still collected. -/
theorem Steps.completions_append {s s' : Scheduler τ} {deeds : List Deed}
    (steps : Steps s deeds s') :
    s.completions ++ deeds.flatMap Deed.completions =
      deeds.flatMap Deed.handedOut ++ s'.completions := by
  induction steps with
  | nil s => exact List.append_nil _
  | cons step rest ih =>
    rw [List.flatMap_cons, List.flatMap_cons, ← List.append_assoc, step.completions_append,
      List.append_assoc, ih, List.append_assoc]

/-! ### The session -/

/-- The session that is accepted after the deed. -/
def Deed.sessionAfter (session : Option Nat) : Deed → Option Nat
  | .opened (some started) => some started
  | .told (.disconnected _) => none
  | _ => session

theorem Step.session_eq {s s' : Scheduler τ} {deed : Deed} (step : Step s deed s') :
    s'.session = deed.sessionAfter s.session := by
  cases step with
  | quiet aside => cases aside <;> rfl
  | _ => rfl

/-- The history tells which session is accepted. -/
theorem Steps.session_eq {s s' : Scheduler τ} {deeds : List Deed} (steps : Steps s deeds s') :
    s'.session = deeds.foldl Deed.sessionAfter s.session := by
  induction steps with
  | nil s => rfl
  | cons step rest ih => rw [ih, step.session_eq, List.foldl_cons]

end Scheduler

end SerialLink
