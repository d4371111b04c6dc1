import SerialLink.Proofs.Scheduler.Calls

/-!
What the parts of a tick leave alone, and a tick with nothing to do. Sending changes the transport,
the queue and the counters only (`sendUpTo_frame`). If no confirm is overdue, nothing is to be
queued and nothing can be sent, a tick sets gauges and tells the next time (`tick_of_idle`).
-/

namespace SerialLink.Scheduler

variable {τ : Type}

theorem updateGauges_eq (s : Scheduler τ) :
    ∃ metrics : Recording, { s with wake := false }.updateGauges =
      { s with wake := false, metrics } := ⟨_, rfl⟩

/-! ### Nothing to do -/

/-- Something is to be queued at this time, if there is a slot for it. -/
def due (s : Scheduler τ) (now : Nat) : Bool :=
  s.keepaliveDue now && !s.queue.holdsId Command.deviceStatus || s.backgroundReady

/-- Nothing is to be sent, or nothing may be. -/
def SentOut (s : Scheduler τ) : Prop := s.hasCredit = false ∨ s.queue.nextToSend? = none

/-- No confirm has been waited for long enough. -/
def Timely (s : Scheduler τ) (now : Nat) : Prop :=
  ∀ ⦃slot : Nat⦄ ⦃item : QueueItem⦄, s.queue.get? slot = some item → s.overdue now item = false

theorem timely_iff {s : Scheduler τ} {now : Nat} : s.Timely now ↔ s.expired now = [] := by
  rw [List.eq_nil_iff_forall_not_mem]
  constructor
  · intro timely slot listed
    obtain ⟨item, held, overdue⟩ := mem_expired.mp listed
    rw [timely held] at overdue
    cases overdue
  · intro none slot item held
    exact eq_false_of_ne_true fun overdue => none slot (mem_expired.mpr ⟨item, held, overdue⟩)

theorem scheduleBackground_of_idle {s : Scheduler τ} (now : Nat)
    (idle : s.queue.isFull = true ∨ s.due now = false) : s.scheduleBackground now = s := by
  unfold scheduleBackground
  rcases idle with full | idle
  · rw [if_pos full]
  · simp only [due, backgroundReady, Bool.or_eq_false_iff] at idle
    obtain ⟨probe, ⟨confirm, indication⟩, request⟩ := idle
    simp only [probe, confirm, indication, request, Bool.false_eq_true, if_false, ite_self]

variable [Transport τ]

/-- What a tick does once the timeouts are seen to. -/
def serve (s : Scheduler τ) (now : Nat) : Scheduler τ :=
  { (s.scheduleBackground now).sendReady now with wake := false }.updateGauges

theorem tick_of_swept {s s' : Scheduler τ} {now : Nat} (operational : s.connection = .operational)
    (swept : { s with wake := false }.sweepTimeouts now = s')
    (kept : s'.connection = .operational) :
    s.tick now = ((s'.serve now).nextDeadline now, s'.serve now) := by
  unfold tick
  dsimp only
  rw [if_neg (not_not.mpr operational), swept, if_neg (not_not.mpr kept)]
  rfl

theorem tick_of_torn {s s' : Scheduler τ} {now : Nat} (operational : s.connection = .operational)
    (swept : { s with wake := false }.sweepTimeouts now = s')
    (lost : s'.connection ≠ .operational) : s.tick now = (none, s') := by
  unfold tick
  dsimp only
  rw [if_neg (not_not.mpr operational), swept, if_pos lost]

theorem sweepTimeouts_of_timely {s : Scheduler τ} {now : Nat} (timely : s.Timely now)
    (few : s.failures < s.settings.failureThreshold) :
    s.sweepTimeouts now = s.setGauge .failureCount s.failures := by
  unfold sweepTimeouts
  rw [timely_iff.mp timely]
  exact if_neg (Nat.not_le.mpr few)

theorem sendNext_of_sentOut {s : Scheduler τ} (sentOut : s.SentOut) (now : Nat) :
    s.sendNext now = (false, s) := by
  unfold sendNext
  rcases sentOut with full | none
  · rw [full]
    rfl
  · rw [none]
    exact ite_self _

theorem sendUpTo_of_sentOut {s : Scheduler τ} (sentOut : s.SentOut) (now most : Nat) :
    sendUpTo now most s = s := by
  cases most with
  | zero => rfl
  | succ most =>
    unfold sendUpTo
    rw [sendNext_of_sentOut sentOut]

/-- The item whose turn it is is sent if the transport takes its frame. -/
theorem sendNext_of_taken {s : Scheduler τ} {slot : Nat} {item : QueueItem} {payload : Bytes}
    {transport : τ} (now : Nat) (credit : s.hasCredit = true)
    (next : s.queue.nextToSend? = some slot) (held : s.queue.get? slot = some item)
    (written : s.table.encode item.command Command.maxLength = .ok payload)
    (taken : Transport.send (Frame.encode payload) s.transport = (.ok (), transport)) :
    s.sendNext now = (true, { s with transport }.noteSent slot item.command.id now) := by
  unfold sendNext
  rw [credit]
  simp only [Bool.not_true, Bool.false_eq_true, if_false, next, held, written, taken]

theorem sendUpTo_of_sent {s s' : Scheduler τ} {now : Nat} (sent : s.sendNext now = (true, s'))
    (most : Nat) : sendUpTo now (most + 1) s = sendUpTo now most s' := by
  rw [sendUpTo, sent]

/-- A tick with nothing to do. -/
theorem tick_of_idle {s : Scheduler τ} {now : Nat} (operational : s.connection = .operational)
    (timely : s.Timely now) (few : s.failures < s.settings.failureThreshold)
    (idle : s.queue.isFull = true ∨ s.due now = false) (sentOut : s.SentOut) :
    ∃ metrics : Recording, s.tick now =
      ({ s with wake := false }.nextDeadline now, { s with wake := false, metrics }) := by
  have swept := sweepTimeouts_of_timely (s := { s with wake := false }) timely few
  rw [tick_of_swept operational swept operational]
  have idled := scheduleBackground_of_idle
    (s := { s with wake := false }.setGauge .failureCount s.failures) now idle
  have sent := sendUpTo_of_sentOut
    (s := { s with wake := false }.setGauge .failureCount s.failures) sentOut now
  unfold serve sendReady
  rw [idled, sent]
  obtain ⟨metrics, gauged⟩ := updateGauges_eq
    ({ s with wake := false }.setGauge .failureCount s.failures)
  exact ⟨metrics, by rw [gauged]; rfl⟩

/-- A tick that sends one item and nothing else, in its steps. -/
theorem Steps.of_tick_of_one {s : Scheduler τ} {slot now : Nat} {item : QueueItem}
    {payload : Bytes} {transport : τ}
    (operational : s.connection = .operational) (timely : s.Timely now)
    (few : s.failures < s.settings.failureThreshold)
    (idle : s.queue.isFull = true ∨ s.due now = false) (credit : s.hasCredit = true)
    (next : s.queue.nextToSend? = some slot) (held : s.queue.get? slot = some item)
    (written : s.table.encode item.command Command.maxLength = .ok payload)
    (taken : Transport.send (Frame.encode payload) s.transport = (.ok (), transport))
    (last : (s.noteSent slot item.command.id now).hasCredit = false) :
    ∃ s₂ : Scheduler τ,
      Steps s [.quiet, .quiet, .sent slot item (Frame.encode payload) now] s₂ ∧
      Steps s₂ [.quiet, .quiet, .quiet, .quiet] (s.tick now).2 := by
  let ready := { s with wake := false }.setGauge .failureCount s.failures
  have swept : { s with wake := false }.sweepTimeouts now = ready :=
    sweepTimeouts_of_timely timely few
  have idled : ready.scheduleBackground now = ready := scheduleBackground_of_idle now idle
  let s₂ := { ready with transport }.noteSent slot item.command.id now
  have sent : ready.sendNext now = (true, s₂) :=
    sendNext_of_taken now credit next held written taken
  have waits : 0 < ready.queue.count .waitSend := by
    obtain ⟨item, held, waits⟩ := SendQueue.waitSend_of_nextToSend? next
    exact SendQueue.count_pos_iff.mpr ⟨slot, item, held, waits⟩
  have sentOut : s₂.SentOut := .inl last
  have done : ready.sendReady now = s₂ := by
    unfold sendReady
    obtain ⟨most, count⟩ := Nat.exists_eq_add_one_of_ne_zero (Nat.ne_of_gt waits)
    rw [count, sendUpTo_of_sent sent, sendUpTo_of_sentOut sentOut]
  have ticked : (s.tick now).2 = { s₂ with wake := false }.updateGauges := by
    rw [tick_of_swept operational swept operational]
    unfold serve
    rw [idled, done]
  refine ⟨s₂, ?_, ?_⟩
  · exact .cons (.quiet (.wake s false)) (.cons (.quiet (.gauge _ .failureCount s.failures))
      (.cons (.send now operational credit next held written taken) (.nil s₂)))
  · rw [ticked]
    exact .cons (.quiet (.wake s₂ false)) (.cons (.quiet (.gauge _ .queueDepth _))
      (.cons (.quiet (.gauge _ .inFlight _)) (.cons (.quiet (.gauge _ .pendingRequests _))
        (.nil _))))

/-! ### What sending leaves alone -/

/-- The next item to be sent leaves all but the transport, the queue and the counters alone. -/
theorem sendNext_frame (s : Scheduler τ) (now : Nat) :
    ∃ (transport : τ) (queue : SendQueue) (lastSent : Option Nat) (counts : SchedulerCounts)
      (completions : List Completion) (metrics : Recording),
      (s.sendNext now).2 =
        { s with transport, queue, lastSent, counts, completions, metrics } := by
  have same : ∃ (transport : τ) (queue : SendQueue) (lastSent : Option Nat)
      (counts : SchedulerCounts) (completions : List Completion) (metrics : Recording),
      s = { s with transport, queue, lastSent, counts, completions, metrics } :=
    ⟨s.transport, s.queue, s.lastSent, s.counts, s.completions, s.metrics, rfl⟩
  unfold sendNext
  split
  · exact same
  split
  · exact same
  split
  · exact same
  split
  · exact ⟨s.transport, _, s.lastSent, s.counts, _, s.metrics, rfl⟩
  · split
    · exact ⟨_, s.queue, s.lastSent, s.counts, s.completions, s.metrics, rfl⟩
    · exact ⟨_, _, some now, _, s.completions, _, rfl⟩

theorem sendUpTo_frame (s : Scheduler τ) (now most : Nat) :
    ∃ (transport : τ) (queue : SendQueue) (lastSent : Option Nat) (counts : SchedulerCounts)
      (completions : List Completion) (metrics : Recording),
      sendUpTo now most s =
        { s with transport, queue, lastSent, counts, completions, metrics } := by
  induction most generalizing s with
  | zero => exact ⟨s.transport, s.queue, s.lastSent, s.counts, s.completions, s.metrics, rfl⟩
  | succ most ih =>
    obtain ⟨transport, queue, lastSent, counts, completions, metrics, eq⟩ := s.sendNext_frame now
    unfold sendUpTo
    cases sent : s.sendNext now with
    | mk again s' =>
      rw [sent] at eq
      dsimp only at eq
      subst eq
      cases again with
      | true =>
        obtain ⟨transport, queue, lastSent, counts, completions, metrics, eq⟩ := ih
          { s with transport, queue, lastSent, counts, completions, metrics }
        exact ⟨transport, queue, lastSent, counts, completions, metrics, eq⟩
      | false => exact ⟨transport, queue, lastSent, counts, completions, metrics, rfl⟩

/-- What follows the timeouts leaves all but the work, the transport and the counters alone. -/
theorem serve_frame (s : Scheduler τ) (now : Nat) :
    ∃ (transport : τ) (queue : SendQueue) (pending : PendingRing) (lastSeq : UInt8)
      (lastSent : Option Nat) (counts : SchedulerCounts) (completions : List Completion)
      (metrics : Recording),
      s.serve now =
        { s with
          transport, queue, pending, lastSeq, lastSent, wake := false, counts, completions,
          metrics } := by
  obtain ⟨queue, pending, lastSeq, wake, completions, metrics, scheduled⟩ :=
    s.scheduleBackground_frame now
  obtain ⟨transport, queue, lastSent, counts, completions, metrics, sent⟩ := sendUpTo_frame
    (s.scheduleBackground now) now ((s.scheduleBackground now).queue.count .waitSend)
  obtain ⟨metrics, gauged⟩ := updateGauges_eq ((s.scheduleBackground now).sendReady now)
  refine ⟨transport, queue, pending, lastSeq, lastSent, counts, completions, metrics, ?_⟩
  unfold serve
  rw [gauged]
  unfold sendReady
  rw [sent, scheduled]

theorem serve_connection (s : Scheduler τ) (now : Nat) :
    (s.serve now).connection = s.connection := by
  obtain ⟨_, _, _, _, _, _, _, _, served⟩ := s.serve_frame now
  rw [served]

end SerialLink.Scheduler
