import SerialLink.Proofs.Command.Registered
import SerialLink.Proofs.Scheduler.Deadline
import SerialLink.Proofs.Scheduler.Ring

/-!
Ticks at one time. If the transport takes every frame, a tick sees to the timeouts and sends all
that may be sent (`tick_settles`). What is left to the ticks after it is to queue probes, fetches
and bulk requests, one each, and this comes to an end (`Settled.idle_or_load_lt`). Then there is
nothing to do before a later time, unless the queue is full and something is to be queued: for that
the deadline is now, over and over (`Run.ticks_settle`).
-/

namespace SerialLink

/-- The transport takes every frame, however many it is handed. -/
def Transport.Accepts {τ : Type} [Transport τ] (t : τ) : Prop :=
  ∀ (frames : List Bytes) (frame : Bytes),
    (Transport.send frame (frames.foldl (fun t frame => (Transport.send frame t).2) t)).1 = .ok ()

theorem Transport.Accepts.send {τ : Type} [Transport τ] {t : τ} (accepts : Transport.Accepts t)
    (frame : Bytes) : ∃ t' : τ, Transport.send frame t = (.ok (), t') ∧ Transport.Accepts t' := by
  refine ⟨(Transport.send frame t).2, ?_, fun frames => accepts (frame :: frames)⟩
  exact Prod.ext (accepts [] frame) rfl

namespace Scheduler

variable {τ : Type}

/-! ### Work to be queued -/

/-- Room for commands, and bulk requests that wait for it: what is left to queue on its own. -/
def load (s : Scheduler τ) : Nat := (SendQueue.capacity - s.queue.size) + s.pending.length

theorem insert_load {s s' : Scheduler τ} {command : Command} {origin : Origin}
    {handle : ItemHandle} (inserted : s.insert command origin = (.ok handle, s')) :
    s'.load < s.load := by
  obtain ⟨_, queue, _, -, -, -, placed, rfl⟩ := insert_eq_ok inserted
  have grown := SendQueue.size_insert? placed
  have most := queue.size_le
  change SendQueue.capacity - queue.size + s.pending.length <
    SendQueue.capacity - s.queue.size + s.pending.length
  omega

theorem insert_load_le (s : Scheduler τ) (command : Command) (origin : Origin) :
    (s.insert command origin).2.load ≤ s.load := by
  cases inserted : s.insert command origin with
  | mk result s' =>
    cases result with
    | error fault => exact Nat.le_of_eq (congrArg load (insert_eq_error inserted).1)
    | ok handle => exact Nat.le_of_lt (insert_load inserted)

/-- A probe or a fetch can be queued as long as there is room. -/
theorem enqueueOwn_load {s : Scheduler τ} {id : UInt8} (made : s.table.Registered)
    (room : s.queue.isFull = false)
    (known : id ∈ [Command.deviceStatus, Command.dataConfirm, Command.dataIndication]) :
    (s.enqueueOwn id).load < s.load := by
  obtain ⟨command, payload, zeroed, written⟩ := made.encode_zeroed known
  unfold enqueueOwn
  rw [zeroed]
  dsimp only
  cases inserted : s.insert command .scheduler with
  | mk result s' =>
    cases result with
    | ok handle => exact insert_load inserted
    | error fault =>
      obtain ⟨-, ⟨cause, unwritable, -⟩ | ⟨-, full, -⟩⟩ := insert_eq_error inserted
      · rw [written] at unwritable
        cases unwritable
      · rw [room] at full
        cases full

/-- The oldest bulk request leaves the ring, whether its command can be queued or not. -/
theorem materialize_load {s : Scheduler τ} (waiting : s.pending.isEmpty = false) :
    s.materialize.load < s.load := by
  have shorter := PendingRing.length_pop waiting
  unfold materialize
  cases popped : s.pending.pop with
  | mk id? pending =>
    rw [popped] at shorter
    have less : { s with pending }.load < s.load := by
      unfold load
      dsimp only at shorter ⊢
      omega
    cases id? with
    | none => exact less
    | some id =>
      dsimp only
      cases s.resolve id with
      | none => exact less
      | some command =>
        dsimp only
        have most := insert_load_le { s with pending } command (.request id)
        cases inserted : { s with pending }.insert command (.request id) with
        | mk result s' =>
          rw [inserted] at most
          cases result <;> exact Nat.lt_of_le_of_lt most less

/-- What is due is queued as long as there is room. -/
theorem scheduleBackground_load {s : Scheduler τ} {now : Nat} (made : s.table.Registered)
    (room : s.queue.isFull = false) (due : s.due now = true) :
    (s.scheduleBackground now).load < s.load := by
  unfold scheduleBackground
  rw [if_neg (Bool.eq_false_iff.mp room)]
  split
  · exact enqueueOwn_load made room (by decide)
  rename_i unprobed
  split
  · exact enqueueOwn_load made room (by decide)
  rename_i unconfirmed
  split
  · exact enqueueOwn_load made room (by decide)
  rename_i unindicated
  split
  · rename_i ready
    simp only [requestReady, Bool.and_eq_true, Bool.not_eq_true'] at ready
    exact materialize_load ready.1.2
  · rename_i idle
    simp only [Scheduler.due, backgroundReady, unprobed, unconfirmed, unindicated, idle,
      Bool.or_false] at due
    cases due

theorem scheduleBackground_load_le {s : Scheduler τ} (now : Nat) (made : s.table.Registered) :
    (s.scheduleBackground now).load ≤ s.load := by
  by_cases idle : s.queue.isFull = true ∨ s.due now = false
  · exact Nat.le_of_eq (congrArg load (scheduleBackground_of_idle now idle))
  · obtain ⟨room, due⟩ := not_or.mp idle
    exact Nat.le_of_lt
      (scheduleBackground_load made (eq_false_of_ne_true room) (eq_true_of_ne_false due))

/-! ### What is due -/

theorem due_eq_false_iff {s : Scheduler τ} {now : Nat} :
    s.due now = false ↔
      (s.queue.holdsId Command.deviceStatus = false → s.keepaliveDue now = false) ∧
        s.backgroundReady = false := by
  unfold due
  cases s.queue.holdsId Command.deviceStatus <;> simp

/-- With something due, the deadline is now. -/
theorem nextDeadline_of_due {s : Scheduler τ} {now : Nat}
    (operational : s.connection = .operational) (clocked : ∀ clock ∈ s.clocks, clock ≤ now)
    (due : s.due now = true) : s.nextDeadline now = some now := by
  cases calm : s.pressing with
  | true => exact nextDeadline_of_pressing now operational calm
  | false =>
    obtain ⟨-, -, background⟩ := pressing_eq_false_iff.mp calm
    unfold Scheduler.due at due
    rw [background, Bool.or_false, Bool.and_eq_true, Bool.not_eq_true'] at due
    obtain ⟨probe, unprobed⟩ := due
    obtain ⟨alarm, mem, past⟩ : ∃ alarm ∈ s.alarms now, alarm ≤ now := by
      rcases keepaliveDue_iff.mp probe with idle | ⟨full, since, stalled, long⟩
      · refine ⟨_, mem_alarms_of_unprobed now unprobed, ?_⟩
        cases since : s.lastSent with
        | none => exact Nat.le_refl now
        | some sent =>
          have long := idle sent since
          have past := clocked sent (mem_clocks.mpr (.inl since))
          change sent + s.settings.keepaliveInterval ≤ now
          omega
      · have past := clocked since (stalledSince_mem_clocks stalled)
        exact ⟨_, mem_alarms_of_stalled now unprobed full stalled, by omega⟩
    obtain ⟨first, least⟩ :=
      Option.isSome_iff_exists.mp (List.isSome_min?_of_ne_nil (List.ne_nil_of_mem mem))
    have before := (List.min?_eq_some_iff.mp least).2 alarm mem
    rw [nextDeadline_of_calm now operational calm, least, Option.map_some,
      Nat.max_eq_left (Nat.le_trans before past)]

/-! ### Timeouts -/

/-- No confirm of the item in the slot is overdue any more. -/
theorem overdue_expire {s : Scheduler τ} {slot now : Nat} {item : QueueItem}
    (held : (s.expire slot).queue.get? slot = some item) :
    (s.expire slot).overdue now item = false := by
  cases found : s.queue.get? slot with
  | none =>
    unfold expire at held
    rw [found] at held
    dsimp only at held
    rw [found] at held
    cases held
  | some before =>
    by_cases left : before.retries < s.settings.maxRetries
    · rw [expire_of_retry found left] at held ⊢
      obtain ⟨old, -, eq⟩ := SendQueue.get?_modify_eq_some held
      rw [if_pos rfl] at eq
      rw [eq]
      rfl
    · rw [expire_of_spent found left] at held
      exact absurd rfl (SendQueue.get?_remove_eq_some held).1

/-- Once the slots of all overdue confirms have been seen to, none is overdue. -/
theorem timely_foldl_expire {s : Scheduler τ} {slots : List Nat} {now : Nat}
    (all : ∀ ⦃slot : Nat⦄ ⦃item : QueueItem⦄, s.queue.get? slot = some item →
      s.overdue now item = true → slot ∈ slots) : (slots.foldl expire s).Timely now := by
  induction slots generalizing s with
  | nil =>
    intro slot item held
    exact Bool.eq_false_iff.mpr fun overdue => absurd (all held overdue) List.not_mem_nil
  | cons first slots ih =>
    refine ih fun slot item held overdue => ?_
    obtain ⟨-, settings, -, -, others⟩ := s.expire_frame first
    by_cases same : slot = first
    · rw [same] at held
      rw [overdue_expire held] at overdue
      cases overdue
    · have before : s.overdue now item = true := by
        unfold Scheduler.overdue at overdue ⊢
        rwa [settings] at overdue
      rcases List.mem_cons.mp (all ((others slot same).symm.trans held) before) with eq | mem
      · exact absurd eq same
      · exact mem

variable [Transport τ]

theorem teardown_connection (s : Scheduler τ) : s.teardown.connection ≠ .operational := by
  have ended (s : Scheduler τ) (reason : DisconnectReason) :
      (s.endSession reason).connection = .off := by
    unfold endSession
    dsimp only
    split <;> rfl
  have opened (s : Scheduler τ) : s.openSession.2.connection ≠ .operational := by
    unfold openSession
    dsimp only
    split <;> nofun
  unfold teardown
  dsimp only
  generalize (if s.bootloaderSeen then DisconnectReason.bootloaderOnly else .timeout) = reason
  split
  · exact opened _
  · rw [ended]
    nofun

/-- A sweep that keeps the session leaves no confirm overdue. -/
theorem sweepTimeouts_of_kept {s : Scheduler τ} {now : Nat}
    (kept : (s.sweepTimeouts now).connection = .operational) :
    (s.sweepTimeouts now).Timely now ∧ (s.sweepTimeouts now).transport = s.transport ∧
      (s.sweepTimeouts now).pending = s.pending := by
  obtain ⟨-, -, transport, pending⟩ := s.foldl_expire_frame (s.expired now)
  have timely : ((s.expired now).foldl expire s).Timely now :=
    timely_foldl_expire fun slot item held overdue => mem_expired.mpr ⟨item, held, overdue⟩
  unfold sweepTimeouts at kept ⊢
  dsimp only at kept ⊢
  split at kept
  · exact absurd kept (teardown_connection _)
  · rename_i few
    rw [if_neg few]
    exact ⟨timely, transport, pending⟩

/-- A step of a tick makes no confirm overdue. -/
theorem Step.timely {s s' : Scheduler τ} {deed : Deed} {now : Nat} (step : Step s deed s')
    (permitted : (Act.tick now : Act τ).Permits deed) (timeout : 0 < s.settings.confirmTimeout)
    (timely : s.Timely now) : s'.Timely now := by
  obtain ⟨settings, -⟩ := step.made_eq
  intro slot item held
  unfold overdue
  rw [settings]
  rcases step.queueStep.held held with
    ⟨kept, -⟩ | ⟨-, new⟩ | ⟨old, frame, time, rfl, -, rfl⟩ | ⟨old, time, -, -, rfl⟩
  · exact timely kept
  · rw [new]
    rfl
  · -- What has just been sent has not been waited for.
    cases (show Act.tick now = Act.tick time from permitted)
    have recent : ¬ now - now ≥ s.settings.confirmTimeout := by omega
    exact decide_eq_false recent
  · rfl

theorem Proceeds.timely {s s' : Scheduler τ} {now : Nat} (proceeds : s.Proceeds (.tick now) s')
    (timeout : 0 < s.settings.confirmTimeout) (timely : s.Timely now) : s'.Timely now := by
  obtain ⟨deeds, steps, each⟩ := proceeds
  induction steps with
  | nil s => exact timely
  | cons step rest ih =>
    obtain ⟨first, later⟩ := List.forall_mem_cons.mp each
    obtain ⟨settings, -⟩ := step.made_eq
    exact ih (settings ▸ timeout) (step.timely first.2 timeout timely) later

/-! ### Sending -/

theorem sendNext_of_accepts {s : Scheduler τ} {slot : Nat} (now : Nat) (writable : s.Writable)
    (accepts : Transport.Accepts s.transport) (credit : s.hasCredit = true)
    (next : s.queue.nextToSend? = some slot) :
    ∃ (item : QueueItem) (payload : Bytes) (transport : τ),
      s.queue.get? slot = some item ∧ item.state = .waitSend ∧
      s.table.encode item.command Command.maxLength = .ok payload ∧
      Transport.send (Frame.encode payload) s.transport = (.ok (), transport) ∧
      Transport.Accepts transport ∧
      s.sendNext now = (true, { s with transport }.noteSent slot item.command.id now) := by
  obtain ⟨item, held, waits⟩ := SendQueue.waitSend_of_nextToSend? next
  obtain ⟨payload, written⟩ := writable held
  obtain ⟨transport, taken, accepts⟩ := accepts.send (Frame.encode payload)
  have sent := sendNext_of_taken now credit next held written taken
  exact ⟨item, payload, transport, held, waits, written, taken, accepts, sent⟩

/-- A transport that takes every frame gets all that may be sent. -/
theorem sendUpTo_of_accepts {s : Scheduler τ} (now : Nat) {most : Nat} (writable : s.Writable)
    (operational : s.connection = .operational) (accepts : Transport.Accepts s.transport)
    (enough : s.queue.count .waitSend ≤ most) :
    (sendUpTo now most s).SentOut ∧ Transport.Accepts (sendUpTo now most s).transport ∧
      (sendUpTo now most s).queue.size = s.queue.size := by
  induction most generalizing s with
  | zero =>
    refine ⟨.inr ?_, accepts, rfl⟩
    cases next : s.queue.nextToSend? with
    | none => exact next
    | some slot =>
      obtain ⟨item, held, waits⟩ := SendQueue.waitSend_of_nextToSend? next
      have some := SendQueue.count_pos_iff.mpr ⟨slot, item, held, waits⟩
      omega
  | succ most ih =>
    by_cases sentOut : s.SentOut
    · rw [sendUpTo_of_sentOut sentOut]
      exact ⟨sentOut, accepts, rfl⟩
    · obtain ⟨full, waiting⟩ := not_or.mp sentOut
      have credit := eq_true_of_ne_false full
      obtain ⟨slot, next⟩ := Option.ne_none_iff_exists'.mp waiting
      obtain ⟨item, payload, transport, held, waits, written, taken, accepts, sent⟩ :=
        sendNext_of_accepts now writable accepts credit next
      have step := Step.send now operational credit next held written taken
      have fewer := SendQueue.count_modify held (QueueItem.sending now) .waitSend
      rw [waits, QueueItem.state_sending, if_pos rfl, if_neg (by decide)] at fewer
      have enough : (s.queue.modify slot (QueueItem.sending now)).count .waitSend ≤ most := by
        omega
      have size := SendQueue.size_modify held (QueueItem.sending now)
      obtain ⟨sentOut, accepts, same⟩ := ih (step.writable writable) operational accepts enough
      unfold sendUpTo
      rw [sent]
      exact ⟨sentOut, accepts, same.trans size⟩

/-! ### One tick -/

/-- Commands flow, no confirm is overdue, all that may be sent has been sent, and the transport
takes every frame. -/
structure Settled (s : Scheduler τ) (now : Nat) : Prop where
  operational : s.connection = .operational
  timely : s.Timely now
  sentOut : s.SentOut
  asleep : s.wake = false
  accepts : Transport.Accepts s.transport

theorem Proceeds.writable {act : Act τ} {s s' : Scheduler τ} (proceeds : s.Proceeds act s')
    (writable : s.Writable) : s'.Writable := by
  obtain ⟨deeds, steps, -⟩ := proceeds
  exact steps.keep Step.writable writable

/-- Sending all that may be sent settles the scheduler, and queues nothing. -/
theorem settled_sendReady {s : Scheduler τ} {now : Nat} (operational : s.connection = .operational)
    (timely : s.Timely now) (timeout : 0 < s.settings.confirmTimeout) (writable : s.Writable)
    (accepts : Transport.Accepts s.transport) :
    { s.sendReady now with wake := false }.updateGauges.Settled now ∧
      { s.sendReady now with wake := false }.updateGauges.load = s.load := by
  have sending := (sendReady_advances now operational).proceeds.timely timeout timely
  obtain ⟨sentOut, accepts, size⟩ : (s.sendReady now).SentOut ∧
      Transport.Accepts (s.sendReady now).transport ∧ (s.sendReady now).queue.size = s.queue.size :=
    sendUpTo_of_accepts now writable operational accepts (Nat.le_refl _)
  obtain ⟨connection, pending⟩ : (s.sendReady now).connection = s.connection ∧
      (s.sendReady now).pending = s.pending := by
    obtain ⟨_, _, _, _, _, _, sent⟩ := sendUpTo_frame s now (s.queue.count .waitSend)
    unfold sendReady
    rw [sent]
    exact ⟨rfl, rfl⟩
  generalize s.sendReady now = s' at *
  refine ⟨⟨connection.trans operational, sending, sentOut, rfl, accepts⟩, ?_⟩
  change SendQueue.capacity - s'.queue.size + s'.pending.length = s.load
  rw [size, pending]
  rfl

/-- What follows the timeouts queues what is due, and sends all that may be sent. -/
theorem settled_serve {s : Scheduler τ} {now : Nat} (operational : s.connection = .operational)
    (timely : s.Timely now) (timeout : 0 < s.settings.confirmTimeout) (writable : s.Writable)
    (accepts : Transport.Accepts s.transport) :
    (s.serve now).Settled now ∧ (s.serve now).load = (s.scheduleBackground now).load := by
  have background := (scheduleBackground_advances now operational).proceeds
  have writable := background.writable writable
  have timely := background.timely timeout timely
  obtain ⟨_, _, _, _, _, _, scheduled⟩ := s.scheduleBackground_frame now
  have kept := (s.scheduleBackground_connection now).trans operational
  refine settled_sendReady kept timely ?_ writable ?_
  · rw [scheduled]
    exact timeout
  · rw [scheduled]
    exact accepts

/-- A tick ends the session or settles the scheduler. -/
theorem tick_settles {s : Scheduler τ} (now : Nat) (made : s.table.Registered)
    (operational : s.connection = .operational) (timeout : 0 < s.settings.confirmTimeout)
    (writable : s.Writable) (accepts : Transport.Accepts s.transport) :
    (s.tick now).1 = none ∨
      (s.tick now).2.Settled now ∧
        (s.tick now).2.load ≤ SendQueue.capacity + s.pending.length := by
  obtain ⟨deeds, steps, -⟩ := sweepTimeouts_advances (s := { s with wake := false }) now operational
  obtain ⟨settings, table⟩ := steps.made_eq
  have writable := steps.keep Step.writable writable
  by_cases kept : ({ s with wake := false }.sweepTimeouts now).connection = .operational
  · right
    rw [tick_of_swept operational rfl kept]
    obtain ⟨timely, transport, pending⟩ := sweepTimeouts_of_kept kept
    generalize { s with wake := false }.sweepTimeouts now = s' at *
    obtain ⟨served, load⟩ :=
      settled_serve kept timely (settings ▸ timeout) writable (transport ▸ accepts)
    have most := scheduleBackground_load_le (s := s') now (table ▸ made)
    refine ⟨served, ?_⟩
    rw [load, ← show s'.pending = s.pending from pending]
    unfold Scheduler.load at most ⊢
    omega
  · left
    rw [tick_of_torn operational rfl kept]

/-- A tick of a settled scheduler queues something, unless nothing is due or there is no room. -/
theorem Settled.idle_or_load_lt {s : Scheduler τ} {now : Nat} (settled : s.Settled now)
    (made : s.table.Registered) (timeout : 0 < s.settings.confirmTimeout)
    (few : s.failures < s.settings.failureThreshold) (writable : s.Writable) :
    (s.queue.isFull = true ∨ s.due now = false) ∨
      (s.tick now).2.Settled now ∧ (s.tick now).2.load < s.load := by
  by_cases idle : s.queue.isFull = true ∨ s.due now = false
  · exact .inl idle
  · right
    obtain ⟨room, due⟩ := not_or.mp idle
    have swept := sweepTimeouts_of_timely (s := { s with wake := false }) settled.timely few
    rw [tick_of_swept settled.operational swept settled.operational]
    obtain ⟨served, load⟩ := settled_serve
      (s := { s with wake := false }.setGauge .failureCount s.failures) settled.operational
      settled.timely timeout writable settled.accepts
    have less := scheduleBackground_load
      (s := { s with wake := false }.setGauge .failureCount s.failures) made
      (eq_false_of_ne_true room) (eq_true_of_ne_false due)
    rw [← load] at less
    exact ⟨served, less⟩

/-! ### Ticks at one time -/

/-- After so many ticks at one time. -/
def ticks (now : Nat) : Nat → Scheduler τ → Scheduler τ
  | 0, s => s
  | n + 1, s => ticks now n (s.tick now).2

theorem ticks_add (s : Scheduler τ) (now m n : Nat) :
    ticks now (m + n) s = ticks now n (ticks now m s) := by
  induction m generalizing s with
  | zero => rw [Nat.zero_add, ticks]
  | succ m ih => rw [Nat.succ_add, ticks, ticks, ih]

theorem Run.after_ticks {start s : Scheduler τ} {trace : Trace τ} (run : Run start trace s)
    (now n : Nat) :
    ∃ later : Trace τ, Run start (trace ++ later) (ticks now n s) ∧
      ∀ time ∈ later.times, time = now := by
  induction n generalizing s trace with
  | zero => exact ⟨[], by rwa [List.append_nil], fun _ mem => absurd mem List.not_mem_nil⟩
  | succ n ih =>
    obtain ⟨later, run, times⟩ := ih (run.snoc (.tick now))
    refine ⟨[(.tick now, (s.perform (.tick now)).1)] ++ later, ?_, fun time mem => ?_⟩
    · rwa [← List.append_assoc]
    · rcases List.mem_cons.mp mem with rfl | mem
      · rfl
      · exact times time mem

/-- A settled scheduler comes to have nothing due, or no room. -/
theorem Settled.exists_idle {start s : Scheduler τ} {trace : Trace τ} {now : Nat}
    (fresh : start.Fresh) (run : Run start trace s) (valid : start.settings.Valid)
    (made : start.table.Registered) (settled : s.Settled now) :
    ∃ n ≤ s.load, (ticks now n s).Settled now ∧
      ((ticks now n s).queue.isFull = true ∨
        (ticks now n s).due now = false) := by
  induction load : s.load using Nat.strongRecOn generalizing s trace with
  | ind most ih =>
    obtain ⟨deeds, steps, -⟩ := run.steps
    obtain ⟨settings, table⟩ := steps.made_eq
    have few := run.failures_lt fresh valid.failureThreshold
    rw [← settings] at valid few
    rw [← table] at made
    have tick := settled.idle_or_load_lt made valid.confirmTimeout few (run.writable fresh)
    rw [load] at tick
    rcases tick with idle | ⟨settled, less⟩
    · exact ⟨0, Nat.zero_le _, settled, idle⟩
    · obtain ⟨n, within, idle⟩ := ih _ less (run.snoc (.tick now)) settled rfl
      exact ⟨n + 1, by omega, idle⟩

/-- With nothing due or no room, a tick sets gauges only. -/
theorem Settled.tick_eq {s : Scheduler τ} {now : Nat} (settled : s.Settled now)
    (few : s.failures < s.settings.failureThreshold)
    (idle : s.queue.isFull = true ∨ s.due now = false) :
    ∃ metrics : Recording, s.tick now = (s.nextDeadline now, { s with metrics }) := by
  have awake : { s with wake := false } = s := by rw [← settled.asleep]
  obtain ⟨metrics, ticked⟩ := tick_of_idle settled.operational settled.timely few idle
    settled.sentOut
  rw [awake, ← settled.asleep] at ticked
  exact ⟨metrics, ticked⟩

/-- So do all ticks at the same time. -/
theorem Settled.ticks_eq {s : Scheduler τ} {now : Nat} (settled : s.Settled now)
    (few : s.failures < s.settings.failureThreshold)
    (idle : s.queue.isFull = true ∨ s.due now = false) (n : Nat) :
    ((ticks now n s).tick now).1 = s.nextDeadline now := by
  induction n generalizing s with
  | zero =>
    obtain ⟨metrics, ticked⟩ := settled.tick_eq few idle
    rw [ticks, ticked]
  | succ n ih =>
    obtain ⟨metrics, ticked⟩ := settled.tick_eq few idle
    have same : { s with metrics }.Settled now :=
      ⟨settled.operational, settled.timely, settled.sentOut, settled.asleep, settled.accepts⟩
    rw [ticks, ticked]
    exact ih same few idle

/-! ### The deadline of a settled scheduler -/

/-- With nothing due, the deadline is later. -/
theorem Settled.lt_nextDeadline {s : Scheduler τ} {now deadline : Nat} (settled : s.Settled now)
    (idle : s.due now = false) (next : s.nextDeadline now = some deadline) : now < deadline := by
  obtain ⟨unprobed, background⟩ := due_eq_false_iff.mp idle
  have calm := pressing_eq_false_iff.mpr ⟨settled.asleep, settled.sentOut, background⟩
  rw [nextDeadline_of_calm now settled.operational calm] at next
  obtain ⟨first, least, rfl⟩ := Option.map_eq_some_iff.mp next
  suffices later : now < first by omega
  rcases of_mem_alarms (List.min?_eq_some_iff.mp least).1 with
    ⟨slot, item, sent, held, waits, since, rfl⟩ | ⟨probe, alarm⟩
  · have timely := settled.timely held
    unfold overdue at timely
    rw [waits, since] at timely
    have early : ¬ now - sent ≥ s.settings.confirmTimeout := of_decide_eq_false timely
    omega
  · have recent := ne_true_of_eq_false (unprobed probe)
    rw [keepaliveDue_iff, not_or] at recent
    obtain ⟨sentLately, confirmedLately⟩ := recent
    rcases alarm with rfl | ⟨full, since, stalled, rfl⟩
    · obtain ⟨sent, recent⟩ := not_forall.mp sentLately
      obtain ⟨since, recent⟩ := Classical.not_imp.mp recent
      rw [since]
      change now < sent + s.settings.keepaliveInterval
      omega
    · by_contra late
      exact confirmedLately ⟨full, since, stalled, by omega⟩

/-- **Ticks at one time settle, unless the queue is full.** Let commands flow, under settings that
have been checked and over a transport that takes every frame. If nothing happens but ticks at one
time, then after no more of them than there are slots and waiting bulk requests, and one, there are
two cases. Either the next tick gives no time or a later one; or the queue is full while something
is to be queued, and every tick from then on gives the same time again. -/
theorem Run.ticks_settle {start s : Scheduler τ} {trace : Trace τ} {now : Nat}
    (fresh : start.Fresh) (run : Run start trace s) (valid : start.settings.Valid)
    (made : start.table.Registered) (past : ∀ time ∈ trace.times, time ≤ now)
    (operational : s.connection = .operational) (accepts : Transport.Accepts s.transport) :
    ∃ n ≤ SendQueue.capacity + s.pending.length + 1,
      (∀ deadline, ((ticks now n s).tick now).1 = some deadline → now < deadline) ∨
        (ticks now n s).queue.isFull = true ∧ (ticks now n s).due now = true ∧
          ∀ m ≥ n, ((ticks now m s).tick now).1 = some now := by
  obtain ⟨deeds, steps, -⟩ := run.steps
  obtain ⟨settings, table⟩ := steps.made_eq
  rcases tick_settles now (table ▸ made) operational (settings ▸ valid.confirmTimeout)
    (run.writable fresh) accepts with torn | ⟨settled, most⟩
  · refine ⟨0, Nat.zero_le _, .inl fun deadline next => ?_⟩
    rw [ticks, torn] at next
    cases next
  · obtain ⟨n, within, settled, idle⟩ := settled.exists_idle fresh (run.snoc (.tick now)) valid made
    have within : n ≤ (s.tick now).2.load := within
    obtain ⟨later, run', times⟩ := run.after_ticks now (n + 1)
    obtain ⟨deeds, steps, -⟩ := run'.steps
    obtain ⟨settings, -⟩ := steps.made_eq
    have few := run'.failures_lt fresh valid.failureThreshold
    rw [← settings] at few
    refine ⟨n + 1, by omega, ?_⟩
    cases due : (ticks now (n + 1) s).due now with
    | false =>
      refine .inl fun deadline next => settled.lt_nextDeadline due ?_
      obtain ⟨metrics, ticked⟩ := settled.tick_eq few (.inr due)
      rwa [show (ticks now (n + 1) s).tick now = _ from ticked] at next
    | true =>
      have full : (ticks now (n + 1) s).queue.isFull = true :=
        idle.resolve_right (ne_false_of_eq_true due)
      have clocked : ∀ clock ∈ (ticks now (n + 1) s).clocks, clock ≤ now := by
        intro clock mem
        have time := run'.clocks_subset fresh mem
        unfold Trace.times at time
        rw [List.filterMap_append] at time
        rcases List.mem_append.mp time with old | new
        · exact past clock old
        · exact Nat.le_of_eq (times clock new)
      refine .inr ⟨full, rfl, fun m after => ?_⟩
      obtain ⟨more, rfl⟩ := Nat.exists_eq_add_of_le after
      rw [ticks_add]
      exact (settled.ticks_eq few (.inl full) more).trans
        (nextDeadline_of_due settled.operational clocked due)

end Scheduler

/-- A simulated device that says nothing takes every frame. -/
theorem SimulatedTransport.accepts_of_silent {t : SimulatedTransport}
    (operational : t.state = .operational) (silent : t.mode = .silent)
    (sound : t.failingSends = 0) : Transport.Accepts t := by
  have taken (frame : Bytes) : Transport.send frame t =
      (.ok (), { t with frames := t.frames ++ [frame] }) := by
    change SimulatedTransport.send frame t = _
    unfold SimulatedTransport.send
    rw [operational, sound, silent]
    rfl
  intro frames
  induction frames generalizing t with
  | nil =>
    intro frame
    rw [List.foldl_nil, taken]
  | cons first frames ih =>
    rw [List.foldl_cons, taken]
    refine ih operational silent sound fun frame => ?_
    change SimulatedTransport.send frame _ = _
    unfold SimulatedTransport.send
    dsimp only
    rw [operational, sound, silent]
    rfl

namespace Scheduler

/-- A session in which the device has reported that a confirm and received data can be fetched. -/
def fetchesDue : Trace SimulatedTransport × Scheduler SimulatedTransport :=
  performAll { transport := { autoConnect := true } }
    [.openSession, .handleEvent ⟨1, .connected⟩ 0,
      .changeTransport fun t => t.arriveCommand
        { id := Command.deviceStatusChanged, values := [.u8 0x0E, .u8 0] },
      .processInbound 5]

theorem Run.ticks_settle_of_fetchesDue :
    Fresh ({ transport := { autoConnect := true } } : Scheduler SimulatedTransport) ∧
      Run { transport := { autoConnect := true } } fetchesDue.1 fetchesDue.2 ∧
      SchedulerSettings.Valid {} ∧ CommandTable.builtin.Registered ∧
      (∀ time ∈ fetchesDue.1.times, time ≤ 5) ∧ fetchesDue.2.connection = .operational ∧
      Transport.Accepts fetchesDue.2.transport ∧
      (∃ n ≤ SendQueue.capacity + fetchesDue.2.pending.length + 1,
        (∀ deadline, ((ticks 5 n fetchesDue.2).tick 5).1 = some deadline → 5 < deadline) ∨
          (ticks 5 n fetchesDue.2).queue.isFull = true ∧ (ticks 5 n fetchesDue.2).due 5 = true ∧
            ∀ m ≥ n, ((ticks 5 m fetchesDue.2).tick 5).1 = some 5) ∧
      (fetchesDue.2.tick 5).1 = some 5 ∧ ((ticks 5 2 fetchesDue.2).tick 5).1 = some 1005 := by
  have fresh : Fresh ({ transport := { autoConnect := true } } : Scheduler SimulatedTransport) :=
    .mk _ _ _ _ _
  have run : Run { transport := { autoConnect := true } } fetchesDue.1 fetchesDue.2 :=
    run_performAll _ _
  have valid : SchedulerSettings.Valid {} := ⟨by decide, by decide, by decide⟩
  have past : ∀ time ∈ fetchesDue.1.times, time ≤ 5 := by
    have times : fetchesDue.1.times = [0, 5] := by rfl
    rw [times]
    decide
  have operational : fetchesDue.2.connection = .operational := by decide +kernel
  have accepts : Transport.Accepts fetchesDue.2.transport :=
    SimulatedTransport.accepts_of_silent (by decide +kernel) (by decide +kernel)
      (by decide +kernel)
  exact ⟨fresh, run, valid, .builtin, past, operational, accepts,
    ticks_settle fresh run valid .builtin past operational accepts, by decide +kernel,
    by decide +kernel⟩

/-- Every slot is taken when the device reports that a confirm can be fetched. -/
def fullQueue : Trace SimulatedTransport × Scheduler SimulatedTransport :=
  performAll { transport := { autoConnect := true } }
    ([.openSession, .handleEvent ⟨1, .connected⟩ 0] ++
      List.replicate 32 (.enqueue { id := Command.version, values := [.u32 0] } none) ++
      [.tick 0,
        .changeTransport fun t => t.arriveCommand
          { id := Command.deviceStatusChanged, values := [.u8 0x06, .u8 0] },
        .processInbound 5, .tick 5])

/-- Ticks do not settle while the queue is full: the confirm can be fetched, but there is no slot to
ask for it from, and the deadline stays at the same time however often it is kept. -/
theorem Run.ticks_of_fullQueue :
    Fresh ({ transport := { autoConnect := true } } : Scheduler SimulatedTransport) ∧
      Run { transport := { autoConnect := true } } fullQueue.1 fullQueue.2 ∧
      SchedulerSettings.Valid {} ∧ CommandTable.builtin.Registered ∧
      (∀ time ∈ fullQueue.1.times, time ≤ 5) ∧ fullQueue.2.connection = .operational ∧
      Transport.Accepts fullQueue.2.transport ∧
      ∀ n, ((ticks 5 n fullQueue.2).tick 5).1 = some 5 := by
  have valid : SchedulerSettings.Valid {} := ⟨by decide, by decide, by decide⟩
  have past : ∀ time ∈ fullQueue.1.times, time ≤ 5 := by
    have times : fullQueue.1.times = [0, 0, 5, 5] := by decide +kernel
    rw [times]
    decide
  obtain ⟨operational, ready, silent, sound, timely, full, asleep, few, taken, stuck⟩ :
      fullQueue.2.connection = .operational ∧ fullQueue.2.transport.state = .operational ∧
        fullQueue.2.transport.mode = .silent ∧ fullQueue.2.transport.failingSends = 0 ∧
        fullQueue.2.expired 5 = [] ∧ fullQueue.2.hasCredit = false ∧ fullQueue.2.wake = false ∧
        fullQueue.2.failures < fullQueue.2.settings.failureThreshold ∧
        fullQueue.2.queue.isFull = true ∧ fullQueue.2.nextDeadline 5 = some 5 := by
    decide +kernel
  have accepts := SimulatedTransport.accepts_of_silent ready silent sound
  have settled : fullQueue.2.Settled 5 :=
    ⟨operational, timely_iff.mpr timely, .inl full, asleep, accepts⟩
  exact ⟨.mk _ _ _ _ _, run_performAll _ _, valid, .builtin, past, operational, accepts,
    fun n => (settled.ticks_eq few (.inl taken) n).trans stuck⟩

end Scheduler

end SerialLink
