import SerialLink.Proofs.Scheduler.InFlight

/-!
Sleeping until the deadline delays nothing. While commands flow there is always a deadline, and a
tick before it sets gauges, gives the same deadline and does nothing else
(`Run.quiet_until_deadline`).

Either there is something to do at once, or the deadline is the first of the alarms
(`nextDeadline_of_calm`), and each reason that a tick has to act is one of the alarms
(`quiet_of_lt_nextDeadline`). This holds of reachable states: of those in which the clocks do not
run ahead (`Run.clocks_subset`) and the session has not failed too often yet (`Run.failures_lt`).
How often it fails is counted in a word of 32 bits (`Run.failures_lt_size`).
-/

namespace SerialLink

/-- The limits let the scheduler send, wait and fail. -/
structure SchedulerSettings.Valid (settings : SchedulerSettings) : Prop where
  window : 0 < settings.window
  confirmTimeout : 0 < settings.confirmTimeout
  failureThreshold : 0 < settings.failureThreshold

theorem LinkSettings.valid_of_check {settings : LinkSettings} (checked : settings.check = .ok ()) :
    settings.scheduler.Valid := by
  unfold check at checked
  split at checked
  · cases checked
  · split at checked
    · cases checked
    · rename_i window
      split at checked
      · cases checked
      · rename_i timeout
        split at checked
        · cases checked
        · rename_i threshold
          exact ⟨Nat.pos_of_ne_zero window, Nat.pos_of_ne_zero timeout,
            Nat.pos_of_ne_zero threshold⟩

namespace Scheduler

variable {τ : Type}

/-! ### Alarms -/

/-- There is something to do at once. -/
def pressing (s : Scheduler τ) : Bool :=
  s.wake || (s.hasCredit && s.queue.nextToSend?.isSome) || s.backgroundReady

/-- The times at which something falls due, if there is nothing to do at once. -/
def alarms (s : Scheduler τ) (now : Nat) : List Nat :=
  let awaiting := s.queue.items.filter fun item => item.state = .waitConfirm
  let timeouts := awaiting.filterMap fun item => item.sentAt.map (· + s.settings.confirmTimeout)
  let probed := s.queue.holdsId Command.deviceStatus
  let keepalive :=
    if probed then [] else [(s.lastSent.map (· + s.settings.keepaliveInterval)).getD now]
  let stall :=
    if probed || s.hasCredit then []
    else (s.stalledSince.map (· + s.settings.stallInterval)).toList
  timeouts ++ keepalive ++ stall

theorem nextDeadline_of_pressing {s : Scheduler τ} (now : Nat)
    (operational : s.connection = .operational) (pressing : s.pressing = true) :
    s.nextDeadline now = some now := by
  unfold nextDeadline
  rw [if_neg (not_not.mpr operational)]
  exact if_pos pressing

theorem nextDeadline_of_calm {s : Scheduler τ} (now : Nat)
    (operational : s.connection = .operational) (calm : s.pressing = false) :
    s.nextDeadline now = (s.alarms now).min?.map (max now) := by
  unfold nextDeadline
  rw [if_neg (not_not.mpr operational)]
  exact if_neg (Bool.eq_false_iff.mp calm)

/-- A confirm that is waited for is an alarm. -/
theorem mem_alarms_of_sent {s : Scheduler τ} (now : Nat) {slot : Nat} {item : QueueItem}
    {sent : Nat} (held : s.queue.get? slot = some item) (waits : item.state = .waitConfirm)
    (since : item.sentAt = some sent) : sent + s.settings.confirmTimeout ∈ s.alarms now := by
  have awaiting : item ∈ s.queue.items.filter fun item => item.state = .waitConfirm :=
    List.mem_filter.mpr ⟨SendQueue.mem_items.mpr ⟨slot, held⟩, decide_eq_true waits⟩
  refine List.mem_append_left _ (List.mem_append_left _ ?_)
  exact List.mem_filterMap.mpr ⟨item, awaiting, by rw [since]; rfl⟩

/-- The next probe is an alarm, unless one is queued. -/
theorem mem_alarms_of_unprobed {s : Scheduler τ} (now : Nat)
    (unprobed : s.queue.holdsId Command.deviceStatus = false) :
    (s.lastSent.map (· + s.settings.keepaliveInterval)).getD now ∈ s.alarms now := by
  refine List.mem_append_left _ (List.mem_append_right _ ?_)
  simp only [unprobed, Bool.false_eq_true, if_false]
  exact List.mem_singleton_self _

/-- So is the probe for want of confirms, if the window is full. -/
theorem mem_alarms_of_stalled {s : Scheduler τ} (now : Nat) {since : Nat}
    (unprobed : s.queue.holdsId Command.deviceStatus = false) (full : s.hasCredit = false)
    (stalled : s.stalledSince = some since) :
    since + s.settings.stallInterval ∈ s.alarms now := by
  refine List.mem_append_right _ ?_
  simp only [unprobed, full, stalled, Bool.or_false, Bool.false_eq_true, if_false]
  exact List.mem_singleton_self _

/-- There are no other alarms. -/
theorem of_mem_alarms {s : Scheduler τ} {now alarm : Nat} (mem : alarm ∈ s.alarms now) :
    (∃ slot item sent, s.queue.get? slot = some item ∧ item.state = .waitConfirm ∧
        item.sentAt = some sent ∧ alarm = sent + s.settings.confirmTimeout) ∨
      s.queue.holdsId Command.deviceStatus = false ∧
        (alarm = (s.lastSent.map (· + s.settings.keepaliveInterval)).getD now ∨
          s.hasCredit = false ∧ ∃ since, s.stalledSince = some since ∧
            alarm = since + s.settings.stallInterval) := by
  unfold alarms at mem
  dsimp only at mem
  rcases List.mem_append.mp mem with timely | stall
  · rcases List.mem_append.mp timely with timeout | probe
    · obtain ⟨item, awaiting, due⟩ := List.mem_filterMap.mp timeout
      obtain ⟨listed, waits⟩ := List.mem_filter.mp awaiting
      obtain ⟨slot, held⟩ := SendQueue.mem_items.mp listed
      obtain ⟨sent, since, eq⟩ := Option.map_eq_some_iff.mp due
      exact .inl ⟨slot, item, sent, held, of_decide_eq_true waits, since, eq.symm⟩
    · split at probe
      · cases probe
      · rename_i unprobed
        exact .inr ⟨eq_false_of_ne_true unprobed, .inl (List.mem_singleton.mp probe)⟩
  · split at stall
    · cases stall
    · rename_i full
      simp only [Bool.or_eq_true, not_or, Bool.not_eq_true] at full
      obtain ⟨since, stalled, eq⟩ := Option.map_eq_some_iff.mp (Option.mem_toList.mp stall)
      exact .inr ⟨full.1, .inr ⟨full.2, since, stalled, eq.symm⟩⟩

theorem pressing_eq_false_iff {s : Scheduler τ} :
    s.pressing = false ↔ s.wake = false ∧ s.SentOut ∧ s.backgroundReady = false := by
  unfold pressing SentOut
  simp only [Bool.or_eq_false_iff, Bool.and_eq_false_iff, Option.isSome_eq_false_iff,
    Option.isNone_iff_eq_none, and_assoc]

/-- If a command is queued and nothing is to be sent, some confirm is waited for. -/
theorem exists_waitConfirm {s : Scheduler τ} {slot : Nat} {item : QueueItem} (sound : s.Sound)
    (window : 0 < s.settings.window) (sentOut : s.SentOut)
    (held : s.queue.get? slot = some item) :
    ∃ slot item, s.queue.get? slot = some item ∧ item.state = .waitConfirm := by
  rcases (sound.items held).waits with waits | waits
  · rcases sentOut with full | none
    · -- The window is full, so it is not empty.
      have many := of_decide_eq_false full
      exact SendQueue.count_pos_iff.mp (show 0 < s.inFlight by omega)
    · have next := SendQueue.nextToSend?_isSome held waits
      rw [none] at next
      cases next
  · exact ⟨slot, item, held, waits⟩

/-- If there is nothing to do at once, something falls due. -/
theorem alarms_ne_nil {s : Scheduler τ} (now : Nat) (sound : s.Sound)
    (window : 0 < s.settings.window) (sentOut : s.SentOut) : s.alarms now ≠ [] := by
  cases probed : s.queue.holdsId Command.deviceStatus with
  | false => exact List.ne_nil_of_mem (mem_alarms_of_unprobed now probed)
  | true =>
    -- The probe waits for its confirm, or for that of another command.
    obtain ⟨probe, mem, -⟩ := List.any_eq_true.mp probed
    obtain ⟨slot, held⟩ := SendQueue.mem_items.mp mem
    obtain ⟨slot, item, held, waits⟩ := exists_waitConfirm sound window sentOut held
    obtain ⟨sent, since⟩ := Option.isSome_iff_exists.mp ((sound.items held).sent waits).1
    exact List.ne_nil_of_mem (mem_alarms_of_sent now held waits since)

/-! ### Before the deadline -/

/-- The clocks of the scheduler. -/
def clocks (s : Scheduler τ) : List Nat :=
  s.lastSent.toList ++ s.lastConfirm.toList ++ s.connectedAt.toList

/-- Before the deadline, no alarm is due yet. -/
theorem calm_of_lt_nextDeadline {s : Scheduler τ} {now later deadline : Nat}
    (operational : s.connection = .operational) (next : s.nextDeadline now = some deadline)
    (after : now ≤ later) (before : later < deadline) :
    s.pressing = false ∧ (s.alarms now).min? = some deadline ∧
      ∀ alarm ∈ s.alarms now, later < alarm := by
  cases calm : s.pressing with
  | true =>
    rw [nextDeadline_of_pressing now operational calm] at next
    cases next
    omega
  | false =>
    rw [nextDeadline_of_calm now operational calm] at next
    obtain ⟨first, least, eq⟩ := Option.map_eq_some_iff.mp next
    obtain rfl : first = deadline := by omega
    refine ⟨rfl, least, fun alarm mem => ?_⟩
    exact Nat.lt_of_lt_of_le before ((List.min?_eq_some_iff.mp least).2 alarm mem)

theorem mem_clocks {s : Scheduler τ} {clock : Nat} :
    clock ∈ s.clocks ↔
      s.lastSent = some clock ∨ s.lastConfirm = some clock ∨ s.connectedAt = some clock := by
  unfold clocks
  simp only [List.mem_append, Option.mem_toList, or_assoc]

theorem stalledSince_mem_clocks {s : Scheduler τ} {since : Nat}
    (stalled : s.stalledSince = some since) : since ∈ s.clocks := by
  unfold stalledSince at stalled
  refine mem_clocks.mpr (.inr ?_)
  cases confirmed : s.lastConfirm with
  | none =>
    rw [confirmed] at stalled
    exact .inr stalled
  | some confirm =>
    rw [confirmed] at stalled
    exact .inl stalled

theorem keepaliveDue_iff {s : Scheduler τ} {now : Nat} :
    s.keepaliveDue now = true ↔
      (∀ sent, s.lastSent = some sent → now - sent ≥ s.settings.keepaliveInterval) ∨
        s.hasCredit = false ∧ ∃ since, s.stalledSince = some since ∧
          now - since ≥ s.settings.stallInterval := by
  unfold keepaliveDue
  dsimp only
  rw [Bool.or_eq_true, Bool.and_eq_true, Bool.not_eq_true', Option.all_eq_true,
    Option.any_eq_true]
  simp only [decide_eq_true_eq]

/-- Only a probe that is due at once depends on the time. -/
theorem alarms_eq {s : Scheduler τ} (now later : Nat)
    (settled : s.queue.holdsId Command.deviceStatus = false → s.lastSent.isSome = true) :
    s.alarms later = s.alarms now := by
  unfold alarms
  dsimp only
  cases probed : s.queue.holdsId Command.deviceStatus with
  | true => rfl
  | false =>
    obtain ⟨sent, since⟩ := Option.isSome_iff_exists.mp (settled probed)
    rw [since]
    rfl

/-- Before the deadline there is no reason for a tick to act, and the deadline stays the same. -/
theorem quiet_of_lt_nextDeadline {s : Scheduler τ} {now later deadline : Nat}
    (timeout : 0 < s.settings.confirmTimeout) (clocked : ∀ clock ∈ s.clocks, clock ≤ now)
    (operational : s.connection = .operational) (next : s.nextDeadline now = some deadline)
    (after : now ≤ later) (before : later < deadline) :
    s.wake = false ∧ s.Timely later ∧ s.due later = false ∧ s.SentOut ∧
      s.nextDeadline later = some deadline := by
  obtain ⟨calm, least, early⟩ := calm_of_lt_nextDeadline operational next after before
  obtain ⟨asleep, sentOut, idle⟩ := pressing_eq_false_iff.mp calm
  have recent (unprobed : s.queue.holdsId Command.deviceStatus = false) :
      ∃ sent, s.lastSent = some sent ∧ later < sent + s.settings.keepaliveInterval := by
    have probe := early _ (mem_alarms_of_unprobed now unprobed)
    cases since : s.lastSent with
    | none =>
      rw [since] at probe
      exact absurd after (Nat.not_le.mpr probe)
    | some sent =>
      rw [since] at probe
      exact ⟨sent, rfl, probe⟩
  refine ⟨asleep, fun slot item held => ?_, ?_, sentOut, ?_⟩
  · unfold overdue
    rw [Bool.and_eq_false_iff]
    by_cases waits : item.state = .waitConfirm
    · right
      cases since : item.sentAt with
      | none => rfl
      | some sent =>
        have due := early _ (mem_alarms_of_sent now held waits since)
        exact decide_eq_false (by omega)
    · exact .inl (decide_eq_false waits)
  · unfold due
    rw [idle, Bool.or_false, Bool.and_eq_false_iff]
    cases probed : s.queue.holdsId Command.deviceStatus with
    | true => exact .inr rfl
    | false =>
      left
      obtain ⟨sent, since, soon⟩ := recent probed
      have past := clocked sent (mem_clocks.mpr (.inl since))
      refine eq_false_of_ne_true fun due => ?_
      rcases keepaliveDue_iff.mp due with long | ⟨full, stall, stalled, long⟩
      · have long := long sent since
        omega
      · have due := early _ (mem_alarms_of_stalled now probed full stalled)
        have past := clocked stall (stalledSince_mem_clocks stalled)
        omega
  · have settled (unprobed : s.queue.holdsId Command.deviceStatus = false) :
        s.lastSent.isSome = true := by
      obtain ⟨sent, since, -⟩ := recent unprobed
      rw [since]
      rfl
    rw [nextDeadline_of_calm later operational calm, alarms_eq now later settled, least,
      Option.map_some, Nat.max_eq_right (Nat.le_of_lt before)]

variable [Transport τ]

/-! ### Clocks -/

/-- A step sets a clock to the time at which it is done, or leaves it alone. -/
theorem Step.clocks_subset {s s' : Scheduler τ} {deed : Deed} (step : Step s deed s') :
    s'.clocks ⊆ s.clocks ++ deed.time?.toList := by
  intro clock mem
  have kept (old : s.lastSent = some clock ∨ s.lastConfirm = some clock ∨
      s.connectedAt = some clock) : clock ∈ s.clocks ++ deed.time?.toList :=
    List.mem_append_left _ (mem_clocks.mpr old)
  have set (now : deed.time? = some clock) : clock ∈ s.clocks ++ deed.time?.toList :=
    List.mem_append_right _ (Option.mem_toList.mpr now)
  cases step with
  | quiet aside => cases aside <;> exact List.mem_append_left _ mem
  | send now =>
    rcases mem_clocks.mp mem with sent | old
    · exact set sent
    · exact kept (.inr old)
  | confirm =>
    rcases mem_clocks.mp mem with sent | confirmed | connected
    · exact kept (.inl sent)
    · exact set confirmed
    · exact kept (.inr (.inr connected))
  | connect now =>
    rcases mem_clocks.mp mem with sent | confirmed | connected
    · cases sent
    · cases confirmed
    · exact set connected
  | leave =>
    rcases mem_clocks.mp mem with sent | confirmed | connected
    · exact kept (.inl sent)
    · exact kept (.inr (.inl confirmed))
    · cases connected
  | disconnect =>
    rcases mem_clocks.mp mem with sent | confirmed | connected
    · exact kept (.inl sent)
    · exact kept (.inr (.inl confirmed))
    · cases connected
  | _ => exact List.mem_append_left _ mem

theorem Steps.clocks_subset {s s' : Scheduler τ} {deeds : List Deed} (steps : Steps s deeds s') :
    s'.clocks ⊆ s.clocks ++ deeds.filterMap Deed.time? := by
  induction steps with
  | nil s => exact List.subset_append_left _ _
  | cons step rest ih =>
    intro clock mem
    rcases List.mem_append.mp (ih mem) with old | later
    · rcases List.mem_append.mp (step.clocks_subset old) with old | now
      · exact List.mem_append_left _ old
      · refine List.mem_append_right _ (List.mem_filterMap.mpr ⟨_, List.mem_cons_self, ?_⟩)
        exact Option.mem_toList.mp now
    · obtain ⟨deed, mem, time⟩ := List.mem_filterMap.mp later
      exact List.mem_append_right _
        (List.mem_filterMap.mpr ⟨deed, List.mem_cons_of_mem _ mem, time⟩)

/-- The clocks show times at which calls were made. -/
theorem Run.clocks_subset {start s : Scheduler τ} {trace : Trace τ} (fresh : start.Fresh)
    (run : Run start trace s) : s.clocks ⊆ trace.times := by
  obtain ⟨deeds, steps, accounts⟩ := run.steps
  intro clock mem
  rcases List.mem_append.mp (steps.clocks_subset mem) with old | later
  · cases fresh with
    | mk => cases old
  · obtain ⟨deed, mem, time⟩ := List.mem_filterMap.mp later
    obtain ⟨entry, listed, permits⟩ := accounts.permitted deed mem
    exact List.mem_filterMap.mpr ⟨entry, listed, permits.time_eq time⟩

/-! ### Failures -/

/-- Only giving a command up is another failure. -/
theorem Step.failures_le {s s' : Scheduler τ} {deed : Deed} (step : Step s deed s')
    (other : ∀ slot item now, deed ≠ .ended slot item .timeout none now) :
    s'.failures ≤ s.failures := by
  cases step with
  | quiet aside => cases aside <;> exact Nat.le_refl _
  | giveUp => exact absurd rfl (other _ _ _)
  | confirm | start | startFailed | tearDown | connect => exact Nat.zero_le _
  | _ => exact Nat.le_refl _

/-- Commands are given up in ticks only. -/
theorem Steps.failures_le {s s' : Scheduler τ} {deeds : List Deed} {act : Act τ}
    (steps : Steps s deeds s') (permitted : ∀ deed ∈ deeds, act.Permits deed)
    (untimed : ∀ now, act ≠ .tick now) : s'.failures ≤ s.failures := by
  induction steps with
  | nil s => exact Nat.le_refl _
  | cons step rest ih =>
    obtain ⟨first, later⟩ := List.forall_mem_cons.mp permitted
    refine Nat.le_trans (ih later) (step.failures_le ?_)
    rintro slot item now rfl
    exact untimed now first

theorem failures_sweepTimeouts_lt (s : Scheduler τ) (now : Nat)
    (threshold : 0 < s.settings.failureThreshold) :
    (s.sweepTimeouts now).failures < s.settings.failureThreshold := by
  obtain ⟨-, settings, -⟩ := s.foldl_expire_frame (s.expired now)
  unfold sweepTimeouts
  dsimp only
  generalize (s.expired now).foldl expire s = s' at settings ⊢
  split
  · have proceeds : { s'.setGauge .failureCount s'.failures with failures := 0 }.Proceeds
        .openSession (s'.setGauge .failureCount s'.failures).teardown :=
      (forgiven_advances _).proceeds
    obtain ⟨deeds, steps, each⟩ := proceeds
    have forgiven := steps.failures_le (fun deed mem => (each deed mem).2) nofun
    exact Nat.lt_of_le_of_lt forgiven threshold
  · rename_i few
    rw [← settings]
    exact Nat.not_le.mp few

theorem failures_tick_lt (s : Scheduler τ) (now : Nat)
    (few : s.failures < s.settings.failureThreshold) :
    (s.tick now).2.failures < s.settings.failureThreshold := by
  by_cases operational : s.connection = .operational
  · have swept := failures_sweepTimeouts_lt { s with wake := false } now (Nat.zero_lt_of_lt few)
    by_cases kept : ({ s with wake := false }.sweepTimeouts now).connection = .operational
    · obtain ⟨_, _, _, _, _, _, _, _, served⟩ :=
        ({ s with wake := false }.sweepTimeouts now).serve_frame now
      rw [tick_of_swept operational rfl kept, served]
      exact swept
    · rw [tick_of_torn operational rfl kept]
      exact swept
  · unfold tick
    dsimp only
    rw [if_pos operational]
    exact few

/-- Between calls a session has not failed too often. -/
theorem Run.failures_lt {start s : Scheduler τ} {trace : Trace τ} (fresh : start.Fresh)
    (run : Run start trace s) (threshold : 0 < start.settings.failureThreshold) :
    s.failures < start.settings.failureThreshold := by
  induction run with
  | nil =>
    cases fresh with
    | mk => exact threshold
  | snoc run act ih =>
    rename_i s
    obtain ⟨deeds, steps, -⟩ := run.steps
    obtain ⟨settings, -⟩ := steps.made_eq
    obtain ⟨later, steps, accounts⟩ := s.perform_steps act
    have permitted : ∀ deed ∈ later, act.Permits deed := fun _ => accounts.permits
    cases act with
    | tick now =>
      rw [← settings] at ih ⊢
      exact s.failures_tick_lt now ih
    | _ => exact Nat.lt_of_le_of_lt (steps.failures_le permitted nofun) ih

omit [Transport τ] in
/-- One slot is one more failure at most. -/
theorem failures_expire_le (s : Scheduler τ) (slot : Nat) :
    (s.expire slot).failures ≤ s.failures + 1 := by
  cases held : s.queue.get? slot with
  | none =>
    unfold expire
    rw [held]
    exact Nat.le_succ _
  | some item =>
    by_cases left : item.retries < s.settings.maxRetries
    · rw [expire_of_retry held left]
      exact Nat.le_succ _
    · rw [expire_of_spent held left]
      exact Nat.le_refl _

omit [Transport τ] in
theorem failures_foldl_expire_le (s : Scheduler τ) (slots : List Nat) :
    (slots.foldl expire s).failures ≤ s.failures + slots.length := by
  induction slots generalizing s with
  | nil => exact Nat.le_refl _
  | cons slot slots ih =>
    have once := s.failures_expire_le slot
    have rest := ih (s.expire slot)
    rw [List.foldl_cons, List.length_cons]
    omega

omit [Transport τ] in
theorem length_expired_le (s : Scheduler τ) (now : Nat) :
    (s.expired now).length ≤ SendQueue.capacity := by
  unfold expired SendQueue.entries
  rw [List.length_map]
  refine Nat.le_trans (List.length_filter_le _ _) ?_
  exact Nat.le_trans (List.length_filterMap_le _ _) (Nat.le_of_eq List.length_range)

/-- **A word of 32 bits counts the failures.** If the threshold leaves room for one more failure of
each slot, then no sweep over the slots, however far it has come, counts beyond such a word. -/
theorem Run.failures_lt_size {start s : Scheduler τ} {trace : Trace τ} (fresh : start.Fresh)
    (run : Run start trace s) (threshold : 0 < start.settings.failureThreshold)
    (room : start.settings.failureThreshold + SendQueue.capacity ≤ UInt32.size) (now : Nat)
    {swept : List Nat} (sweep : swept <+: s.expired now) :
    (swept.foldl expire s).failures < UInt32.size := by
  have few := run.failures_lt fresh threshold
  have added := s.failures_foldl_expire_le swept
  have short := Nat.le_trans sweep.length_le (s.length_expired_le now)
  omega

/-! ### Runs -/

/-- **Nothing happens before the deadline.** Under settings that have been checked, and while
commands flow, a scheduler that has not been told of a later time than now has a deadline. If
nothing else is done, a tick at any time from now on and before the deadline hands over no frame,
gives the same deadline, and leaves all but the gauges as it was. -/
theorem Run.quiet_until_deadline {start s : Scheduler τ} {trace : Trace τ} {now : Nat}
    (fresh : start.Fresh) (run : Run start trace s) (valid : start.settings.Valid)
    (past : ∀ time ∈ trace.times, time ≤ now) (operational : s.connection = .operational) :
    ∃ deadline, s.nextDeadline now = some deadline ∧
      ∀ later, now ≤ later → later < deadline →
        s.handed (.tick later) = [] ∧
          ∃ metrics : Recording, s.tick later = (some deadline, { s with metrics }) := by
  obtain ⟨deeds, steps, -⟩ := run.steps
  obtain ⟨settings, -⟩ := steps.made_eq
  have few := run.failures_lt fresh valid.failureThreshold
  have clocked : ∀ clock ∈ s.clocks, clock ≤ now :=
    fun _ mem => past _ (run.clocks_subset fresh mem)
  rw [← settings] at valid few
  obtain ⟨deadline, next⟩ : ∃ deadline, s.nextDeadline now = some deadline := by
    cases calm : s.pressing with
    | true => exact ⟨now, nextDeadline_of_pressing now operational calm⟩
    | false =>
      obtain ⟨-, sentOut, -⟩ := pressing_eq_false_iff.mp calm
      have due := alarms_ne_nil now (run.sound fresh) valid.window sentOut
      obtain ⟨first, least⟩ := Option.isSome_iff_exists.mp (List.isSome_min?_of_ne_nil due)
      exact ⟨max now first, by rw [nextDeadline_of_calm now operational calm, least]; rfl⟩
  refine ⟨deadline, next, fun later after before => ?_⟩
  obtain ⟨asleep, timely, idle, sentOut, same⟩ :=
    quiet_of_lt_nextDeadline valid.confirmTimeout clocked operational next after before
  have awake : { s with wake := false } = s := by rw [← asleep]
  obtain ⟨metrics, ticked⟩ := tick_of_idle operational timely few (.inr idle) sentOut
  obtain ⟨_, logged⟩ := tick_of_idle (s := s.logged) operational timely few (.inr idle) sentOut
  refine ⟨?_, metrics, ?_⟩
  · change (s.logged.tick later).2.transport.handed = []
    rw [logged]
    rfl
  · rw [ticked, awake, same, asleep]

/-- A command and a probe have been sent, and no more may be. -/
def probeInFlight : Trace SimulatedTransport × Scheduler SimulatedTransport :=
  performAll { transport := { autoConnect := true } }
    [.openSession, .handleEvent ⟨1, .connected⟩ 0,
      .enqueue { id := Command.version, values := [.u32 0] } none, .tick 5]

theorem Run.quiet_until_deadline_of_probeInFlight :
    Fresh ({ transport := { autoConnect := true } } : Scheduler SimulatedTransport) ∧
      Run { transport := { autoConnect := true } } probeInFlight.1 probeInFlight.2 ∧
      SchedulerSettings.Valid {} ∧ (∀ time ∈ probeInFlight.1.times, time ≤ 5) ∧
      probeInFlight.2.connection = .operational ∧
      probeInFlight.2.nextDeadline 5 = some 1005 ∧
      probeInFlight.2.handed (.tick 700) = [] ∧
      ∃ metrics : Recording,
        probeInFlight.2.tick 700 = (some 1005, { probeInFlight.2 with metrics }) := by
  have fresh : Fresh ({ transport := { autoConnect := true } } : Scheduler SimulatedTransport) :=
    .mk _ _ _ _ _
  have run : Run { transport := { autoConnect := true } } probeInFlight.1 probeInFlight.2 :=
    run_performAll _ _
  have valid : SchedulerSettings.Valid {} := ⟨by decide, by decide, by decide⟩
  have past : ∀ time ∈ probeInFlight.1.times, time ≤ 5 := by
    have times : probeInFlight.1.times = [0, 5] := by rfl
    rw [times]
    decide
  have operational : probeInFlight.2.connection = .operational := by rfl
  have known : probeInFlight.2.nextDeadline 5 = some 1005 := by decide +kernel
  obtain ⟨deadline, next, quiet⟩ := quiet_until_deadline fresh run valid past operational
  obtain rfl : deadline = 1005 := by
    rw [known] at next
    exact (Option.some.inj next).symm
  exact ⟨fresh, run, valid, past, operational, next, quiet 700 (by decide) (by decide)⟩

end Scheduler

end SerialLink
