import SerialLink.Proofs.Scheduler.Deadline
import SerialLink.Proofs.Scheduler.History
import SerialLink.Proofs.Scheduler.Requests
import SerialLink.Proofs.Scheduler.Sessions
import SerialLink.Proofs.Scheduler.Settling

/-!
Commands that are given up in a row. The scheduler counts them, and a sign of life from the device
or a new session begins the count anew. The sweep that reaches the threshold ends the session: the
commands that it gives up have timed out, all other work is failed because the session ends, users
are told why, and another session is asked for if that is wanted.
-/
namespace SerialLink.Scheduler

/-! ### What the history says -/

namespace Deed

/-- The count of commands given up begins anew. -/
def forgives : Deed → Bool
  | .ended _ _ .success _ _ | .connected _ | .opened _ | .tornDown => true
  | _ => false

/-- A command is given up. -/
def givesUp : Deed → Bool
  | .ended _ _ .timeout _ _ => true
  | _ => false

/-- A session is asked for. -/
def opens : Deed → Bool
  | .opened _ => true
  | _ => false

/-- The update loader has answered. -/
def hearsLoader : Deed → Bool
  | .told .bootloaderActive => true
  | _ => false

end Deed

/-- The deeds since the last one of a kind, newest first. -/
def since (kind : Deed → Bool) (deeds : List Deed) : List Deed :=
  deeds.reverse.takeWhile fun deed => !kind deed

theorem since_snoc (kind : Deed → Bool) (deeds : List Deed) (deed : Deed) :
    since kind (deeds ++ [deed]) = if kind deed then [] else deed :: since kind deeds := by
  cases of_kind : kind deed <;> simp [since, of_kind]

/-- How many commands have been given up since the count began anew. -/
def givenUpInARow (deeds : List Deed) : Nat := (since Deed.forgives deeds).countP Deed.givesUp

/-- The update loader has answered since a session was last asked for. -/
def loaderAnswered (deeds : List Deed) : Bool :=
  (since Deed.opens deeds).any Deed.hearsLoader

section History

variable {τ : Type} [Transport τ]

theorem Step.failures_eq {s s' : Scheduler τ} {deed : Deed} (step : Step s deed s') :
    s'.failures =
      if deed.forgives then 0 else s.failures + if deed.givesUp then 1 else 0 := by
  cases step with
  | quiet aside => cases aside <;> rfl
  | _ => rfl

/-- The history tells how many commands have been given up in a row. -/
theorem Steps.failures_eq {start s : Scheduler τ} {deeds : List Deed} (steps : Steps start deeds s)
    (none_yet : start.failures = 0) : s.failures = givenUpInARow deeds := by
  refine steps.along (fun deeds s => s.failures = givenUpInARow deeds) none_yet ?_
  intro deeds s s' deed _ before step
  rw [step.failures_eq, before]
  unfold givenUpInARow
  rw [since_snoc]
  by_cases forgives : deed.forgives
  · simp [forgives]
  · simp [forgives, List.countP_cons]

theorem Step.bootloaderSeen_eq {s s' : Scheduler τ} {deed : Deed} (step : Step s deed s') :
    s'.bootloaderSeen =
      if deed.opens then false else deed.hearsLoader || s.bootloaderSeen := by
  cases step with
  | quiet aside => cases aside <;> rfl
  | _ => rfl

/-- The history tells whether the update loader has answered. -/
theorem Steps.bootloaderSeen_eq {start s : Scheduler τ} {deeds : List Deed}
    (steps : Steps start deeds s) (unseen : start.bootloaderSeen = false) :
    s.bootloaderSeen = loaderAnswered deeds := by
  refine steps.along (fun deeds s => s.bootloaderSeen = loaderAnswered deeds) unseen ?_
  intro deeds s s' deed _ before step
  rw [step.bootloaderSeen_eq, before]
  unfold loaderAnswered
  rw [since_snoc]
  by_cases opens : deed.opens
  · simp [opens]
  · simp [opens]

end History

/-! ### The sweep -/

section Sweep

variable {τ : Type}

/-- The item has been sent as often as it may be. -/
def spent (s : Scheduler τ) (item : QueueItem) : Bool :=
  !decide (item.retries < s.settings.maxRetries)

/-- The item in a slot, if it is given up once its confirm is overdue. -/
def spentIn? (s : Scheduler τ) (slot : Nat) : Option QueueItem :=
  (s.queue.get? slot).filter s.spent

/-- A sweep at this time gives the item up. -/
def lapses (s : Scheduler τ) (now : Nat) (item : QueueItem) : Bool :=
  s.overdue now item && s.spent item

/-- The items that a sweep gives up, by slot. -/
def givenUpAt (s : Scheduler τ) (now : Nat) : List QueueItem := s.queue.items.filter (s.lapses now)

/-- The items that a sweep does not give up, by slot. -/
def keptAt (s : Scheduler τ) (now : Nat) : List QueueItem :=
  s.queue.items.filter fun item => !s.lapses now item

/-- The confirms in these slots have been seen to: an item that has been sent as often as it may be
has left its slot, and those who wait for it are told; any other stays. -/
structure SeenTo (s : Scheduler τ) (slots : List Nat) (s' : Scheduler τ) : Prop where
  failures : s'.failures = s.failures + (slots.filterMap s.spentIn?).length
  told : s'.completions = s.completions ++
    (slots.filterMap s.spentIn?).filterMap fun item => item.origin.outcome .timeout none
  held : ∀ slot, (s'.queue.get? slot).map QueueItem.origin =
    if slot ∈ slots ∧ (s.spentIn? slot).isSome then none
    else (s.queue.get? slot).map QueueItem.origin
  session : s'.session = s.session
  bootloaderSeen : s'.bootloaderSeen = s.bootloaderSeen

/-- What becomes of the slot itself. -/
theorem expire_itself (s : Scheduler τ) (slot : Nat) :
    (s.expire slot).failures = s.failures + (s.spentIn? slot).toList.length ∧
      (s.expire slot).completions = s.completions ++
        (s.spentIn? slot).toList.filterMap (fun item => item.origin.outcome .timeout none) ∧
      ((s.expire slot).queue.get? slot).map QueueItem.origin =
        if (s.spentIn? slot).isSome then none
        else (s.queue.get? slot).map QueueItem.origin := by
  cases held : s.queue.get? slot with
  | none =>
    have unspent : s.spentIn? slot = none := by simp [spentIn?, held]
    have same : s.expire slot = s := by
      unfold expire
      rw [held]
    simp [same, unspent, held]
  | some item =>
    have inside := SendQueue.lt_of_get? held
    by_cases left : item.retries < s.settings.maxRetries
    · have unspent : s.spentIn? slot = none := by simp [spentIn?, held, spent, left]
      rw [expire_of_retry held left, unspent]
      refine ⟨rfl, (List.append_nil _).symm, ?_⟩
      change ((s.queue.set slot ((s.queue.get? slot).map QueueItem.again)).get? slot).map _ = _
      rw [SendQueue.get?_set_self inside, held]
      rfl
    · have gone : s.spentIn? slot = some item := by simp [spentIn?, held, spent, left]
      rw [expire_of_spent held left, gone]
      refine ⟨rfl, ?_, congrArg _ (SendQueue.get?_set_self inside none)⟩
      change s.completions ++ (item.origin.outcome .timeout none).toList = _
      cases outcome : item.origin.outcome .timeout none <;> simp [outcome]

theorem expire_session (s : Scheduler τ) (slot : Nat) :
    (s.expire slot).session = s.session ∧ (s.expire slot).bootloaderSeen = s.bootloaderSeen := by
  unfold expire
  split
  · exact ⟨rfl, rfl⟩
  · split <;> exact ⟨rfl, rfl⟩

/-- A slot that has been seen to does not matter to the others. -/
theorem spentIn?_expire {s : Scheduler τ} {slot other : Nat} (ne : other ≠ slot) :
    (s.expire slot).spentIn? other = s.spentIn? other := by
  obtain ⟨-, settings, -, -, others⟩ := s.expire_frame slot
  have same : (s.expire slot).spent = s.spent := by
    funext item
    unfold spent
    rw [settings]
  unfold spentIn?
  rw [others other ne, same]

theorem seenTo_foldl_expire (s : Scheduler τ) {slots : List Nat} (nodup : slots.Nodup) :
    s.SeenTo slots (slots.foldl expire s) := by
  induction slots generalizing s with
  | nil => exact ⟨rfl, (List.append_nil _).symm, fun slot => by simp, rfl, rfl⟩
  | cons slot slots ih =>
    obtain ⟨unlisted, nodup⟩ := List.nodup_cons.mp nodup
    obtain ⟨failures, told, held, session, seen⟩ := ih (s.expire slot) nodup
    obtain ⟨-, -, -, -, others⟩ := s.expire_frame slot
    obtain ⟨failures', told', itself⟩ := s.expire_itself slot
    obtain ⟨session', seen'⟩ := s.expire_session slot
    -- No slot is listed twice, so the later ones are as they were.
    have ne {other : Nat} (mem : other ∈ slots) : other ≠ slot := fun same => unlisted (same ▸ mem)
    have later : slots.filterMap (s.expire slot).spentIn? = slots.filterMap s.spentIn? :=
      List.filterMap_congr fun other mem => spentIn?_expire (ne mem)
    have all : (slot :: slots).filterMap s.spentIn? =
        (s.spentIn? slot).toList ++ slots.filterMap s.spentIn? := by
      rw [List.filterMap_cons]
      cases s.spentIn? slot <;> rfl
    rw [later] at failures told
    rw [List.foldl_cons]
    refine ⟨?_, ?_, ?_, session.trans session', seen.trans seen'⟩
    · rw [failures, failures', all, List.length_append, Nat.add_assoc]
    · rw [told, told', all, List.filterMap_append, List.append_assoc]
    · intro other
      rw [held other]
      by_cases same : other = slot
      · subst same
        simpa [unlisted] using itself
      · rw [spentIn?_expire same, others other same]
        simp [same]

/-- Of the overdue items the spent ones are given up. -/
theorem filterMap_spentIn?_expired (s : Scheduler τ) (now : Nat) :
    (s.expired now).filterMap s.spentIn? = s.givenUpAt now := by
  unfold expired givenUpAt SendQueue.entries SendQueue.items
  rw [List.filterMap_map, List.filterMap_filter, List.filterMap_filterMap, List.filter_filterMap]
  refine List.filterMap_congr fun slot _ => ?_
  cases held : s.queue.get? slot with
  | none => rfl
  | some item =>
    change (if s.overdue now item then s.spentIn? slot else none) =
      (some item).filter (s.lapses now)
    unfold spentIn? lapses
    rw [held]
    cases overdue : s.overdue now item <;> simp [Option.filter_some, overdue]

/-- What is left in the queue has the origins of the items that are not given up. -/
theorem SeenTo.outcomes_eq {s s' : Scheduler τ} {now : Nat} (seenTo : s.SeenTo (s.expired now) s')
    (status : CompletionStatus) :
    s'.queue.items.filterMap (fun item => item.origin.outcome status none) =
      (s.keptAt now).filterMap fun item => item.origin.outcome status none := by
  unfold keptAt SendQueue.items
  rw [List.filterMap_filterMap, List.filter_filterMap, List.filterMap_filterMap]
  refine List.filterMap_congr fun slot _ => ?_
  -- Both sides depend on the origin alone.
  have by_origin (item? : Option QueueItem) :
      (item?.bind fun item => item.origin.outcome status none) =
        (item?.map QueueItem.origin).bind (Origin.outcome status none) := by
    cases item? <;> rfl
  rw [by_origin, by_origin, seenTo.held slot]
  congr 1
  cases held : s.queue.get? slot with
  | none => simp
  | some item =>
    have gone : (slot ∈ s.expired now ∧ (s.spentIn? slot).isSome) ↔ s.lapses now item := by
      rw [mem_expired]
      simp [held, spentIn?, lapses]
    by_cases lapses : s.lapses now item
    · rw [if_pos (gone.mpr lapses)]
      simp [Option.filter_some, lapses]
    · rw [if_neg fun both => lapses (gone.mp both)]
      simp [Option.filter_some, lapses]

end Sweep

/-! ### The teardown -/

section Ends

variable {τ : Type}

/-- What the end of a session tells of the work outstanding: the queued commands by slot, then the
bulk requests by age. -/
def failing (s : Scheduler τ) : List Completion :=
  s.queue.items.filterMap (fun item => item.origin.outcome .disconnected none) ++
    s.pending.toList.map fun id => .request id .disconnected

theorem killAll_eq {s : Scheduler τ} (ring : s.pending.WellFormed) :
    ∃ (pending : PendingRing) (metrics : Recording),
      pending.WellFormed ∧ pending.toList = [] ∧
      s.killAll .disconnected =
        { s with queue := {}, pending, completions := s.completions ++ s.failing, metrics } := by
  obtain ⟨ids, kept, none⟩ := ring.drain
  refine ⟨s.pending.drain.2, (s.killAll .disconnected).metrics, kept, none, ?_⟩
  unfold failing
  rw [← ids]
  rfl

theorem endSession_of_joined {s : Scheduler τ} {session : Nat} (joined : s.session = some session)
    (ring : s.pending.WellFormed) (reason : DisconnectReason) :
    ∃ (pending : PendingRing) (metrics : Recording),
      pending.WellFormed ∧ pending.toList = [] ∧
      s.endSession reason =
        { s with
          queue := {}
          pending
          connection := .off
          session := none
          connectedAt := none
          completions := s.completions ++ s.failing ++ [.event (.disconnected reason)]
          metrics } := by
  obtain ⟨pending, metrics, kept, none, killed⟩ := killAll_eq ring
  refine ⟨pending, (s.endSession reason).metrics, kept, none, ?_⟩
  unfold endSession
  rw [killed]
  simp only [joined]
  rfl

variable [Transport τ]

/-- A session has ended because too many commands in a row were given up. -/
structure TornDown (s : Scheduler τ) (outcomes : List Completion) (reason : DisconnectReason)
    (s' : Scheduler τ) : Prop where
  /-- The end is told last, behind the outcomes of all work. -/
  told : s'.completions = s.completions ++ outcomes ++ [.event (.disconnected reason)]
  queue : s'.queue.items = []
  pending : s'.pending.toList = []
  failures : s'.failures = 0
  closed : s.settings.autoReconnect = false →
    s'.transport = Transport.stop reason s.transport ∧ s'.session = none ∧ s'.connection = .off
  /-- The transport is asked for a session once, and may refuse. -/
  reopened : s.settings.autoReconnect = true →
    (Transport.start (Transport.stop reason s.transport) = (.ok (), s'.transport) ∧
        s'.session = some (Transport.session s'.transport) ∧ s'.connection = .connecting) ∨
      ∃ fault, Transport.start (Transport.stop reason s.transport) = (.error fault, s'.transport) ∧
        s'.session = none ∧ s'.connection = .off

/-- What has been told before the teardown is told before the end. -/
theorem TornDown.behind {s s₁ s' : Scheduler τ} {before outcomes : List Completion}
    {reason : DisconnectReason} (torn : s₁.TornDown outcomes reason s')
    (told : s₁.completions = s.completions ++ before) (settings : s₁.settings = s.settings)
    (transport : s₁.transport = s.transport) : s.TornDown (before ++ outcomes) reason s' := by
  refine ⟨?_, torn.queue, torn.pending, torn.failures, ?_, ?_⟩
  · rw [torn.told, told]
    simp only [List.append_assoc]
  · rw [← settings, ← transport]
    exact torn.closed
  · rw [← settings, ← transport]
    exact torn.reopened

/-- A session is asked for once. If it is not given, the session is as before. -/
theorem openSession_eq {s : Scheduler τ} (ring : s.pending.WellFormed) :
    s.openSession.2.completions = s.completions ++ s.failing ∧
      s.openSession.2.queue.items = [] ∧ s.openSession.2.pending.toList = [] ∧
      s.openSession.2.failures = 0 ∧
      ((Transport.start s.transport = (.ok (), s.openSession.2.transport) ∧
          s.openSession.2.session = some (Transport.session s.openSession.2.transport) ∧
          s.openSession.2.connection = .connecting) ∨
        ∃ fault, Transport.start s.transport = (.error fault, s.openSession.2.transport) ∧
          s.openSession.2.session = s.session ∧ s.openSession.2.connection = .off) := by
  obtain ⟨pending, metrics, kept, none, killed⟩ := killAll_eq ring
  unfold openSession
  rw [killed]
  dsimp only
  rcases started : Transport.start s.transport with ⟨result, transport⟩
  cases result with
  | error fault =>
    exact ⟨rfl, SendQueue.items_empty, none, rfl, .inr ⟨fault, rfl, rfl, rfl⟩⟩
  | ok => exact ⟨rfl, SendQueue.items_empty, none, rfl, .inl ⟨rfl, rfl, rfl⟩⟩

theorem tornDown_teardown {s : Scheduler τ} {session : Nat} (joined : s.session = some session)
    (ring : s.pending.WellFormed) :
    s.TornDown s.failing (if s.bootloaderSeen then .bootloaderOnly else .timeout) s.teardown := by
  unfold teardown
  dsimp only
  generalize (if s.bootloaderSeen then DisconnectReason.bootloaderOnly else .timeout) = reason
  obtain ⟨pending, metrics, kept, none, ended⟩ :=
    endSession_of_joined (s := { s with failures := 0 }) joined ring reason
  rw [ended]
  dsimp only
  by_cases reconnect : s.settings.autoReconnect
  · rw [if_pos reconnect]
    generalize closed : countMetric _ Metric.reconnects = s'
    have ring' : s'.pending.WellFormed := by
      rw [← closed]
      exact kept
    have transport : s'.transport = Transport.stop reason s.transport := by
      rw [← closed]
      rfl
    have alone : s'.session = .none := by
      rw [← closed]
      rfl
    -- No work is left for the new session to fail.
    have idle : s'.completions ++ s'.failing =
        s.completions ++ s.failing ++ [.event (.disconnected reason)] := by
      rw [← closed]
      unfold failing
      simp [countMetric, addMetric, none]
    obtain ⟨told, queue, pending, failures, opened⟩ := openSession_eq ring'
    rw [transport, alone] at opened
    refine ⟨told.trans idle, queue, pending, failures, ?_, fun _ => opened⟩
    intro unwanted
    exact absurd (reconnect.symm.trans unwanted) nofun
  · rw [if_neg reconnect]
    refine ⟨rfl, SendQueue.items_empty, none, rfl, fun _ => ⟨rfl, rfl, rfl⟩, ?_⟩
    intro wanted
    exact absurd wanted reconnect

/-! ### The tick in which it happens -/

/-- What is told of the work when a sweep ends the session: the commands that it gives up have timed
out, and all other work is failed. -/
def sweptAway (s : Scheduler τ) (now : Nat) : List Completion :=
  (s.givenUpAt now).filterMap (fun item => item.origin.outcome .timeout none) ++
    ((s.keptAt now).filterMap (fun item => item.origin.outcome .disconnected none) ++
      s.pending.toList.map fun id => .request id .disconnected)

/-- A sweep sees to the overdue confirms, and then ends the session if the threshold is reached. -/
theorem exists_swept (s : Scheduler τ) (now : Nat) :
    ∃ swept : Scheduler τ, s.SeenTo (s.expired now) swept ∧ swept.connection = s.connection ∧
      swept.settings = s.settings ∧ swept.transport = s.transport ∧ swept.pending = s.pending ∧
      s.sweepTimeouts now =
        if s.settings.failureThreshold ≤ s.failures + (s.givenUpAt now).length then swept.teardown
        else swept := by
  obtain ⟨failures, told, held, session, seen⟩ := s.seenTo_foldl_expire (s.nodup_expired now)
  obtain ⟨connection, settings, transport, pending⟩ := s.foldl_expire_frame (s.expired now)
  have counted := failures
  rw [filterMap_spentIn?_expired] at counted
  unfold sweepTimeouts
  dsimp only
  generalize (s.expired now).foldl expire s = swept at *
  -- The gauge that is set in between is not looked at.
  refine ⟨swept.setGauge .failureCount swept.failures, ⟨failures, told, held, session, seen⟩,
    connection, settings, transport, pending, ?_⟩
  rw [← counted, ← settings]
  rfl

/-- The sweep that reaches the threshold ends the session. -/
theorem tornDown_sweepTimeouts {s : Scheduler τ} {session now : Nat}
    (joined : s.session = some session) (ring : s.pending.WellFormed)
    (many : s.settings.failureThreshold ≤ s.failures + (s.givenUpAt now).length) :
    s.TornDown (s.sweptAway now) (if s.bootloaderSeen then .bootloaderOnly else .timeout)
      (s.sweepTimeouts now) ∧ (s.sweepTimeouts now).connection ≠ .operational := by
  obtain ⟨swept, seenTo, -, settings, transport, pending, eq⟩ := s.exists_swept now
  have told := seenTo.told
  rw [filterMap_spentIn?_expired] at told
  have failing : swept.failing = (s.keptAt now).filterMap
      (fun item => item.origin.outcome .disconnected none) ++
        s.pending.toList.map fun id => .request id .disconnected := by
    unfold Scheduler.failing
    rw [seenTo.outcomes_eq, pending]
  have torn := tornDown_teardown (seenTo.session.trans joined) (pending ▸ ring)
  rw [failing, seenTo.bootloaderSeen] at torn
  rw [eq, if_pos many]
  exact ⟨torn.behind told settings transport, teardown_connection _⟩

/-- A sweep that stays below the threshold counts what it gives up. -/
theorem sweepTimeouts_of_few {s : Scheduler τ} {now : Nat}
    (few : s.failures + (s.givenUpAt now).length < s.settings.failureThreshold) :
    (s.sweepTimeouts now).failures = s.failures + (s.givenUpAt now).length ∧
      (s.sweepTimeouts now).session = s.session ∧
      (s.sweepTimeouts now).connection = s.connection := by
  obtain ⟨swept, seenTo, connection, -, -, -, eq⟩ := s.exists_swept now
  have failures := seenTo.failures
  rw [filterMap_spentIn?_expired] at failures
  rw [eq, if_neg (Nat.not_le.mpr few)]
  exact ⟨failures, seenTo.session, connection⟩

theorem tick_of_many {s : Scheduler τ} {session now : Nat}
    (operational : s.connection = .operational) (joined : s.session = some session)
    (ring : s.pending.WellFormed)
    (many : s.settings.failureThreshold ≤ s.failures + (s.givenUpAt now).length) :
    (s.tick now).1 = none ∧
      s.TornDown (s.sweptAway now) (if s.bootloaderSeen then .bootloaderOnly else .timeout)
        (s.tick now).2 := by
  obtain ⟨torn, lost⟩ :=
    tornDown_sweepTimeouts (s := { s with wake := false }) joined ring many
  rw [tick_of_torn operational rfl lost]
  exact ⟨rfl, torn.told, torn.queue, torn.pending, torn.failures, torn.closed, torn.reopened⟩

theorem tick_of_few {s : Scheduler τ} {now : Nat} (operational : s.connection = .operational)
    (few : s.failures + (s.givenUpAt now).length < s.settings.failureThreshold) :
    (s.tick now).2.failures = s.failures + (s.givenUpAt now).length ∧
      (s.tick now).2.session = s.session := by
  obtain ⟨failures, session, connection⟩ :=
    sweepTimeouts_of_few (s := { s with wake := false }) few
  obtain ⟨_, _, _, _, _, _, _, _, served⟩ :=
    ({ s with wake := false }.sweepTimeouts now).serve_frame now
  rw [tick_of_swept operational rfl (connection.trans operational), served]
  exact ⟨failures, session⟩

/-- **Failures in a row.** Between calls, the failures counted are the commands given up since the
count last began anew: at a confirm that was waited for, when the session became operational, when
one was asked for, or when one was torn down; and they are fewer than the threshold. A tick counts
what it gives up. If that reaches the threshold, the session ends in the same tick: what is given up
has timed out, all other work is failed, and then users are told the end and its reason; another
session is asked for once if that is wanted, and else not at all. -/
theorem Run.failures_in_a_row {start s : Scheduler τ} {trace : Trace τ} (fresh : start.Fresh)
    (run : Run start trace s) (threshold : 0 < start.settings.failureThreshold) :
    s.failures < s.settings.failureThreshold ∧
      (∃ deeds : List Deed, Steps start deeds s ∧ Accounts trace deeds) ∧
      ∀ deeds : List Deed, Steps start deeds s →
        s.failures = givenUpInARow deeds ∧
        ∀ now, s.connection = .operational →
          (s.failures + (s.givenUpAt now).length < s.settings.failureThreshold →
            (s.tick now).2.failures = s.failures + (s.givenUpAt now).length ∧
              (s.tick now).2.session = s.session) ∧
          (s.settings.failureThreshold ≤ s.failures + (s.givenUpAt now).length →
            (s.tick now).1 = none ∧
              s.TornDown (s.sweptAway now)
                (if loaderAnswered deeds then .bootloaderOnly else .timeout) (s.tick now).2) := by
  obtain ⟨deeds, steps, accounts⟩ := run.steps
  obtain ⟨settings, -⟩ := steps.made_eq
  have made : start.failures = 0 ∧ start.bootloaderSeen = false ∧
      (start.session = none → start.connection = .off) := by
    cases fresh with
    | mk => exact ⟨rfl, rfl, fun _ => rfl⟩
  obtain ⟨none_yet, unseen, off⟩ := made
  have ring : s.pending.WellFormed := (steps.requests_eq fresh.ordered.1).2.ring
  refine ⟨settings ▸ run.failures_lt fresh threshold, ⟨deeds, steps, accounts⟩, ?_⟩
  intro deeds steps
  refine ⟨steps.failures_eq none_yet, fun now operational => ⟨tick_of_few operational, ?_⟩⟩
  intro many
  -- Commands flow in a session only, so there is an end to tell.
  have joined : ∃ session, s.session = some session := by
    refine Option.ne_none_iff_exists'.mp fun alone => ?_
    have lost := steps.keep Step.off_of_alone off alone
    rw [operational] at lost
    cases lost
  obtain ⟨session, joined⟩ := joined
  rw [← steps.bootloaderSeen_eq unseen]
  exact tick_of_many operational joined ring many

end Ends

/-- A command is sent once, and two in a row that are given up end the session. -/
def impatient : Scheduler SimulatedTransport where
  transport := { autoConnect := true }
  settings := { maxRetries := 0, failureThreshold := 2 }

/-- Two commands are in flight, another and a bulk request wait, and the update loader has
answered. -/
def unanswered : Trace SimulatedTransport × Scheduler SimulatedTransport :=
  performAll impatient
    [.openSession, .handleEvent ⟨1, .connected⟩ 0, .handleEvent ⟨1, .bootloaderActive⟩ 0,
      .enqueue { id := Command.version, values := [.u32 0] } (some ⟨1⟩),
      .enqueue { id := Command.version, values := [.u32 0] } (some ⟨2⟩),
      .enqueue { id := Command.version, values := [.u32 0] } (some ⟨3⟩), .submitRequest ⟨7⟩,
      .tick 0]

theorem Run.failures_in_a_row_of_unanswered :
    Fresh impatient ∧ Run impatient unanswered.1 unanswered.2 ∧
      0 < impatient.settings.failureThreshold ∧ unanswered.2.failures = 0 ∧
      (unanswered.2.givenUpAt 1000).length = 2 ∧ (unanswered.2.tick 1000).1 = none ∧
      (unanswered.2.tick 1000).2.completions = unanswered.2.completions ++
        [.command ⟨1⟩ .timeout none, .command ⟨2⟩ .timeout none, .command ⟨3⟩ .disconnected none,
          .request ⟨7⟩ .disconnected] ++ [.event (.disconnected .bootloaderOnly)] ∧
      (unanswered.2.tick 1000).2.failures = 0 ∧ unanswered.2.transport.opens = 1 ∧
      (unanswered.2.tick 1000).2.transport.opens = 2 := by
  have fresh : Fresh impatient := .mk _ _ _ _ _
  have run : Run impatient unanswered.1 unanswered.2 := run_performAll _ _
  have threshold : 0 < impatient.settings.failureThreshold := by decide
  have operational : unanswered.2.connection = .operational := by decide +kernel
  have lapsed : (unanswered.2.givenUpAt 1000).length = 2 := by decide +kernel
  have most : unanswered.2.settings.failureThreshold = 2 := by decide +kernel
  have swept : unanswered.2.sweptAway 1000 =
      [.command ⟨1⟩ .timeout none, .command ⟨2⟩ .timeout none, .command ⟨3⟩ .disconnected none,
        .request ⟨7⟩ .disconnected] := by decide +kernel
  obtain ⟨-, ⟨deeds, steps, -⟩, counted⟩ := failures_in_a_row fresh run threshold
  obtain ⟨-, ticks⟩ := counted deeds steps
  obtain ⟨-, ends⟩ := ticks 1000 operational
  obtain ⟨silent, torn⟩ := ends (by rw [lapsed, most]; exact Nat.le_add_left 2 _)
  have answered : loaderAnswered deeds = true := by
    rw [← steps.bootloaderSeen_eq rfl]
    decide +kernel
  have told := torn.told
  rw [swept, answered] at told
  exact ⟨fresh, run, threshold, by decide +kernel, lapsed, silent, told, torn.failures,
    by decide +kernel, by decide +kernel⟩

end SerialLink.Scheduler
