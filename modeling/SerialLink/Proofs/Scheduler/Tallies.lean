import SerialLink.Proofs.Frame.Counts
import SerialLink.Proofs.Metric
import SerialLink.Proofs.Scheduler.InFlight

/-!
What is counted and recorded at once. Sending, putting back, giving up, confirming, completing a
frame and failing to read one are counted by the scheduler or its receiver, and recorded as metrics
in the same step, so no step parts the two accounts (`Step.tallied`). A confirm is counted always,
but its latency is recorded only if the item knows when it was first sent; that it does is part of
`Scheduler.Sound`. The end of a session is recorded where users are told of it
(`Step.disconnects_eq`).
-/

namespace SerialLink

/-- Tells users that a session has ended. -/
def Completion.isDisconnect : Completion → Bool
  | .event (.disconnected _) => true
  | _ => false

/-- The outcome of an item is not such an event. -/
theorem Origin.not_isDisconnect_outcome (origin : Origin) (status : CompletionStatus)
    (response : Option Command) :
    ∀ completion ∈ origin.outcome status response, completion.isDisconnect = false := by
  rcases origin with _ | (_ | _) | _ <;> simp [Origin.outcome, Completion.isDisconnect]

namespace Scheduler

/-! ### What is counted and recorded at once -/

/-- The counters that are added to where the scheduler or its receiver counts. -/
def talliedCounters : List Metric :=
  [.framesSent, .commandsSent, .framesReceived, .decodeErrors, .retries, .timeouts]

/-- The recording agrees with the counts, and with the number of frames received, in what is
recorded just where it is counted. -/
structure Tallies (r : Recording) (counts : SchedulerCounts) (frames : Nat) : Prop where
  framesSent : r.total .framesSent = counts.sent
  commandsSent : r.total .commandsSent = counts.sent
  framesReceived : r.total .framesReceived = frames
  decodeErrors : r.total .decodeErrors = counts.decodeErrors
  retries : r.total .retries = counts.retries
  timeouts : r.total .timeouts = counts.timeouts
  confirmed : r.sampleCount .confirmLatency = counts.confirmed

namespace Tallies

variable {r : Recording} {counts : SchedulerCounts} {frames : Nat}

theorem of_same (tallies : Tallies r counts frames) {r' : Recording}
    (totals : ∀ metric ∈ talliedCounters, r'.total metric = r.total metric)
    (samples : r'.sampleCount .confirmLatency = r.sampleCount .confirmLatency) :
    Tallies r' counts frames where
  framesSent := (totals _ (by decide)).trans tallies.framesSent
  commandsSent := (totals _ (by decide)).trans tallies.commandsSent
  framesReceived := (totals _ (by decide)).trans tallies.framesReceived
  decodeErrors := (totals _ (by decide)).trans tallies.decodeErrors
  retries := (totals _ (by decide)).trans tallies.retries
  timeouts := (totals _ (by decide)).trans tallies.timeouts
  confirmed := samples.trans tallies.confirmed

theorem add_other (tallies : Tallies r counts frames) {metric : Metric}
    (other : metric ∉ talliedCounters) (labels : Labels) (amount : Nat) :
    Tallies (r.add metric labels amount) counts frames := by
  refine tallies.of_same (fun counter tallied => ?_) rfl
  have apart : metric ≠ counter := fun same => other (same ▸ tallied)
  rw [Recording.total_add, if_neg apart, Nat.add_zero]

theorem sent (tallies : Tallies r counts frames) (labels labels' : Labels) :
    Tallies ((r.add .framesSent labels 1).add .commandsSent labels' 1)
      { counts with sent := counts.sent + 1 } frames := by
  cases tallies
  constructor <;> simp [*]

theorem retried (tallies : Tallies r counts frames) (labels : Labels) :
    Tallies (r.add .retries labels 1) { counts with retries := counts.retries + 1 } frames := by
  cases tallies
  constructor <;> simp [*]

theorem gaveUp (tallies : Tallies r counts frames) (labels : Labels) :
    Tallies (r.add .timeouts labels 1) { counts with timeouts := counts.timeouts + 1 } frames := by
  cases tallies
  constructor <;> simp [*]

theorem confirm (tallies : Tallies r counts frames) (labels : Labels) (latency : Nat) :
    Tallies (r.sample .confirmLatency labels latency)
      { counts with confirmed := counts.confirmed + 1 } frames := by
  cases tallies
  constructor <;> simp [*]

theorem received (tallies : Tallies r counts frames) (labels : Labels) :
    Tallies (r.add .framesReceived labels 1) counts (frames + 1) := by
  cases tallies
  constructor <;> simp [*]

theorem undecodable (tallies : Tallies r counts frames) (labels : Labels) :
    Tallies (r.add .decodeErrors labels 1) { counts with decodeErrors := counts.decodeErrors + 1 }
      frames := by
  cases tallies
  constructor <;> simp [*]

end Tallies

variable {τ : Type}

section ReceiverErrors

variable (s : Scheduler τ) (before : ReceiverCounts) (metric : Metric)

/-- What the receiver has dropped since is added. -/
theorem total_countReceiverErrors :
    (s.countReceiverErrors before).metrics.total metric = s.metrics.total metric +
      (if .checksumErrors = metric then
        s.receiver.counts.checksumErrors - before.checksumErrors else 0) +
      (if .escapeErrors = metric then
        s.receiver.counts.escapeErrors - before.escapeErrors else 0) +
      if .overflowBytes = metric then
        s.receiver.counts.overflowBytes - before.overflowBytes else 0 := by
  -- A count that has not grown adds nothing, and its difference is zero.
  have one (s : Scheduler τ) (counter : Metric) (before after : Nat) :
      (if after > before then s.addMetric counter (after - before) else s).metrics.total metric =
        s.metrics.total metric + if counter = metric then after - before else 0 := by
    split
    · exact s.metrics.total_add counter metric s.labels.toList (after - before)
    · rename_i same
      rw [Nat.sub_eq_zero_of_le (Nat.not_lt.mp same), ite_self, Nat.add_zero]
  unfold countReceiverErrors
  dsimp only
  rw [one, one, one]

theorem sampleCount_countReceiverErrors :
    (s.countReceiverErrors before).metrics.sampleCount metric = s.metrics.sampleCount metric := by
  unfold countReceiverErrors
  dsimp only
  split <;> split <;> split <;> rfl

end ReceiverErrors

/-- What every single step keeps. -/
def Tallied (s : Scheduler τ) : Prop := Tallies s.metrics s.counts s.receiver.counts.frames

theorem Fresh.tallied {s : Scheduler τ} (fresh : s.Fresh) : s.Tallied := by
  cases fresh with
  | mk => exact ⟨rfl, rfl, rfl, rfl, rfl, rfl, rfl⟩

/-- A confirm adds to no counter. -/
theorem total_confirm (s : Scheduler τ) (command : Command) (now : Nat) (metric : Metric) :
    (s.confirm command now).metrics.total metric = s.metrics.total metric := by
  unfold confirm
  split
  · rfl
  · split
    · rfl
    · dsimp only
      split <;> rfl

/-- The latency of a confirm is recorded if the item knows when it was first sent. -/
theorem metrics_confirm {s : Scheduler τ} {command : Command} {slot : Nat} {item : QueueItem}
    (found : s.queue.findConfirm? command.id command.seq = some slot)
    (held : s.queue.get? slot = some item) {first : Nat} (sent : item.firstSentAt = some first)
    (now : Nat) :
    (s.confirm command now).metrics = s.metrics.sample .confirmLatency
      (s.labels.withCommand (s.table.name command.id)) (now - first) := by
  unfold confirm
  simp only [found, SendQueue.remove, held, sent]
  rfl

variable [Transport τ]

theorem Aside.tallied {s s' : Scheduler τ} (aside : Aside s s') (tallied : s.Tallied) :
    s'.Tallied := by
  unfold Tallied at *
  cases aside with
  | wake | receive | stop => exact tallied
  | gauge => exact tallied.of_same (fun _ _ => rfl) rfl
  | reconnect | rejection | decoded => exact tallied.add_other (by decide) _ _
  | byte fed =>
    dsimp only
    rw [(Receiver.counts_of_feed fed).1]
    exact tallied
  | @frame _ _ receiver fed =>
    have frames : receiver.counts.frames = s.receiver.counts.frames + 1 :=
      (Receiver.counts_of_feed fed).1
    have received := tallied.received s.labels.toList
    rwa [← frames] at received
  | undecodable => exact tallied.undecodable _
  | @receiverErrors before metrics counted =>
    obtain rfl : (s.countReceiverErrors before).metrics = metrics :=
      congrArg Scheduler.metrics counted
    refine tallied.of_same (fun metric listed => ?_) (s.sampleCount_countReceiverErrors before _)
    rw [total_countReceiverErrors]
    have apart (other : Metric) (unlisted : other ∉ talliedCounters) : other ≠ metric :=
      fun same => unlisted (same ▸ listed)
    rw [if_neg (apart _ (by decide)), if_neg (apart _ (by decide)), if_neg (apart _ (by decide))]
    rfl

theorem Step.tallied {s s' : Scheduler τ} {deed : Deed} (step : Step s deed s') (sound : s.Sound)
    (tallied : s.Tallied) : s'.Tallied := by
  unfold Tallied at *
  cases step with
  | quiet aside => exact aside.tallied tallied
  | send => exact tallied.sent _ _
  | retry => exact tallied.retried _
  | giveUp => exact tallied.gaveUp _
  | @confirm command slot item now metrics found held confirmed =>
    obtain ⟨other, held', awaits⟩ := SendQueue.awaits_of_findConfirm? found
    cases held.symm.trans held'
    obtain ⟨first, sent⟩ := Option.isSome_iff_exists.mp
      ((sound.items held).sent (of_decide_eq_true awaits).1).2
    obtain rfl : (s.confirm command now).metrics = metrics := congrArg Scheduler.metrics confirmed
    rw [metrics_confirm found held sent]
    exact tallied.confirm _ _
  | disconnect => exact tallied.add_other (by decide) _ _
  -- Gauges are set where work comes in, and where all of it goes.
  | queueCaller | queueOwn | queueRequest | kill => exact tallied.of_same (fun _ _ => rfl) rfl
  | _ => exact tallied

/-! ### Ends of sessions -/

/-- How often the deed tells users that a session has ended. -/
def Deed.disconnects : Deed → Nat
  | .told (.disconnected _) => 1
  | _ => 0

omit [Transport τ] in
theorem Deed.countP_completions (deed : Deed) :
    deed.completions.countP Completion.isDisconnect = deed.disconnects := by
  have absent {completions : List Completion}
      (apart : ∀ completion ∈ completions, completion.isDisconnect = false) :
      completions.countP Completion.isDisconnect = 0 :=
    List.countP_eq_zero.mpr fun completion mem => by simp [apart completion mem]
  cases deed with
  | ended slot item status response now =>
    exact absent fun completion mem =>
      item.origin.not_isDisconnect_outcome status response completion (Option.mem_toList.mp mem)
  | killed items ids status =>
    refine absent fun completion mem => ?_
    rcases List.mem_append.mp mem with queued | waiting
    · obtain ⟨item, -, outcome⟩ := List.mem_filterMap.mp queued
      exact item.origin.not_isDisconnect_outcome status none completion outcome
    · obtain ⟨id, -, rfl⟩ := List.mem_map.mp waiting
      rfl
  | told event => cases event <;> rfl
  | _ => rfl

theorem Aside.disconnects_eq {s s' : Scheduler τ} (aside : Aside s s') :
    s'.metrics.total .disconnects = s.metrics.total .disconnects := by
  cases aside with
  | wake | gauge | receive | stop | byte => rfl
  | @receiverErrors before _ counted =>
    have total := s.total_countReceiverErrors before .disconnects
    rw [counted] at total
    exact total
  | _ => exact s.metrics.total_add _ .disconnects _ 1

/-- The end of a session is recorded exactly where users are told of it. -/
theorem Step.disconnects_eq {s s' : Scheduler τ} {deed : Deed} (step : Step s deed s') :
    s'.metrics.total .disconnects = s.metrics.total .disconnects + deed.disconnects := by
  cases step with
  | quiet aside => exact aside.disconnects_eq
  | disconnect => exact s.metrics.total_add _ .disconnects _ 1
  | send =>
    refine (Recording.total_add _ _ .disconnects _ 1).trans ?_
    exact Recording.total_add _ _ .disconnects _ 1
  | retry | giveUp => exact s.metrics.total_add _ .disconnects _ 1
  | @confirm command _ _ now metrics _ _ confirmed =>
    obtain rfl : (s.confirm command now).metrics = metrics := congrArg Scheduler.metrics confirmed
    exact s.total_confirm command now .disconnects
  | _ => rfl

end Scheduler

end SerialLink
