import SerialLink.Proofs.Scheduler.Confirm
import SerialLink.Proofs.Scheduler.Tallies

/-!
Two accounts are kept of what a scheduler does, its counts and its metrics. They agree at any point
of a run (`Run.metered`). What is counted and recorded at once agrees after every step. What is
heard from the device does not: a frame is recorded before it is known to hold a command, and what
the receiver has dropped is recorded when all bytes at hand have been read. Between calls the two
accounts of it agree (`Reported`): one call reads bytes and brings them together at its end
(`reported_processInbound`), and a call in which nothing is heard leaves both as they are
(`heard_*`).
-/

namespace SerialLink

/-- What is counted and recorded of the bytes of the device, in places of their own: a frame is
recorded before it is known whether it holds a command, and what the receiver drops is recorded when
all bytes at hand have been read. -/
structure Heard where
  counts : ReceiverCounts
  framesReceived : Nat
  decodeErrors : Nat
  commandsReceived : Nat
  checksumErrors : Nat
  escapeErrors : Nat
  overflowBytes : Nat

/-- Each frame held a command or none, and what had been dropped by then is recorded. -/
structure Heard.Booked (heard : Heard) (dropped : ReceiverCounts) : Prop where
  frames : heard.framesReceived = heard.decodeErrors + heard.commandsReceived
  checksumErrors : heard.checksumErrors = dropped.checksumErrors
  escapeErrors : heard.escapeErrors = dropped.escapeErrors
  overflowBytes : heard.overflowBytes = dropped.overflowBytes

namespace Scheduler

variable {τ : Type}

def heard (s : Scheduler τ) : Heard where
  counts := s.receiver.counts
  framesReceived := s.metrics.total .framesReceived
  decodeErrors := s.counts.decodeErrors
  commandsReceived := s.metrics.total .commandsReceived
  checksumErrors := s.metrics.total .checksumErrors
  escapeErrors := s.metrics.total .escapeErrors
  overflowBytes := s.metrics.total .overflowBytes

/-! ### Calls in which nothing is heard -/

/-- Metrics that are recorded of the bytes of the device. -/
def heardCounters : List Metric :=
  [.framesReceived, .commandsReceived, .checksumErrors, .escapeErrors, .overflowBytes]

theorem heard_add (s : Scheduler τ) {metric : Metric} (other : metric ∉ heardCounters)
    (labels : Labels) (amount : Nat) :
    { s with metrics := s.metrics.add metric labels amount }.heard = s.heard := by
  have same (heard : Metric) (listed : heard ∈ heardCounters) :
      (s.metrics.add metric labels amount).total heard = s.metrics.total heard := by
    have apart : metric ≠ heard := fun eq => other (eq ▸ listed)
    rw [Recording.total_add, if_neg apart, Nat.add_zero]
  unfold heard
  dsimp only
  rw [same _ (by decide), same _ (by decide), same _ (by decide), same _ (by decide),
    same _ (by decide)]

theorem heard_countMetric (s : Scheduler τ) {metric : Metric} (other : metric ∉ heardCounters) :
    (s.countMetric metric).heard = s.heard :=
  s.heard_add other _ _

theorem heard_countCommand (s : Scheduler τ) {metric : Metric} (other : metric ∉ heardCounters)
    (id : UInt8) : (s.countCommand metric id).heard = s.heard :=
  s.heard_add other _ _

theorem heard_countReason (s : Scheduler τ) {metric : Metric} (other : metric ∉ heardCounters)
    (reason : String) : (s.countReason metric reason).heard = s.heard :=
  s.heard_add other _ _

theorem heard_tell (s : Scheduler τ) (completions : List Completion) :
    (s.tell completions).heard = s.heard := rfl

theorem heard_killAll (s : Scheduler τ) (status : CompletionStatus) :
    (s.killAll status).heard = s.heard := rfl

theorem heard_endSession (s : Scheduler τ) (reason : DisconnectReason) :
    (s.endSession reason).heard = s.heard := by
  unfold endSession
  dsimp only
  split
  · rfl
  · rw [heard_tell, heard_countReason _ (by decide)]
    rfl

theorem heard_insert (s : Scheduler τ) (command : Command) (origin : Origin) :
    (s.insert command origin).2.heard = s.heard := by
  unfold insert
  split
  · rfl
  · split
    · rfl
    · dsimp only
      split <;> rfl

theorem heard_enqueue (s : Scheduler τ) (command : Command) (callback : Option Callback) :
    (s.enqueue command callback).2.heard = s.heard := by
  have inserted := s.heard_insert command (.caller callback)
  unfold enqueue
  split
  · rfl
  split
  · rename_i eq
    rwa [eq] at inserted
  · rename_i eq
    rw [eq] at inserted
    exact (heard_countReason _ (by decide) _).trans inserted
  · rename_i eq
    rw [eq] at inserted
    exact (heard_countReason _ (by decide) _).trans inserted

theorem heard_submitRequest (s : Scheduler τ) (id : RequestId) :
    (s.submitRequest id).2.heard = s.heard := by
  unfold submitRequest
  split
  · rfl
  split
  · exact s.heard_countReason (by decide) _
  · rfl

theorem heard_enqueueOwn (s : Scheduler τ) (id : UInt8) : (s.enqueueOwn id).heard = s.heard := by
  unfold enqueueOwn
  split
  · rfl
  · exact s.heard_insert _ _

theorem heard_materialize (s : Scheduler τ) : s.materialize.heard = s.heard := by
  unfold materialize
  cases s.pending.pop with
  | mk id? pending =>
    cases id? with
    | none => rfl
    | some id =>
      dsimp only
      cases s.resolve id with
      | none => rfl
      | some command =>
        have inserted := heard_insert { s with pending } command (.request id)
        dsimp only
        split
        · rename_i eq
          rwa [eq] at inserted
        · rename_i eq
          rwa [eq] at inserted

theorem heard_scheduleBackground (s : Scheduler τ) (now : Nat) :
    (s.scheduleBackground now).heard = s.heard := by
  unfold scheduleBackground
  split
  · rfl
  split
  · exact s.heard_enqueueOwn _
  split
  · exact s.heard_enqueueOwn _
  split
  · exact s.heard_enqueueOwn _
  split
  · exact s.heard_materialize
  · rfl

theorem heard_expire (s : Scheduler τ) (slot : Nat) : (s.expire slot).heard = s.heard := by
  unfold expire
  split
  · rfl
  · split
    · exact heard_countCommand _ (by decide) _
    · rw [finish, heard_tell, heard_countCommand _ (by decide)]
      rfl

theorem heard_noteSent (s : Scheduler τ) (slot : Nat) (id : UInt8) (now : Nat) :
    (s.noteSent slot id now).heard = s.heard := by
  unfold noteSent
  rw [heard_countCommand _ (by decide), heard_countMetric _ (by decide)]
  rfl

variable [Transport τ]

theorem heard_openSession (s : Scheduler τ) : s.openSession.2.heard = s.heard := by
  unfold openSession
  dsimp only
  split <;> rfl

theorem heard_closeSession (s : Scheduler τ) : s.closeSession.heard = s.heard :=
  s.heard_endSession .normal

theorem heard_teardown (s : Scheduler τ) : s.teardown.heard = s.heard := by
  unfold teardown
  dsimp only
  generalize (if s.bootloaderSeen then DisconnectReason.bootloaderOnly else .timeout) = reason
  have ended := heard_endSession { s with failures := 0 } reason
  split
  · rw [heard_openSession, heard_countMetric _ (by decide)]
    exact ended
  · exact ended

theorem heard_sweepTimeouts (s : Scheduler τ) (now : Nat) :
    (s.sweepTimeouts now).heard = s.heard := by
  have expired (slots : List Nat) : (slots.foldl expire s).heard = s.heard := by
    induction slots generalizing s with
    | nil => rfl
    | cons slot slots ih => exact (ih (s.expire slot)).trans (s.heard_expire slot)
  unfold sweepTimeouts
  dsimp only
  split
  · rw [heard_teardown]
    exact expired _
  · exact expired _

theorem heard_sendNext (s : Scheduler τ) (now : Nat) : (s.sendNext now).2.heard = s.heard := by
  unfold sendNext
  split
  · rfl
  split
  · rfl
  split
  · rfl
  split
  · rfl
  split
  · rfl
  · exact heard_noteSent _ _ _ now

theorem heard_sendUpTo (s : Scheduler τ) (now most : Nat) :
    (sendUpTo now most s).heard = s.heard := by
  induction most generalizing s with
  | zero => rfl
  | succ most ih =>
    have sent := s.heard_sendNext now
    unfold sendUpTo
    split
    · rename_i eq
      rw [eq] at sent
      exact (ih _).trans sent
    · rename_i eq
      rwa [eq] at sent

theorem heard_sendReady (s : Scheduler τ) (now : Nat) : (s.sendReady now).heard = s.heard :=
  s.heard_sendUpTo now _

theorem heard_tick (s : Scheduler τ) (now : Nat) : (s.tick now).2.heard = s.heard := by
  have swept := heard_sweepTimeouts { s with wake := false } now
  unfold tick
  dsimp only
  generalize { s with wake := false }.sweepTimeouts now = s' at swept ⊢
  split
  · rfl
  split
  · exact swept
  · have sent := (heard_sendReady _ now).trans (s'.heard_scheduleBackground now)
    generalize (s'.scheduleBackground now).sendReady now = s'' at sent ⊢
    exact sent.trans swept

/-! ### Bytes of the device -/

section Hearing

omit [Transport τ]

theorem heard_confirm (s : Scheduler τ) (command : Command) (now : Nat) :
    (s.confirm command now).heard = s.heard := by
  unfold confirm
  split
  · rfl
  · split
    · rfl
    · dsimp only
      split <;> rfl

theorem heard_updateDevice (s : Scheduler τ) (command : Command) :
    (s.updateDevice command).heard = s.heard := by
  unfold updateDevice
  split
  · rfl
  · dsimp only
    split <;> rfl

theorem heard_dispatch (s : Scheduler τ) (command : Command) (now : Nat) :
    (s.dispatch command now).heard =
      { s.heard with commandsReceived := s.heard.commandsReceived + 1 } := by
  unfold dispatch
  rw [heard_tell, heard_updateDevice, heard_confirm]
  simp [heard, countCommand]

variable {s : Scheduler τ} {dropped : ReceiverCounts}

/-- The frame is recorded, and then either a command or a failure to read one. -/
theorem booked_acceptPayload (booked : s.heard.Booked dropped) (payload : Bytes) (now : Nat) :
    (s.acceptPayload payload now).heard.Booked dropped := by
  have framed : (s.countMetric .framesReceived).heard =
      { s.heard with framesReceived := s.heard.framesReceived + 1 } := by
    simp [heard, countMetric, addMetric]
  have frames := booked.frames
  unfold acceptPayload
  dsimp only
  split
  · rw [heard_dispatch, framed]
    exact { booked with frames := by dsimp only; omega }
  · rw [heard_countMetric _ (by decide)]
    have undecodable : { s.countMetric .framesReceived with
        counts := { s.counts with decodeErrors := s.counts.decodeErrors + 1 } }.heard =
        { s.heard with
          framesReceived := s.heard.framesReceived + 1
          decodeErrors := s.heard.decodeErrors + 1 } := by
      simp [heard, countMetric, addMetric]
    refine undecodable ▸ { booked with frames := ?_ }
    dsimp only
    omega

theorem booked_acceptByte (booked : s.heard.Booked dropped)
    (precedes : dropped.Precedes s.receiver.counts) (b : UInt8) (now : Nat) :
    (s.acceptByte now b).heard.Booked dropped ∧
      dropped.Precedes (s.acceptByte now b).receiver.counts := by
  constructor
  · unfold acceptByte
    cases s.receiver.feed b with
    | mk payload? receiver =>
      have fed : { s with receiver }.heard.Booked dropped := { booked with }
      cases payload? with
      | none => exact fed
      | some payload => exact booked_acceptPayload fed payload now
  · rw [(s.acceptByte_frame b now).1]
    exact precedes.trans (s.receiver.counts_feed b).2

theorem booked_acceptBytes (booked : s.heard.Booked dropped)
    (precedes : dropped.Precedes s.receiver.counts) (data : Bytes) (now : Nat) :
    (data.foldl (acceptByte now) s).heard.Booked dropped ∧
      dropped.Precedes (data.foldl (acceptByte now) s).receiver.counts := by
  induction data generalizing s with
  | nil => exact ⟨booked, precedes⟩
  | cons b data ih =>
    obtain ⟨booked, precedes⟩ := booked_acceptByte booked precedes b now
    exact ih booked precedes

/-- What has been dropped since is recorded now. -/
theorem booked_countReceiverErrors (booked : s.heard.Booked dropped)
    (precedes : dropped.Precedes s.receiver.counts) :
    (s.countReceiverErrors dropped).heard.Booked (s.countReceiverErrors dropped).heard.counts := by
  have total := s.total_countReceiverErrors dropped
  obtain ⟨metrics, counted⟩ := s.countReceiverErrors_eq dropped
  rw [counted] at total ⊢
  obtain ⟨frames, checksumErrors, escapeErrors, overflowBytes⟩ := booked
  obtain ⟨checksumLe, escapeLe, overflowLe⟩ := precedes
  unfold heard at *
  dsimp only at *
  constructor <;> simp [total] <;> omega

/-- What single steps part is together again when a call is over. -/
def Reported (s : Scheduler τ) : Prop := s.heard.Booked s.heard.counts

theorem Reported.of_eq (reported : s.Reported) {s' : Scheduler τ} (same : s'.heard = s.heard) :
    s'.Reported := by
  unfold Reported at *
  rwa [same]

end Hearing

theorem reported_processInbound {s : Scheduler τ} (reported : s.Reported) (now : Nat) :
    (s.processInbound now).Reported := by
  unfold processInbound
  dsimp only
  split
  · exact reported.of_eq rfl
  · have received : { s with transport := (Transport.receive s.transport).2 }.heard.Booked
        s.receiver.counts := reported
    obtain ⟨booked, precedes⟩ := booked_acceptBytes received (.refl _)
      (Transport.receive s.transport).1 now
    exact booked_countReceiverErrors booked precedes

theorem reported_handleEvent {s : Scheduler τ} (reported : s.Reported) (event : SessionEvent)
    (now : Nat) : (s.handleEvent event now).Reported := by
  unfold handleEvent
  split
  · exact reported
  · split
    · exact reported_processInbound reported now
    · exact reported.of_eq rfl
    · exact reported.of_eq rfl
    · exact reported.of_eq (s.heard_endSession _)

theorem reported_perform {s : Scheduler τ} (reported : s.Reported) (act : Act τ) :
    (s.perform act).2.Reported := by
  cases act with
  | openSession => exact reported.of_eq s.heard_openSession
  | closeSession => exact reported.of_eq s.heard_closeSession
  | killAll status => exact reported.of_eq (s.heard_killAll status)
  | enqueue command callback => exact reported.of_eq (s.heard_enqueue command callback)
  | submitRequest id => exact reported.of_eq (s.heard_submitRequest id)
  | handleEvent event now => exact reported_handleEvent reported event now
  | processInbound now => exact reported_processInbound reported now
  | tick now => exact reported.of_eq (s.heard_tick now)
  | takeCompletions => exact reported.of_eq rfl
  | setResolver resolve => exact reported.of_eq rfl
  | changeTransport change => exact reported.of_eq rfl

/-! ### Runs -/

theorem Run.reported {start s : Scheduler τ} {trace : Trace τ} (fresh : start.Fresh)
    (run : Run start trace s) : s.Reported := by
  induction run with
  | nil =>
    cases fresh with
    | mk => exact ⟨rfl, rfl, rfl, rfl⟩
  | snoc _ act ih => exact reported_perform ih act

theorem Run.tallied {start s : Scheduler τ} {trace : Trace τ} (fresh : start.Fresh)
    (run : Run start trace s) : s.Tallied :=
  (run.keep (fun s => s.Sound ∧ s.Tallied)
    (fun step kept => ⟨step.sound kept.1, step.tallied kept.1 kept.2⟩)
    ⟨fresh.sound, fresh.tallied⟩).2

theorem Steps.disconnects_eq {s s' : Scheduler τ} {deeds : List Deed} (steps : Steps s deeds s') :
    s'.metrics.total .disconnects = s.metrics.total .disconnects +
      (deeds.flatMap Deed.completions).countP Completion.isDisconnect := by
  induction steps with
  | nil s => rfl
  | @cons _ _ _ deed _ step rest ih =>
    rw [ih, step.disconnects_eq, List.flatMap_cons, List.countP_append, deed.countP_completions,
      Nat.add_assoc]

/-- The metrics recorded and what the scheduler and its receiver count are the same. -/
structure Metered (s : Scheduler τ) : Prop where
  framesSent : s.metrics.total .framesSent = s.counts.sent
  commandsSent : s.metrics.total .commandsSent = s.counts.sent
  framesReceived : s.metrics.total .framesReceived = s.receiver.counts.frames
  /-- Each frame holds a command, or cannot be read. -/
  commandsReceived :
    s.receiver.counts.frames = s.counts.decodeErrors + s.metrics.total .commandsReceived
  decodeErrors : s.metrics.total .decodeErrors = s.counts.decodeErrors
  retries : s.metrics.total .retries = s.counts.retries
  timeouts : s.metrics.total .timeouts = s.counts.timeouts
  checksumErrors : s.metrics.total .checksumErrors = s.receiver.counts.checksumErrors
  escapeErrors : s.metrics.total .escapeErrors = s.receiver.counts.escapeErrors
  overflowBytes : s.metrics.total .overflowBytes = s.receiver.counts.overflowBytes
  confirmed : s.metrics.sampleCount .confirmLatency = s.counts.confirmed

/-- **Metrics and counts agree.** At any point of a run of a fresh scheduler, over any transport and
whatever the device sends, each total that the metrics tell, over all labels, is what the scheduler
or its receiver has counted; there are as many latencies as confirms; and the ends of sessions, over
all reasons, are as many as users were told of. -/
theorem Run.metered {start s : Scheduler τ} {trace : Trace τ} (fresh : start.Fresh)
    (run : Run start trace s) :
    s.Metered ∧
      s.metrics.total .disconnects = (trace.told s).countP Completion.isDisconnect := by
  have tallied := run.tallied fresh
  have reported := run.reported fresh
  refine ⟨?_, ?_⟩
  · exact { tallied, reported with
      commandsReceived := tallied.framesReceived.symm.trans reported.frames }
  · obtain ⟨deeds, steps, accounts⟩ := run.steps
    rw [accounts.told_eq fresh steps, steps.disconnects_eq]
    have none : start.metrics.total .disconnects = 0 := by
      cases fresh with
      | mk => rfl
    rw [none, Nat.zero_add]

/-- A command is confirmed; behind its confirm come a frame with a wrong checksum, one with a broken
escape sequence, and one that holds no command. A probe is sent again and given up, another is in
flight when the session is closed. -/
def noisyLine : Trace SimulatedTransport × Scheduler SimulatedTransport :=
  performAll { transport := { autoConnect := true }, settings := { maxRetries := 1 } }
    [.openSession, .handleEvent ⟨1, .connected⟩ 0,
      .enqueue { id := Command.version, values := [.u32 0] } (some ⟨1⟩), .tick 0,
      .changeTransport fun t =>
        (t.arriveCommand { id := Command.version, seq := 1, values := [.u32 7] }).arrive
          ([0xC0, 1, 2, 3, 4, 0xC0, 0xDB, 0x41, 0xC0] ++ Frame.encode [0xFF, 1, 0]),
      .handleEvent ⟨1, .readable⟩ 3, .tick 1000, .tick 2000, .closeSession]

theorem Run.metered_of_noisyLine :
    let start : Scheduler SimulatedTransport :=
      { transport := { autoConnect := true }, settings := { maxRetries := 1 } }
    let metrics := noisyLine.2.metrics
    start.Fresh ∧ Run start noisyLine.1 noisyLine.2 ∧
      metrics.total .framesSent = 4 ∧ metrics.total .commandsSent = 4 ∧
      metrics.total .framesReceived = 2 ∧ metrics.total .commandsReceived = 1 ∧
      metrics.total .decodeErrors = 1 ∧ metrics.total .retries = 1 ∧
      metrics.total .timeouts = 1 ∧ metrics.total .checksumErrors = 1 ∧
      metrics.total .escapeErrors = 1 ∧ metrics.total .overflowBytes = 0 ∧
      metrics.sampleCount .confirmLatency = 1 ∧ metrics.total .disconnects = 1 := by
  intro start metrics
  have fresh : start.Fresh := .mk _ _ _ _ _
  have run : Run start noisyLine.1 noisyLine.2 := run_performAll _ _
  have counted : noisyLine.2.counts =
      { sent := 4, confirmed := 1, retries := 1, timeouts := 1, decodeErrors := 1 } := by
    decide +kernel
  have received : noisyLine.2.receiver.counts =
      { frames := 2, checksumErrors := 1, escapeErrors := 1 } := by
    decide +kernel
  have told : (noisyLine.1.told noisyLine.2).countP Completion.isDisconnect = 1 := by
    decide +kernel
  obtain ⟨⟨framesSent, commandsSent, framesReceived, commandsReceived, decodeErrors, retries,
    timeouts, checksumErrors, escapeErrors, overflowBytes, confirmed⟩, disconnects⟩ :=
    metered fresh run
  rw [counted] at framesSent commandsSent commandsReceived decodeErrors retries timeouts confirmed
  rw [received] at framesReceived commandsReceived checksumErrors escapeErrors overflowBytes
  have read : metrics.total .commandsReceived = 1 := (Nat.add_left_cancel commandsReceived).symm
  exact ⟨fresh, run, framesSent, commandsSent, framesReceived, read, decodeErrors, retries,
    timeouts, checksumErrors, escapeErrors, overflowBytes, confirmed, disconnects.trans told⟩

end Scheduler

end SerialLink
