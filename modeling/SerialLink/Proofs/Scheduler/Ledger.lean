import Mathlib.Algebra.Ring.Nat
import SerialLink.Proofs.Scheduler.Attempts

/-!
What became of the frames that were sent. Each frame that the transport takes puts an item in
flight, and an item in flight ends its flight in one of four ways: its confirm comes, it is put
back, it is given up, or everything is failed. The scheduler counts the first three, each in a place
of its own, and not the fourth, so the frames sent are those three counts, the commands in flight
and the items that were failed in flight (`Run.sent_balanced`).

The step lemma is `Step.balanced`. An item could leave its flight in a fifth way, unwritten and
uncounted, but only if it could not be written any more; what is queued always can be.
-/

namespace SerialLink.Scheduler

/-! ### In flight -/

/-- How many items the deed fails in flight. -/
def Deed.cutOff : Deed → Nat
  | .killed items _ _ => items.countP fun item => item.state = .waitConfirm
  | _ => 0

variable {τ : Type}

/-- The frames sent are those that are counted as settled, those waited for, and so many more. -/
def Balanced (s : Scheduler τ) (cutOff : Nat) : Prop :=
  s.counts.sent = s.counts.confirmed + s.counts.retries + s.counts.timeouts + s.inFlight + cutOff

theorem Fresh.balanced {s : Scheduler τ} (fresh : s.Fresh) : s.Balanced 0 := by
  cases fresh with
  | mk =>
    rw [Balanced, inFlight, SendQueue.count_empty]
    rfl

/-- An item enters the queue without being in flight. -/
theorem QueueStep.count_entered {q q' : SendQueue} {slot : Nat} {item : QueueItem}
    (step : QueueStep q (.queued slot item) q') : q'.count .waitConfirm = q.count .waitConfirm := by
  cases step with
  | keep _ apart => cases apart
  | enter _ inserted new =>
    rw [SendQueue.count_insert? inserted, new]
    rfl

/-- An item in flight that is taken out of its slot is not in flight any more. -/
theorem count_removed {q : SendQueue} {slot : Nat} {item : QueueItem}
    (held : q.get? slot = some item) (awaits : item.state = .waitConfirm) :
    q.count .waitConfirm = (q.remove slot).2.count .waitConfirm + 1 := by
  rw [SendQueue.count_remove held, if_pos awaits]

variable [Transport τ]

theorem Aside.counts_eq {s s' : Scheduler τ} (aside : Aside s s') :
    s'.counts.sent = s.counts.sent ∧ s'.counts.confirmed = s.counts.confirmed ∧
      s'.counts.retries = s.counts.retries ∧ s'.counts.timeouts = s.counts.timeouts := by
  cases aside <;> exact ⟨rfl, rfl, rfl, rfl⟩

/-- Whatever a step does, the account stays balanced; what it fails in flight is added. -/
theorem Step.balanced {s s' : Scheduler τ} {deed : Deed} {cutOff : Nat} (step : Step s deed s')
    (writable : s.Writable) (balanced : s.Balanced cutOff) :
    s'.Balanced (cutOff + deed.cutOff) := by
  have queueStep := step.queueStep
  unfold Balanced inFlight at *
  cases step with
  | quiet aside =>
    obtain ⟨sent, confirmed, retries, timeouts⟩ := aside.counts_eq
    rw [sent, confirmed, retries, timeouts, aside.work_eq.1]
    exact balanced
  | queueCaller | queueOwn | queueRequest =>
    rw [queueStep.count_entered]
    exact balanced
  | @send slot item _ _ now _ _ next held =>
    obtain ⟨other, held', waits⟩ := SendQueue.waitSend_of_nextToSend? next
    cases held.symm.trans held'
    have flies := SendQueue.count_modify held (QueueItem.sending now) .waitConfirm
    rw [waits, if_neg (by decide), QueueItem.state_sending, if_pos rfl] at flies
    change s.counts.sent + 1 = s.counts.confirmed + s.counts.retries + s.counts.timeouts +
      (s.queue.modify slot (QueueItem.sending now)).count .waitConfirm + cutOff
    omega
  | discard _ _ held unwritable =>
    obtain ⟨payload, written⟩ := writable held
    rw [unwritable] at written
    cases written
  | @retry slot item _ _ held overdue =>
    have lands := SendQueue.count_modify held QueueItem.again .waitConfirm
    rw [(of_overdue overdue).1, if_pos rfl, QueueItem.state_again, if_neg (by decide)] at lands
    change s.counts.sent = s.counts.confirmed + (s.counts.retries + 1) + s.counts.timeouts +
      (s.queue.modify slot QueueItem.again).count .waitConfirm + cutOff
    omega
  | @giveUp slot _ _ _ held overdue =>
    have lands := count_removed held (of_overdue overdue).1
    change s.counts.sent = s.counts.confirmed + s.counts.retries + (s.counts.timeouts + 1) +
      (s.queue.remove slot).2.count .waitConfirm + cutOff
    omega
  | @confirm command slot _ _ _ found held =>
    obtain ⟨other, held', awaits⟩ := SendQueue.awaits_of_findConfirm? found
    cases held.symm.trans held'
    have lands := count_removed held (of_decide_eq_true awaits).1
    change s.counts.sent = s.counts.confirmed + 1 + s.counts.retries + s.counts.timeouts +
      (s.queue.remove slot).2.count .waitConfirm + cutOff
    omega
  | kill status =>
    have none : (s.killAll status).queue.count .waitConfirm = 0 :=
      SendQueue.count_empty .waitConfirm
    rw [none]
    change s.counts.sent = s.counts.confirmed + s.counts.retries + s.counts.timeouts + 0 +
      (cutOff + s.queue.count .waitConfirm)
    omega
  | _ => exact balanced

theorem Steps.balanced {start s : Scheduler τ} {deeds : List Deed} (fresh : start.Fresh)
    (steps : Steps start deeds s) : s.Balanced (deeds.map Deed.cutOff).sum := by
  refine (Steps.along (fun deeds s => s.Writable ∧ s.Balanced (deeds.map Deed.cutOff).sum)
    ⟨fresh.writable, fresh.balanced⟩ ?_ steps).2
  rintro deeds s s' deed - ⟨writable, balanced⟩ step
  refine ⟨step.writable writable, ?_⟩
  rw [List.map_append, List.sum_append, List.map_singleton, List.sum_singleton]
  exact step.balanced writable balanced

/-! ### Sent -/

/-- A frame is counted where the transport takes it, and nowhere else. -/
theorem Step.sent_eq {s s' : Scheduler τ} {deed : Deed} (step : Step s deed s') :
    s'.counts.sent = s.counts.sent + deed.taken?.toList.length := by
  cases step with
  | quiet aside => exact aside.counts_eq.1
  | _ => rfl

theorem Steps.sent_eq {s s' : Scheduler τ} {deeds : List Deed} (steps : Steps s deeds s') :
    s'.counts.sent = s.counts.sent + (deeds.filterMap Deed.taken?).length := by
  induction steps with
  | nil s => rfl
  | @cons _ _ _ deed deeds step rest ih =>
    rw [ih, step.sent_eq, Nat.add_assoc, ← List.length_append, List.filterMap_cons]
    cases deed.taken? <;> rfl

/-! ### Runs -/

/-- **The frames sent are accounted for.** At any point of a run of a fresh scheduler, over any
transport, the number of frames sent is the number of frames that the transport has taken. It is
also the sum of the confirms that matched, of the commands put back, of those given up, of those in
flight now, and of the items that were in flight when everything was failed, in a history that
accounts for the trace and whose frames are those taken. -/
theorem Run.sent_balanced {start s : Scheduler (LoggedTransport τ)}
    {trace : Trace (LoggedTransport τ)} (fresh : start.Fresh)
    (unsent : start.transport.frames = []) (run : Run start trace s)
    (kept : ∀ act ∈ trace.map Prod.fst, act.KeepsFrames) :
    s.counts.sent = s.transport.frames.length ∧
      ∃ deeds : List Deed, Steps start deeds s ∧ Accounts trace deeds ∧
        s.transport.frames = deeds.filterMap Deed.taken? ∧
        s.counts.sent = s.counts.confirmed + s.counts.retries + s.counts.timeouts + s.inFlight +
          (deeds.map Deed.cutOff).sum := by
  obtain ⟨deeds, steps, accounts, frames, -⟩ := run.history kept
  rw [unsent, List.nil_append] at frames
  refine ⟨?_, deeds, steps, accounts, frames, steps.balanced fresh⟩
  have none : start.counts.sent = 0 := by
    cases fresh with
    | mk => rfl
  rw [steps.sent_eq, frames, none, Nat.zero_add]

/-- Of four commands, two of them probes, one is confirmed, one is sent again and given up, and two
are in flight when the session is closed. -/
def fourCommands : List (Act (LoggedTransport SimulatedTransport)) :=
  [.openSession, .handleEvent ⟨1, .connected⟩ 0,
    .enqueue { id := Command.version, values := [.u32 0] } (some ⟨1⟩), .tick 0,
    .changeTransport fun t =>
      { t with
        transport := t.transport.arriveCommand
          { id := Command.version, seq := 1, values := [.u32 7] } },
    .processInbound 1, .tick 1000,
    .enqueue { id := Command.version, values := [.u32 0] } (some ⟨2⟩), .tick 2000, .closeSession]

theorem Run.sent_balanced_of_fourCommands :
    ∃ (deeds : List Deed) (s : Scheduler (LoggedTransport SimulatedTransport)),
      onceAgain.Fresh ∧ Run onceAgain (onceAgain.performAll fourCommands).1 s ∧
      Steps onceAgain deeds s ∧ s.transport.frames.length = 5 ∧ s.counts.sent = 5 ∧
      s.counts.confirmed = 1 ∧ s.counts.retries = 1 ∧ s.counts.timeouts = 1 ∧ s.inFlight = 0 ∧
      (deeds.map Deed.cutOff).sum = 2 := by
  have fresh : onceAgain.Fresh := .mk _ _ _ _ _
  have run := run_performAll onceAgain fourCommands
  have acts := performAll_acts onceAgain fourCommands
  have kept : ∀ act ∈ (onceAgain.performAll fourCommands).1.map Prod.fst, act.KeepsFrames := by
    rw [acts]
    simp [fourCommands, Act.KeepsFrames]
  have counted : (onceAgain.performAll fourCommands).2.counts =
      { sent := 5, confirmed := 1, retries := 1, timeouts := 1 } := by
    decide +kernel
  have landed : (onceAgain.performAll fourCommands).2.inFlight = 0 := by decide +kernel
  obtain ⟨frames, deeds, steps, -, -, balanced⟩ := sent_balanced fresh rfl run kept
  rw [counted] at frames balanced
  rw [landed] at balanced
  refine ⟨deeds, _, fresh, run, steps, frames.symm, ?_, ?_, ?_, ?_, landed, ?_⟩
  · rw [counted]
  · rw [counted]
  · rw [counted]
  · rw [counted]
  · dsimp only at balanced
    omega

end SerialLink.Scheduler
