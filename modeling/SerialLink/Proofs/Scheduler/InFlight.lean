import SerialLink.Proofs.Scheduler.Tick
import SerialLink.Transport.Logged
import SerialLink.Transport.Simulated

/-!
Commands in flight. No more commands wait for their confirm than the window allows, every queued
item waits for something and knows when it was sent, no item is put back more often than allowed,
and frames are handed to the transport only while commands flow
(`Run.inFlight_le_window`).

There is no count of credits: a step raises the number of commands in flight only by sending, by one
and with credit (`Step.inFlight_le`).
-/

namespace SerialLink

/-! ### Items -/

/-- What a queued item is like at any time, if it may be put back so many times. -/
structure QueueItem.Sound (maxRetries : Nat) (item : QueueItem) : Prop where
  waits : item.state = .waitSend ∨ item.state = .waitConfirm
  sent : item.state = .waitConfirm → item.sentAt.isSome = true ∧ item.firstSentAt.isSome = true
  retries : item.retries ≤ maxRetries

namespace QueueItem

variable {maxRetries : Nat} {item : QueueItem}

theorem Sound.of_new (new : item = { command := item.command, origin := item.origin }) :
    item.Sound maxRetries := by
  rw [new]
  exact ⟨.inl rfl, nofun, Nat.zero_le _⟩

theorem Sound.sending (sound : item.Sound maxRetries) (now : Nat) :
    (item.sending now).Sound maxRetries where
  waits := .inr rfl
  sent _ := by
    refine ⟨rfl, ?_⟩
    unfold QueueItem.sending
    cases item.firstSentAt <;> rfl
  retries := sound.retries

theorem Sound.again (left : item.retries < maxRetries) : item.again.Sound maxRetries :=
  ⟨.inl rfl, nofun, left⟩

end QueueItem

namespace Scheduler

/-! ### The window -/

/-- Other steps than sending leave no more commands in flight. -/
theorem QueueStep.count_le {q q' : SendQueue} {deed : Deed} (step : QueueStep q deed q')
    (other : ∀ slot item frame now, deed ≠ .sent slot item frame now) :
    q'.count .waitConfirm ≤ q.count .waitConfirm := by
  cases step with
  | keep => exact Nat.le_refl _
  | enter unused inserted new =>
    rw [SendQueue.count_insert? inserted, new]
    exact Nat.le_refl _
  | send held => exact absurd rfl (other _ _ _ _)
  | retry held =>
    have counted := SendQueue.count_modify held QueueItem.again .waitConfirm
    simp only [QueueItem.state_again, reduceCtorEq, if_false] at counted
    omega
  | leave held =>
    rw [SendQueue.count_remove held .waitConfirm]
    exact Nat.le_add_right _ _
  | clear =>
    rw [SendQueue.count_empty]
    exact Nat.zero_le _

variable {τ : Type}

/-- Queued items are sound, and the window is kept. -/
structure Sound (s : Scheduler τ) : Prop where
  items : ∀ ⦃slot : Nat⦄ ⦃item : QueueItem⦄, s.queue.get? slot = some item →
    item.Sound s.settings.maxRetries
  inFlight : s.inFlight ≤ s.settings.window

theorem Fresh.sound {s : Scheduler τ} (fresh : s.Fresh) : s.Sound := by
  cases fresh with
  | mk =>
    constructor
    · intro slot item held
      rw [SendQueue.get?_empty] at held
      cases held
    · rw [inFlight, SendQueue.count_empty]
      exact Nat.zero_le _

variable [Transport τ]

/-- The number of commands in flight grows by sending only, by one and with credit. -/
theorem Step.inFlight_le {s s' : Scheduler τ} {deed : Deed} (step : Step s deed s') :
    s'.inFlight ≤ s.inFlight ∨ s.hasCredit = true ∧ s'.inFlight ≤ s.inFlight + 1 := by
  have queueStep := step.queueStep
  cases step with
  | send now operational credit next held =>
    refine .inr ⟨credit, ?_⟩
    have counted := SendQueue.count_modify held (QueueItem.sending now) .waitConfirm
    rw [QueueItem.state_sending, if_pos rfl] at counted
    exact Nat.le.intro counted
  | _ => exact .inl (queueStep.count_le nofun)

theorem Step.sound {s s' : Scheduler τ} {deed : Deed} (step : Step s deed s') (sound : s.Sound) :
    s'.Sound := by
  obtain ⟨settings, -⟩ := step.made_eq
  constructor
  · intro slot item held
    rw [settings]
    rcases step.queueStep.held held with
      ⟨kept, -⟩ | ⟨-, new⟩ | ⟨old, frame, now, -, before, rfl⟩ | ⟨old, now, rfl, before, rfl⟩
    · exact sound.items kept
    · exact .of_new new
    · exact (sound.items before).sending now
    · cases step with
      | retry _ _ _ left => exact .again left
  · rw [settings]
    rcases step.inFlight_le with less | ⟨credit, most⟩
    · exact Nat.le_trans less sound.inFlight
    · have room : s.inFlight < s.settings.window := of_decide_eq_true credit
      omega

theorem Run.sound {start s : Scheduler τ} {trace : Trace τ} (fresh : start.Fresh)
    (run : Run start trace s) : s.Sound :=
  run.keep Sound Step.sound fresh.sound

/-! ### Frames -/

end Scheduler

/-- The same call on a transport whose frames are kept. -/
def Scheduler.Act.logged {τ : Type} : Scheduler.Act τ → Scheduler.Act (LoggedTransport τ)
  | .openSession => .openSession
  | .closeSession => .closeSession
  | .killAll status => .killAll status
  | .enqueue command callback => .enqueue command callback
  | .submitRequest id => .submitRequest id
  | .handleEvent event now => .handleEvent event now
  | .processInbound now => .processInbound now
  | .tick now => .tick now
  | .takeCompletions => .takeCompletions
  | .setResolver resolve => .setResolver resolve
  | .changeTransport change => .changeTransport fun t => { t with transport := change t.transport }

namespace Scheduler

variable {τ : Type}

/-- The scheduler over the same transport, with its frames kept from now on. -/
def logged (s : Scheduler τ) : Scheduler (LoggedTransport τ) :=
  { s with transport := { transport := s.transport } }

variable [Transport τ]

/-- The frames that a call hands to the transport, taken or not, oldest first. -/
def handed (s : Scheduler τ) (act : Act τ) : List Bytes :=
  (s.logged.perform act.logged).2.transport.handed

theorem handed_of_send {t t' : LoggedTransport τ} {frame : Bytes}
    {result : Except TransportFault Unit} (sent : Transport.send frame t = (result, t')) :
    t'.handed = t.handed ++ [frame] := by
  change LoggedTransport.send frame t = (result, t') at sent
  unfold LoggedTransport.send at sent
  dsimp only at sent
  split at sent <;> cases sent <;> rfl

theorem handed_of_start {t t' : LoggedTransport τ} {result : Except TransportFault Unit}
    (started : Transport.start t = (result, t')) : t'.handed = t.handed := by
  cases started
  rfl

/-- A step hands over the frame of its deed, and no other. -/
theorem Step.handed_eq {s s' : Scheduler (LoggedTransport τ)} {deed : Deed} (step : Step s deed s')
    (kept : deed ≠ .changed) :
    s'.transport.handed = s.transport.handed ++ deed.frame?.toList := by
  cases step with
  | quiet aside => cases aside <;> exact (List.append_nil _).symm
  | send now _ _ _ _ _ taken => exact handed_of_send taken
  | turnBack _ refused => exact handed_of_send refused
  | start _ started => exact (handed_of_start started).trans (List.append_nil _).symm
  | startFailed _ failed => exact (handed_of_start failed).trans (List.append_nil _).symm
  | change => exact absurd rfl kept
  | _ => exact (List.append_nil _).symm

theorem Steps.handed_eq {s s' : Scheduler (LoggedTransport τ)} {deeds : List Deed}
    (steps : Steps s deeds s') (kept : ∀ deed ∈ deeds, deed ≠ .changed) :
    s'.transport.handed = s.transport.handed ++ deeds.filterMap Deed.frame? :=
  Steps.log_eq (fun s => s.transport.handed) Deed.frame? Step.handed_eq steps kept

/-- Nothing is handed over in the course of another call than a tick. -/
theorem Steps.handed_of_permitted {s s' : Scheduler (LoggedTransport τ)} {deeds : List Deed}
    {act : Act (LoggedTransport τ)} (steps : Steps s deeds s')
    (permitted : ∀ deed ∈ deeds, act.Permits deed) (untimed : ∀ now, act ≠ .tick now)
    (kept : ∀ change, act ≠ .changeTransport change) :
    s'.transport.handed = s.transport.handed := by
  have unchanged : ∀ deed ∈ deeds, deed ≠ .changed := by
    rintro deed mem rfl
    obtain ⟨change, eq⟩ := permitted _ mem
    exact kept change eq
  have none : deeds.filterMap Deed.frame? = [] := by
    refine List.filterMap_eq_nil_iff.mpr fun deed mem => ?_
    cases handed : deed.frame? with
    | none => rfl
    | some frame =>
      obtain ⟨now, eq⟩ := (permitted deed mem).tick_of_frame handed
      exact absurd eq (untimed now)
  rw [steps.handed_eq unchanged, none, List.append_nil]

/-- Nothing is handed over while the timeouts are seen to, not even if the session is ended and
another started. -/
theorem handed_sweepTimeouts (s : Scheduler (LoggedTransport τ)) (now : Nat) :
    (s.sweepTimeouts now).transport.handed = s.transport.handed := by
  obtain ⟨-, -, transport, -⟩ := s.foldl_expire_frame (s.expired now)
  have kept := congrArg LoggedTransport.handed transport
  unfold sweepTimeouts
  dsimp only
  split
  · generalize (s.expired now).foldl expire s = s' at kept ⊢
    have proceeds : { s'.setGauge .failureCount s'.failures with failures := 0 }.Proceeds
        .openSession (s'.setGauge .failureCount s'.failures).teardown :=
      (forgiven_advances _).proceeds
    obtain ⟨deeds, steps, each⟩ := proceeds
    exact (steps.handed_of_permitted (fun deed mem => (each deed mem).2) nofun nofun).trans kept
  · exact kept

/-- A tick that hands over a frame finds commands flowing, sees to the timeouts first and leaves
commands flowing. -/
theorem operational_of_handed_tick {s : Scheduler (LoggedTransport τ)} {now : Nat}
    (handed : (s.tick now).2.transport.handed ≠ s.transport.handed) :
    s.connection = .operational ∧ (s.tick now).2.connection = .operational := by
  by_cases operational : s.connection = .operational
  · have swept := handed_sweepTimeouts { s with wake := false } now
    by_cases kept : ({ s with wake := false }.sweepTimeouts now).connection = .operational
    · refine ⟨operational, ?_⟩
      rw [tick_of_swept operational rfl kept]
      exact (serve_connection _ now).trans kept
    · rw [tick_of_torn operational rfl kept] at handed
      exact absurd swept handed
  · unfold tick at handed
    dsimp only at handed
    rw [if_pos operational] at handed
    exact absurd rfl handed

/-- Frames are handed over in ticks only, and only while commands flow. -/
theorem operational_of_handed (s : Scheduler τ) (act : Act τ) (handed : s.handed act ≠ []) :
    ∃ now, act = .tick now ∧ s.connection = .operational ∧
      (s.logged.tick now).2.connection = .operational := by
  obtain ⟨deeds, steps, accounts⟩ := s.logged.perform_steps act.logged
  have permitted : ∀ deed ∈ deeds, act.logged.Permits deed := fun _ => accounts.permits
  cases act with
  | tick now => exact ⟨now, rfl, operational_of_handed_tick handed⟩
  | changeTransport change => exact absurd rfl handed
  | _ => exact absurd (steps.handed_of_permitted permitted nofun nofun) handed

/-- **Few commands are in flight, and frames flow in operation only.** Whatever has been done to a
scheduler, no more commands wait for their confirm than its window allows. Every queued item waits
to be sent or for its confirm, has both times of sending in the latter case, and was put back no
more often than allowed. Of the calls that may follow, only a tick hands frames to the transport,
and only if commands flow before it and after it; so they flow throughout, for no tick makes them
flow. -/
theorem Run.inFlight_le_window {start s : Scheduler τ} {trace : Trace τ} (fresh : start.Fresh)
    (run : Run start trace s) :
    s.inFlight ≤ start.settings.window ∧
      (∀ item ∈ s.queue.items, item.Sound start.settings.maxRetries) ∧
      ∀ act : Act τ, s.handed act ≠ [] →
        ∃ now, act = .tick now ∧ s.connection = .operational ∧
          (s.logged.tick now).2.connection = .operational := by
  obtain ⟨deeds, steps, -⟩ := run.steps
  obtain ⟨settings, -⟩ := steps.made_eq
  have sound := run.sound fresh
  refine ⟨?_, fun item mem => ?_, s.operational_of_handed⟩
  · rw [← settings]
    exact sound.inFlight
  · obtain ⟨slot, held⟩ := SendQueue.mem_items.mp mem
    rw [← settings]
    exact sound.items held

/-- Of the three commands that may be in flight two are, and another waits to be sent. -/
def thirdWaits : Trace SimulatedTransport × Scheduler SimulatedTransport :=
  performAll { transport := { autoConnect := true }, settings := { window := 3 } }
    [.openSession, .handleEvent ⟨1, .connected⟩ 0,
      .enqueue { id := Command.version, values := [.u32 0] } (some ⟨1⟩), .tick 5,
      .enqueue { id := Command.version, values := [.u32 0] } (some ⟨2⟩)]

theorem Run.inFlight_le_window_of_thirdWaits :
    Fresh ({ transport := { autoConnect := true }, settings := { window := 3 } } :
        Scheduler SimulatedTransport) ∧
      Run { transport := { autoConnect := true }, settings := { window := 3 } } thirdWaits.1
        thirdWaits.2 ∧
      thirdWaits.2.inFlight = 2 ∧ thirdWaits.2.inFlight ≤ 3 ∧
      (∀ item ∈ thirdWaits.2.queue.items, item.Sound 2) ∧
      (thirdWaits.2.handed (.tick 6)).length = 1 ∧ thirdWaits.2.connection = .operational := by
  have fresh : Fresh ({ transport := { autoConnect := true }, settings := { window := 3 } } :
      Scheduler SimulatedTransport) := .mk _ _ _ _ _
  have run : Run { transport := { autoConnect := true }, settings := { window := 3 } }
      thirdWaits.1 thirdWaits.2 := run_performAll _ _
  have sent : (thirdWaits.2.handed (.tick 6)).length = 1 := by rfl
  obtain ⟨bound, sound, flows⟩ := inFlight_le_window fresh run
  obtain ⟨now, -, operational, -⟩ := flows (.tick 6) (List.ne_nil_of_length_eq_add_one sent)
  exact ⟨fresh, run, by rfl, bound, sound, sent, operational⟩

end Scheduler

end SerialLink
