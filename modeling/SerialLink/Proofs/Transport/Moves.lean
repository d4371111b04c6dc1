import SerialLink.Transport.PortSession

/-!
What one step of the worker and one call of the owner can do: a `Move` for each way in which the
port, the clock and the state of the session can decide it. The invariants of a session are proved
by cases on its moves, and never open the steps themselves.
-/
namespace SerialLink

/-- The worker may give up in its next step. -/
def WorkerPhase.mayFail : WorkerPhase → Bool
  | .opening | .probing | .beginning | .writing _ | .reading _ => true
  | _ => false

namespace PortTransport

/-- What happens to the transport in an act, with what comes of it. -/
inductive Move (t : PortTransport) : Act → Outcome → PortTransport → Prop where
  | rested (answers : PortAnswers) (phase : t.phase = .ended) :
    Move t (.work answers) (.worked none) t
  | opened (answers : PortAnswers) (phase : t.phase = .opening) :
    Move t (.work answers) (.worked none) { t with state := .probing, phase := .probing }
  | probed (answers : PortAnswers) (phase : t.phase = .probing) :
    Move t (.work answers) (.worked none)
      { t with
        written := t.written ++ [probe]
        state := .awaitingBootloader
        deadline := answers.now + t.settings.bootloaderWait
        phase := .beginning }
  /-- The port failed for good, or the session is to stop. -/
  | gaveUp (answers : PortAnswers) (reason : DisconnectReason) (writeErrors : Nat)
    (phase : t.phase.mayFail) :
    Move t (.work answers) (.worked none) { t with writeErrors, phase := .closing reason }
  /-- A round begins; there may be nothing to write in it. -/
  | took (answers : PortAnswers) (next : WorkerPhase) (phase : t.phase = .beginning)
    (onward : next = .reading (t.state = .operational) ∨ next = .writing (t.state = .operational)) :
    Move t (.work answers) (.worked none)
      { t with
        outbound := t.outbound.clear
        outgoing := t.outgoing ++ t.outbound.bytes
        phase := next }
  | wrote (answers : PortAnswers) (operational : Bool) (phase : t.phase = .writing operational) :
    Move t (.work answers) (.worked none)
      { t with
        written := t.written ++ [t.outgoing]
        metrics := t.metrics.add .bytesSent t.labels.toList t.outgoing.length
        outgoing := []
        writeErrors := 0
        phase := .reading operational }
  /-- The port did not take the bytes, and they are kept. -/
  | heldBack (answers : PortAnswers) (operational : Bool) (phase : t.phase = .writing operational) :
    Move t (.work answers) (.worked none)
      { t with writeErrors := t.writeErrors + 1, phase := .reading operational }
  | readNothing (answers : PortAnswers) (operational : Bool)
    (phase : t.phase = .reading operational) :
    Move t (.work answers) (.worked none) { t with phase := .timing operational }
  /-- Bytes for the owner were read. -/
  | arrived (answers : PortAnswers) (chunk : Bytes) (phase : t.phase = .reading true) :
    Move t (.work answers) (.worked (some ⟨chunk, t.inbound.free⟩))
      { t with
        metrics := t.metrics.add .bytesReceived t.labels.toList chunk.length
        inbound := t.inbound.pushLossy chunk
        phase := if t.inbound.isEmpty then .reporting true .readable else .timing true }
  /-- Bytes that the update loader may have sent were read. -/
  | watched (answers : PortAnswers) (chunk : Bytes) (phase : t.phase = .reading false) :
    Move t (.work answers) (.worked none)
      { t with
        metrics := t.metrics.add .bytesReceived t.labels.toList chunk.length
        watch := (t.watch.feed chunk).2
        phase := if (t.watch.feed chunk).1 then .reporting false .bootloaderActive
          else .timing false }
  | reported (answers : PortAnswers) (operational : Bool) (event : TransportEvent)
    (phase : t.phase = .reporting operational event) :
    Move t (.work answers) (.worked none) { t.report event with phase := .timing operational }
  /-- The update loader has been waited for long enough. -/
  | waited (answers : PortAnswers) (phase : t.phase = .timing false) :
    Move t (.work answers) (.worked none) { t with state := .operational, phase := .announcing }
  | wentRound (answers : PortAnswers) (operational : Bool) (phase : t.phase = .timing operational) :
    Move t (.work answers) (.worked none) { t with phase := .beginning }
  | announced (answers : PortAnswers) (phase : t.phase = .announcing) :
    Move t (.work answers) (.worked none) { t.report .connected with phase := .beginning }
  | closed (answers : PortAnswers) (reason : DisconnectReason) (phase : t.phase = .closing reason) :
    Move t (.work answers) (.worked none)
      { t with state := .closed, outbound := t.outbound.clear, phase := .leaving reason }
  | left (answers : PortAnswers) (reason : DisconnectReason) (phase : t.phase = .leaving reason) :
    Move t (.work answers) (.worked none)
      { t.report (.disconnected reason) with phase := .ended }
  | wished (reason : DisconnectReason) (stopWish : Option DisconnectReason) :
    Move t (.requestStop reason) .nothing { t with stopWish }
  | accepted (frame : Bytes) (operational : t.state = .operational)
    (room : frame.length ≤ t.outbound.free) :
    Move t (.send frame) (.sent (.ok ()))
      { t with outbound := { t.outbound with bytes := t.outbound.bytes ++ frame } }
  | refused (frame : Bytes) (fault : TransportFault) : Move t (.send frame) (.sent (.error fault)) t
  | received : Move t .receive (.received t.inbound.bytes) { t with inbound := t.inbound.clear }
  | heardNothing (quiet : t.events = []) : Move t .nextEvent (.heard none) t
  | heard (event : SessionEvent) (events : List SessionEvent)
    (oldest : t.events = event :: events) :
    Move t .nextEvent (.heard (some event)) { t with events }

variable {idle t t' : PortTransport} {act : Act} {outcome : Outcome} {trace : Trace}

/-! ### Steps of the worker -/

theorem openPort_move (answers : PortAnswers) (phase : t.phase = .opening) :
    Move t (.work answers) (.worked none) (t.openPort answers.opened) := by
  unfold openPort
  split
  · exact .opened answers phase
  · exact .gaveUp answers _ t.writeErrors (by simp [phase, WorkerPhase.mayFail])

theorem writeProbe_move (answers : PortAnswers) (phase : t.phase = .probing) :
    Move t (.work answers) (.worked none) (t.writeProbe answers.written answers.now) := by
  unfold writeProbe
  split
  · exact .probed answers phase
  · exact .gaveUp answers _ t.writeErrors (by simp [phase, WorkerPhase.mayFail])

theorem beginRound_move (answers : PortAnswers) (phase : t.phase = .beginning) :
    Move t (.work answers) (.worked none) t.beginRound := by
  unfold beginRound
  split
  · exact .gaveUp answers _ t.writeErrors (by simp [phase, WorkerPhase.mayFail])
  · apply Move.took answers _ phase
    by_cases idle : (t.outgoing ++ t.outbound.bytes).isEmpty
    · left
      exact if_pos idle
    · right
      exact if_neg idle

theorem writeOutgoing_move (answers : PortAnswers) {operational : Bool}
    (phase : t.phase = .writing operational) :
    Move t (.work answers) (.worked none) (t.writeOutgoing operational answers.written) := by
  have mayFail : t.phase.mayFail := by simp [phase, WorkerPhase.mayFail]
  unfold writeOutgoing
  split
  · exact .wrote answers operational phase
  · dsimp only
    split
    · exact .gaveUp answers .ioError (t.writeErrors + 1) mayFail
    · exact .heldBack answers operational phase

/-- Bytes are delivered in an operational round only, and all that are read are accounted for. -/
theorem readPort_move (answers : PortAnswers) {operational : Bool}
    (phase : t.phase = .reading operational) :
    Move t (.work answers) (.worked (t.arrival? answers))
      (t.readPort operational answers.read) := by
  have mayFail : t.phase.mayFail := by simp [phase, WorkerPhase.mayFail]
  rcases read : answers.read with fault | chunk
  · have none_read : t.arrival? answers = none := by simp [arrival?, read]
    rw [none_read]
    by_cases transient : fault.isTransient
    · simp only [readPort, transient, if_true]
      exact .readNothing answers operational phase
    · simp only [readPort, transient, if_false, Bool.false_eq_true]
      exact .gaveUp answers .ioError t.writeErrors mayFail
  · cases chunk with
    | nil =>
      have none_read : t.arrival? answers = none := by simp [arrival?, read]
      rw [none_read]
      exact .readNothing answers operational phase
    | cons b chunk =>
      cases operational with
      | true =>
        have all_read : t.arrival? answers = some ⟨b :: chunk, t.inbound.free⟩ := by
          simp [arrival?, read, phase]
        rw [all_read]
        exact .arrived answers (b :: chunk) phase
      | false =>
        have none_read : t.arrival? answers = none := by simp [arrival?, phase]
        rw [none_read]
        exact .watched answers (b :: chunk) phase

theorem lookAtClock_move (answers : PortAnswers) {operational : Bool}
    (phase : t.phase = .timing operational) :
    Move t (.work answers) (.worked none) (t.lookAtClock operational answers.now) := by
  unfold lookAtClock
  split
  next late =>
    have before : operational = false := by
      simp only [Bool.and_eq_true, Bool.not_eq_true'] at late
      exact late.1
    subst before
    exact .waited answers phase
  · exact .wentRound answers operational phase

/-- A step of the worker is a move, whatever the port and the clock answer. -/
theorem step_move (t : PortTransport) (answers : PortAnswers) :
    Move t (.work answers) (.worked (t.arrival? answers)) (t.step answers) := by
  -- Nothing is read for the owner but in the phase of reading.
  have quiet (apart : ∀ operational, t.phase ≠ .reading operational) {t' : PortTransport}
      (move : Move t (.work answers) (.worked none) t') :
      Move t (.work answers) (.worked (t.arrival? answers)) t' := by
    have none_read : t.arrival? answers = none := by
      unfold arrival?
      split
      next phase _ => exact absurd phase (apart true)
      · rfl
    rwa [none_read]
  unfold step
  split
  next phase => exact quiet (by simp [phase]) (.rested answers phase)
  next phase => exact quiet (by simp [phase]) (openPort_move answers phase)
  next phase => exact quiet (by simp [phase]) (writeProbe_move answers phase)
  next phase => exact quiet (by simp [phase]) (beginRound_move answers phase)
  next phase => exact quiet (by simp [phase]) (writeOutgoing_move answers phase)
  next phase => exact readPort_move answers phase
  next phase => exact quiet (by simp [phase]) (.reported answers _ _ phase)
  next phase => exact quiet (by simp [phase]) (lookAtClock_move answers phase)
  next phase => exact quiet (by simp [phase]) (.announced answers phase)
  next phase => exact quiet (by simp [phase]) (.closed answers _ phase)
  next phase => exact quiet (by simp [phase]) (.left answers _ phase)

/-! ### Calls of the owner -/

theorem send_move (t : PortTransport) (frame : Bytes) :
    Move t (.send frame) (.sent (t.send frame).1) (t.send frame).2 := by
  by_cases state : t.state = .operational
  · rcases Nat.lt_or_ge t.outbound.free frame.length with short | room
    · simpa [send, state, ByteRing.pushAll?_of_short short] using Move.refused frame _
    · simpa [send, state, ByteRing.pushAll?_of_room room] using Move.accepted frame state room
  · simpa [send, state] using Move.refused frame _

theorem nextEvent_move (t : PortTransport) :
    Move t .nextEvent (t.perform .nextEvent).1 (t.perform .nextEvent).2 := by
  cases events : t.events with
  | nil => simpa [perform, nextEvent?, events] using Move.heardNothing events
  | cons event rest => simpa [perform, nextEvent?, events] using Move.heard event rest events

/-- Whatever happens in a session is a move. -/
theorem perform_move (t : PortTransport) (act : Act) :
    Move t act (t.perform act).1 (t.perform act).2 := by
  cases act with
  | work answers => exact step_move t answers
  | requestStop reason =>
    simp only [perform, requestStop]
    split
    · exact .wished reason t.stopWish
    · exact .wished reason (some reason)
  | send frame => exact send_move t frame
  | receive => exact .received
  | nextEvent => exact nextEvent_move t

/-! ### Sessions, move by move -/

namespace Session

/-- What holds when a session starts, and is kept by every move, holds throughout. -/
theorem along {motive : Trace → PortTransport → Prop} (session : Session idle trace t)
    (started : idle.phase = .ended → motive [] idle.start.2)
    (kept : ∀ {trace t act outcome t'}, Session idle trace t → motive trace t →
      Move t act outcome t' → motive (trace ++ [(act, outcome)]) t') :
    motive trace t := by
  induction session with
  | started free => exact started free
  | next session act ih => exact kept session ih (perform_move _ act)

theorem performAll (session : Session idle trace t) (acts : List Act) :
    Session idle (trace ++ (t.performAll acts).1) (t.performAll acts).2 := by
  induction acts generalizing trace t with
  | nil => simpa [PortTransport.performAll] using session
  | cons act acts ih => simpa [PortTransport.performAll] using ih (session.next act)

theorem of_start (free : idle.phase = .ended) (acts : List Act) :
    Session idle (idle.start.2.performAll acts).1 (idle.start.2.performAll acts).2 :=
  (started free).performAll acts

end Session

/-! ### The worker and the state of the session -/

/-- The worker may be in this phase while the session is in this state. In a round that has begun
before the session was operational, it is not operational until the clock is looked at. -/
def Agree : WorkerPhase → TransportState → Prop
  | .opening, state => state = .opening
  | .probing, state => state = .probing
  | .beginning, state => state = .awaitingBootloader ∨ state = .operational
  | .writing operational, state | .reading operational, state | .timing operational, state
  | .reporting operational _, state =>
    state = if operational then .operational else .awaitingBootloader
  | .announcing, state => state = .operational
  | .closing _, state => state ≠ .closed
  | .leaving _, state | .ended, state => state = .closed

theorem Agree.of_mayFail {phase : WorkerPhase} {state : TransportState} (agree : Agree phase state)
    (mayFail : phase.mayFail) : state ≠ .closed := by
  cases phase with
  | opening | probing =>
    simp only [Agree] at agree
    simp [agree]
  | beginning => rcases agree with rfl | rfl <;> simp
  | writing operational | reading operational =>
    simp only [Agree] at agree
    cases operational <;> simp [agree]
  | _ => simp [WorkerPhase.mayFail] at mayFail

/-- When a round begins, its kind is the one of the session. -/
theorem agree_of_beginning {state : TransportState}
    (beginning : state = .awaitingBootloader ∨ state = .operational) :
    state = if decide (state = .operational) then .operational else .awaitingBootloader := by
  rcases beginning with rfl | rfl <;> rfl

theorem Move.agree (move : Move t act outcome t') (agree : Agree t.phase t.state) :
    Agree t'.phase t'.state := by
  cases move with
  | opened | probed | waited | closed => simp [Agree]
  | gaveUp _ _ _ phase => exact agree.of_mayFail phase
  | took _ next phase onward =>
    rw [phase] at agree
    rcases onward with rfl | rfl <;> exact agree_of_beginning agree
  | wrote _ _ phase | heldBack _ _ phase | readNothing _ _ phase | reported _ _ _ phase
  | left _ _ phase =>
    rw [phase] at agree
    exact agree
  | arrived _ _ phase =>
    rw [phase] at agree
    dsimp only
    split <;> exact agree
  | watched _ _ phase =>
    rw [phase] at agree
    dsimp only
    split <;> exact agree
  | wentRound _ operational phase =>
    rw [phase] at agree
    cases operational with
    | true => exact .inr agree
    | false => exact .inl agree
  | announced _ phase =>
    rw [phase] at agree
    exact .inr agree
  | rested | wished | accepted | refused | received | heardNothing | heard => exact agree

theorem Session.agree (session : Session idle trace t) : Agree t.phase t.state := by
  apply session.along
  · intro free
    simp [start, free, Agree]
  · intro _ _ _ _ _ _ agree move
    exact move.agree agree

end PortTransport

end SerialLink
