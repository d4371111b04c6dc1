import Mathlib.Logic.Relation
import SerialLink.Proofs.Transport.Moves

/-!
What a session reports, and in which order: that the update loader answered, that the session is
operational, that bytes wait, and last that it has ended. The worker remembers from the beginning of
a round to its end whether the session was operational, and only its last step in the round changes
that; so the two kinds of round, and the reports made in them, never mix.
-/
namespace SerialLink

/-! ### The reports of a session -/

/-- The reports of a session that has not ended: the update loader may have answered, and the
session may be operational and have told of bytes so many times. -/
def reportsSoFar (loader : Bool) (readables : Option Nat) : List TransportEvent :=
  (if loader then [.bootloaderActive] else []) ++
    readables.elim [] fun n => .connected :: List.replicate n .readable

/-- All reports of a session. -/
def sessionReports (loader : Bool) (readables : Option Nat) (reason : DisconnectReason) :
    List TransportEvent :=
  reportsSoFar loader readables ++ [.disconnected reason]

theorem reportsSoFar_connected (loader : Bool) :
    reportsSoFar loader none ++ [.connected] = reportsSoFar loader (some 0) := by
  simp [reportsSoFar]

theorem reportsSoFar_readable (loader : Bool) (n : Nat) :
    reportsSoFar loader (some n) ++ [.readable] = reportsSoFar loader (some (n + 1)) := by
  simp [reportsSoFar, List.replicate_succ']

/-- A way that the state of a session may go. -/
inductive TransportState.Next : TransportState → TransportState → Prop where
  | opened : Next .opening .probing
  | probed : Next .probing .awaitingBootloader
  | waited : Next .awaitingBootloader .operational
  | closed {state : TransportState} (running : state ≠ .closed) : Next state .closed

/-- The banner is found once at most. -/
theorem BannerWatch.seen_feed (w : BannerWatch) (piece : Bytes) :
    ((w.feed piece).1 = false ∧ (w.feed piece).2.seen = w.seen) ∨
      ((w.feed piece).1 = true ∧ w.seen = false ∧ (w.feed piece).2.seen = true) := by
  by_cases seen : w.seen
  · left
    simp [feed, seen]
  · by_cases occurs : Banner.occursIn (w.kept ++ piece)
    · right
      simp [feed, seen, occurs]
    · left
      simp [feed, seen, occurs]

namespace PortTransport

variable {idle t t' : PortTransport} {act : Act} {outcome : Outcome} {trace later : Trace}

namespace Trace

@[simp] theorem heard_append : Trace.heard (trace ++ later) = trace.heard ++ later.heard :=
  List.filterMap_append

end Trace

/-! ### Reports, phase by phase -/

/-- The session has made these reports, and that it is operational is among them or not. -/
def HasTold (operational loader : Bool) (sent : List TransportEvent) : Prop :=
  ∃ readables : Option Nat, sent = reportsSoFar loader readables ∧ readables.isSome = operational

/-- What the session has reported when the worker is in this phase. -/
def Reported (state : TransportState) (loader : Bool) : WorkerPhase → List TransportEvent → Prop
  | .opening, sent | .probing, sent => sent = [] ∧ loader = false
  | .beginning, sent => HasTold (state = .operational) loader sent
  | .writing operational, sent | .reading operational, sent | .timing operational, sent =>
    HasTold operational loader sent
  | .reporting true event, sent => event = .readable ∧ HasTold true loader sent
  | .reporting false event, sent => event = .bootloaderActive ∧ sent = [] ∧ loader = true
  | .announcing, sent => HasTold false loader sent
  | .closing _, sent | .leaving _, sent => ∃ loader readables, sent = reportsSoFar loader readables
  | .ended, sent => ∃ loader readables reason, sent = sessionReports loader readables reason

/-- Until the worker has ended, only the last report may be missing. -/
theorem Reported.forms {state : TransportState} {loader : Bool} {phase : WorkerPhase}
    {sent : List TransportEvent} (reported : Reported state loader phase sent) :
    (phase ≠ .ended ∧ ∃ loader readables, sent = reportsSoFar loader readables) ∨
      (phase = .ended ∧
        ∃ loader readables reason, sent = sessionReports loader readables reason) := by
  cases phase with
  | opening | probing => exact .inl ⟨nofun, false, none, reported.1⟩
  | beginning | writing | reading | timing | announcing =>
    obtain ⟨readables, eq, _⟩ := reported
    exact .inl ⟨nofun, loader, readables, eq⟩
  | reporting operational event =>
    cases operational with
    | true =>
      obtain ⟨_, readables, eq, _⟩ := reported
      exact .inl ⟨nofun, loader, readables, eq⟩
    | false => exact .inl ⟨nofun, false, none, reported.2.1⟩
  | closing | leaving => exact .inl ⟨nofun, reported⟩
  | ended => exact .inr ⟨rfl, reported⟩

theorem Reported.of_mayFail {state : TransportState} {loader : Bool} {phase : WorkerPhase}
    {sent : List TransportEvent} (reported : Reported state loader phase sent)
    (mayFail : phase.mayFail) : ∃ loader readables, sent = reportsSoFar loader readables := by
  rcases reported.forms with ⟨_, unfinished⟩ | ⟨rfl, _⟩
  · exact unfinished
  · cases mayFail

/-- The reports of the session, heard or not, are these. -/
structure Telling (idle : PortTransport) (trace : Trace) (t : PortTransport)
    (sent : List TransportEvent) : Prop where
  session : t.session = idle.session + 1
  reports : trace.heard ++ t.events = idle.events ++ sent.map (⟨t.session, ·⟩)
  reported : Reported t.state t.watch.seen t.phase sent

variable {sent : List TransportEvent}

theorem Telling.keep (telling : Telling idle trace t sent) (session : t'.session = t.session)
    (reports : Trace.heard [(act, outcome)] ++ t'.events = t.events)
    (reported : Reported t'.state t'.watch.seen t'.phase sent) :
    ∃ sent, Telling idle (trace ++ [(act, outcome)]) t' sent := by
  refine ⟨sent, session.trans telling.session, ?_, reported⟩
  rw [Trace.heard_append, List.append_assoc, reports, session]
  exact telling.reports

theorem Telling.report (telling : Telling idle trace t sent) (event : TransportEvent)
    (answers : PortAnswers) (phase : WorkerPhase)
    (reported : Reported t.state t.watch.seen phase (sent ++ [event])) :
    ∃ sent, Telling idle (trace ++ [(.work answers, .worked none)])
      { t.report event with phase } sent := by
  refine ⟨sent ++ [event], telling.session, ?_, reported⟩
  have silent : Trace.heard [(.work answers, .worked none)] = [] := rfl
  simp only [Trace.heard_append, silent, List.append_nil, PortTransport.report, List.map_append,
    List.map_cons, List.map_nil]
  rw [← List.append_assoc, telling.reports, List.append_assoc]

theorem Move.telling (move : Move t act outcome t') (agree : Agree t.phase t.state)
    (telling : Telling idle trace t sent) :
    ∃ sent, Telling idle (trace ++ [(act, outcome)]) t' sent := by
  have reported := telling.reported
  cases move with
  | rested | wished | accepted | refused | received => exact telling.keep rfl rfl reported
  | heardNothing quiet => exact telling.keep rfl rfl reported
  | heard event events oldest => exact telling.keep rfl oldest.symm reported
  | opened _ phase =>
    rw [phase] at reported
    exact telling.keep rfl rfl reported
  | probed _ phase =>
    rw [phase] at reported
    obtain ⟨nothing, unseen⟩ := reported
    exact telling.keep rfl rfl ⟨none, by simp [nothing, unseen, reportsSoFar], rfl⟩
  | gaveUp _ _ _ phase => exact telling.keep rfl rfl (reported.of_mayFail phase)
  | took _ next phase onward =>
    rw [phase] at reported
    rcases onward with rfl | rfl <;> exact telling.keep rfl rfl reported
  | wrote _ _ phase | heldBack _ _ phase | readNothing _ _ phase =>
    rw [phase] at reported
    exact telling.keep rfl rfl reported
  | arrived _ _ phase =>
    rw [phase] at reported
    refine telling.keep rfl rfl ?_
    dsimp only
    split
    · exact ⟨rfl, reported⟩
    · exact reported
  | watched _ chunk phase =>
    rw [phase] at reported
    refine telling.keep rfl rfl ?_
    dsimp only
    rcases t.watch.seen_feed chunk with ⟨missing, same⟩ | ⟨found, unseen, seen⟩
    · simp only [missing, same, Bool.false_eq_true, if_false]
      exact reported
    · -- The banner was not seen before, so nothing has been reported.
      obtain ⟨readables, eq, early⟩ := reported
      have none_yet : readables = none := by simpa using early
      rw [unseen, none_yet] at eq
      simp only [found, if_true]
      exact ⟨rfl, eq, seen⟩
  | reported _ operational event phase =>
    rw [phase] at reported
    apply telling.report
    cases operational with
    | true =>
      obtain ⟨rfl, readables, eq, late⟩ := reported
      obtain ⟨n, rfl⟩ := Option.isSome_iff_exists.mp late
      exact ⟨some (n + 1), by rw [eq, reportsSoFar_readable], rfl⟩
    | false =>
      obtain ⟨rfl, nothing, seen⟩ := reported
      exact ⟨none, by simp [nothing, seen, reportsSoFar], rfl⟩
  | waited _ phase =>
    rw [phase] at reported
    exact telling.keep rfl rfl reported
  | wentRound _ operational phase =>
    rw [phase] at reported agree
    have same : decide (t.state = .operational) = operational := by
      simp only [Agree] at agree
      cases operational <;> simp [agree]
    refine telling.keep rfl rfl ?_
    simp only [Reported, same]
    exact reported
  | announced _ phase =>
    rw [phase] at reported agree
    obtain ⟨readables, eq, early⟩ := reported
    have none_yet : readables = none := by simpa using early
    have operational : t.state = .operational := agree
    refine telling.report _ _ _ ⟨some 0, ?_, by simp [operational]⟩
    rw [eq, none_yet, reportsSoFar_connected]
  | closed _ _ phase =>
    rw [phase] at reported
    exact telling.keep rfl rfl reported
  | left _ reason phase =>
    rw [phase] at reported
    obtain ⟨loader, readables, eq⟩ := reported
    exact telling.report _ _ _ ⟨loader, readables, reason, by rw [eq, sessionReports]⟩

theorem Session.telling (session : Session idle trace t) : ∃ sent, Telling idle trace t sent := by
  apply session.along
  · intro free
    refine ⟨[], ?_, ?_, ?_⟩
    · simp [start, free]
    · simp [start, free, Trace.heard]
    · simp [start, free, Reported]
  · rintro _ _ _ _ _ before ⟨sent, telling⟩ move
    exact move.telling before.agree telling

/-! ### The state of the session -/

/-- The state stays or goes one way. -/
theorem Move.state_next (move : Move t act outcome t') (agree : Agree t.phase t.state) :
    t'.state = t.state ∨ t.state.Next t'.state := by
  cases move with
  | opened _ phase =>
    rw [phase] at agree
    have opening : t.state = .opening := agree
    exact .inr (opening ▸ .opened)
  | probed _ phase =>
    rw [phase] at agree
    have probing : t.state = .probing := agree
    exact .inr (probing ▸ .probed)
  | waited _ phase =>
    rw [phase] at agree
    have awaiting : t.state = .awaitingBootloader := agree
    exact .inr (awaiting ▸ .waited)
  | closed _ _ phase =>
    rw [phase] at agree
    exact .inr (.closed agree)
  | _ => exact .inl rfl

theorem Session.state_next (session : Session idle trace t) (act : Act) :
    (t.perform act).2.state = t.state ∨ t.state.Next (t.perform act).2.state :=
  (perform_move t act).state_next session.agree

/-- Over any number of acts the state goes forward only. -/
theorem Session.state_forward (session : Session idle trace t) (acts : List Act) :
    Relation.ReflTransGen TransportState.Next t.state (t.performAll acts).2.state := by
  induction acts generalizing trace t with
  | nil => exact .refl
  | cons act acts ih =>
    have onward := ih (session.next act)
    rcases session.state_next act with same | next
    · rwa [same] at onward
    · exact .head next onward

theorem Session.state_of_opening (session : Session idle trace t) :
    Relation.ReflTransGen TransportState.Next .opening t.state := by
  apply session.along
  · intro free
    have opening : idle.start.2.state = .opening := by simp [start, free]
    rw [opening]
  · intro _ _ _ _ _ before reached move
    rcases move.state_next before.agree with same | next
    · rwa [same]
    · exact reached.tail next

/-- **Reports are in order.** The reports of a session are a beginning of a list of a known form,
and the whole of it once the worker has ended. The state of the session has come from `opening` and
goes on forward only, one way at a time. -/
theorem Session.reports_ordered (session : Session idle trace t) :
    (∃ sent : List TransportEvent,
      trace.heard ++ t.events = idle.events ++ sent.map (⟨idle.session + 1, ·⟩) ∧
        ∃ loader readables reason, sent <+: sessionReports loader readables reason ∧
          (t.phase = .ended → sent = sessionReports loader readables reason)) ∧
      Relation.ReflTransGen TransportState.Next .opening t.state ∧
      (∀ act, (t.perform act).2.state = t.state ∨ t.state.Next (t.perform act).2.state) ∧
      ∀ acts, Relation.ReflTransGen TransportState.Next t.state (t.performAll acts).2.state := by
  refine ⟨?_, session.state_of_opening, session.state_next, session.state_forward⟩
  obtain ⟨sent, telling⟩ := session.telling
  refine ⟨sent, telling.session ▸ telling.reports, ?_⟩
  rcases telling.reported.forms with unfinished | finished
  · obtain ⟨running, loader, readables, eq⟩ := unfinished
    refine ⟨loader, readables, .normal, ?_, fun ended => absurd ended running⟩
    rw [eq]
    exact List.prefix_append _ _
  · obtain ⟨_, loader, readables, reason, eq⟩ := finished
    exact ⟨loader, readables, reason, eq ▸ List.prefix_refl _, fun _ => eq⟩

/-- A report of an earlier session has not been heard. -/
def reconnecting : PortTransport where
  session := 4
  events := [⟨4, .disconnected .ioError⟩]

/-- The banner came in two pieces; then the session became operational, was told of bytes twice and
was closed. -/
def closedByOwner : Trace × PortTransport :=
  reconnecting.start.2.performAll
    [.work {}, .work {}, .work {}, .work { read := .ok (Banner.text.take 4) }, .work {},
      .work {}, .work { read := .ok (Banner.text.drop 4) }, .work {}, .work { now := 1000 },
      .work {}, .work {}, .work { read := .ok [1] }, .work {}, .nextEvent, .receive, .work {},
      .work {}, .work { read := .ok [2] }, .work {}, .requestStop .normal, .work {}, .work {},
      .work {}, .work {}]

theorem Session.reports_ordered_of_closedByOwner :
    Session reconnecting closedByOwner.1 closedByOwner.2 ∧
      closedByOwner.1.heard = [⟨4, .disconnected .ioError⟩] ∧
      closedByOwner.2.events = (sessionReports true (some 2) .normal).map (⟨5, ·⟩) ∧
      (∃ (sent : List TransportEvent) (loader : Bool) (readables : Option Nat)
          (reason : DisconnectReason),
        closedByOwner.1.heard ++ closedByOwner.2.events =
            ⟨4, .disconnected .ioError⟩ :: sent.map (⟨5, ·⟩) ∧
          sent = sessionReports loader readables reason) ∧
      Relation.ReflTransGen TransportState.Next .opening .closed := by
  have session : Session reconnecting closedByOwner.1 closedByOwner.2 := .of_start rfl _
  have ended : closedByOwner.2.phase = .ended := by decide +kernel
  have closed : closedByOwner.2.state = .closed := by decide +kernel
  obtain ⟨⟨sent, reports, loader, readables, reason, _, whole⟩, forward, _, _⟩ :=
    reports_ordered session
  exact ⟨session, by decide +kernel, by decide +kernel,
    ⟨sent, loader, readables, reason, reports, whole ended⟩, closed ▸ forward⟩

end PortTransport

end SerialLink
