import SerialLink.Proofs.Scheduler.History
import SerialLink.Transport.Simulated

/-!
The connection and the session. While no session is accepted, the connection is off
(`Step.off_of_alone`), and a step makes the two differ in one case only: a session that is asked for
while another is accepted is not given (`Step.agrees`). The connection is off then, and the reports
of the accepted session are still heard. No call but the one that asks for a session can do that, so
without it the connection is off exactly if no session is accepted (`Run.connection_agrees`). As long
as anything is queued there is a connection, and a session (`Run.connected_of_held`).
-/

namespace SerialLink.Scheduler

/-! ### Orderly histories -/

/-- What comes before a deed of an orderly history that is not plain: a session is told to have
ended right after all work has failed, and one starts where there is none. -/
theorem Orderly.at_cut {session : Option Nat} {before after : List Deed} {deed : Deed}
    (orderly : Orderly session (before ++ deed :: after)) :
    deed.isPlain = true ∨
      (∃ reason earlier items ids, deed = .told (.disconnected reason) ∧
        before = earlier ++ [.killed items ids .disconnected]) ∨
      (∃ started, deed = .opened started) ∧ before.foldl Deed.sessionAfter session = none := by
  generalize whole : before ++ deed :: after = deeds at orderly
  induction orderly generalizing before with
  | nil => simp at whole
  | plain plain rest ih =>
    rcases List.append_eq_cons_iff.mp whole with ⟨rfl, same⟩ | ⟨before, rfl, cut⟩
    · cases same
      exact .inl plain
    · rw [List.foldl_cons, Deed.sessionAfter_of_isPlain plain]
      rcases ih cut.symm with plain | ⟨reason, earlier, items, ids, told, rfl⟩ | opened
      · exact .inl plain
      · exact .inr (.inl ⟨reason, _ :: earlier, items, ids, told, rfl⟩)
      · exact .inr (.inr opened)
  | ended session items ids reason rest ih =>
    rcases List.append_eq_cons_iff.mp whole with ⟨rfl, same⟩ | ⟨before, rfl, cut⟩
    · cases same
      exact .inl rfl
    rcases List.append_eq_cons_iff.mp cut.symm with ⟨rfl, same⟩ | ⟨earlier, rfl, behind⟩
    · cases same
      exact .inr (.inl ⟨reason, [], items, ids, rfl, rfl⟩)
    · rcases ih behind.symm with plain | ⟨reason, earlier, items, ids, told, rfl⟩ | opened
      · exact .inl plain
      · exact .inr (.inl ⟨reason, _ :: _ :: earlier, items, ids, told, rfl⟩)
      · exact .inr (.inr opened)
  | opened started rest ih =>
    rcases List.append_eq_cons_iff.mp whole with ⟨rfl, same⟩ | ⟨before, rfl, cut⟩
    · cases same
      exact .inr (.inr ⟨⟨started, rfl⟩, rfl⟩)
    · rcases ih cut.symm with plain | ⟨reason, earlier, items, ids, told, rfl⟩ | ⟨opened, alone⟩
      · exact .inl plain
      · exact .inr (.inl ⟨reason, _ :: earlier, items, ids, told, rfl⟩)
      · refine .inr (.inr ⟨opened, ?_⟩)
        cases started <;> exact alone

/-! ### The connection -/

variable {τ : Type}

/-- The connection is off exactly if no session is accepted. -/
def Agrees (s : Scheduler τ) : Prop := s.connection = .off ↔ s.session = none

theorem agrees_of_off {s : Scheduler τ} (off : s.connection = .off) (alone : s.session = none) :
    s.Agrees :=
  ⟨fun _ => alone, fun _ => off⟩

variable [Transport τ]

/-- Without a session there is no connection. -/
theorem Step.off_of_alone {s s' : Scheduler τ} {deed : Deed} (step : Step s deed s')
    (off : s.session = none → s.connection = .off) : s'.session = none → s'.connection = .off := by
  cases step with
  | quiet aside => cases aside <;> exact off
  | leave | disconnect | startFailed => exact fun _ => rfl
  | start => exact nofun
  | connect now joined => exact fun alone => absurd (joined.symm.trans alone) nofun
  | _ => exact off

/-- What is queued is queued in a connection. The steps that leave the connection come after all
work has failed. -/
theorem Step.connected_of_held {s s' : Scheduler τ} {deed : Deed} (step : Step s deed s')
    (before : ∀ slot item, s.queue.get? slot = some item → s.connection ≠ .off) :
    ∀ slot item, s'.queue.get? slot = some item → s'.connection ≠ .off := by
  have cleared {s : Scheduler τ} (cleared : s.Cleared) (slot : Nat) :
      s.queue.get? slot = none := by
    obtain ⟨_, _, rfl⟩ := cleared
    exact SendQueue.get?_empty slot
  cases step with
  | quiet aside => cases aside <;> exact before
  | queueCaller connected => exact fun _ _ _ => connected
  | queueOwn operational | queueRequest operational | send _ operational | discard _ operational
  | retry operational | giveUp operational =>
    intro _ _ _ off
    cases operational.symm.trans off
  | confirm _ held => exact fun _ _ _ => before _ _ held
  | kill =>
    intro slot _ held
    cases (SendQueue.get?_empty slot).symm.trans held
  | leave empty | disconnect _ empty | startFailed empty =>
    intro slot _ held
    cases (cleared empty slot).symm.trans held
  | start => exact fun _ _ _ => nofun
  | connect => exact fun _ _ _ => nofun
  | _ => exact before

/-- The two agree after a step, unless a session was asked for and not given while another was
accepted. -/
theorem Step.agrees {s s' : Scheduler τ} {deed : Deed} (step : Step s deed s') (agrees : s.Agrees)
    (alone : deed = .opened none → s.session = none) : s'.Agrees := by
  cases step with
  | quiet aside => cases aside <;> exact agrees
  | leave _ unjoined => exact agrees_of_off rfl unjoined
  | disconnect => exact agrees_of_off rfl rfl
  | startFailed => exact agrees_of_off rfl (alone rfl)
  | start => exact ⟨nofun, nofun⟩
  | connect now joined => exact ⟨nofun, fun alone => absurd (joined.symm.trans alone) nofun⟩
  | _ => exact agrees

theorem Steps.agrees {s s' : Scheduler τ} {deeds : List Deed} (steps : Steps s deeds s')
    (alone : ∀ before after, deeds = before ++ .opened none :: after →
      before.foldl Deed.sessionAfter s.session = none)
    (agrees : s.Agrees) : s'.Agrees := by
  induction steps with
  | nil s => exact agrees
  | cons step rest ih =>
    refine ih (fun before after cut => ?_) (step.agrees agrees ?_)
    · rw [step.session_eq]
      exact alone (_ :: before) after (congrArg (_ :: ·) cut)
    · rintro rfl
      exact alone [] _ rfl

/-! ### Calls -/

/-- A session that is not given leaves the accepted one as it is, without a connection. -/
theorem openSession_of_error {s : Scheduler τ} {fault : TransportFault}
    (failed : s.openSession.1 = .error fault) :
    s.openSession.2.connection = .off ∧ s.openSession.2.session = s.session := by
  unfold openSession at failed ⊢
  dsimp only at failed ⊢
  split at failed
  · exact ⟨rfl, rfl⟩
  · cases failed

theorem openSession_of_ok {s : Scheduler τ} (given : s.openSession.1 = .ok ()) :
    s.openSession.2.connection = .connecting ∧ s.openSession.2.session ≠ none := by
  unfold openSession at given ⊢
  dsimp only at given ⊢
  split at given
  · cases given
  · exact ⟨rfl, nofun⟩

/-- A call by which the two come to differ asks for a session in vain. -/
theorem agrees_perform {s : Scheduler τ} (act : Act τ) (agrees : s.Agrees)
    (alone : ∀ fault, act = .openSession → s.openSession.1 = .error fault → s.session = none) :
    (s.perform act).2.Agrees := by
  obtain ⟨deeds, steps, -, course⟩ := s.perform_course act
  have unopened {now : Nat} {deeds before after : List Deed}
      (heard : ∀ deed ∈ deeds, deed.ofHearing now)
      (cut : deeds = before ++ .opened none :: after) : False :=
    heard (.opened none) (cut ▸ List.mem_append_right _ List.mem_cons_self)
  cases course with
  | opens items ids started =>
    change s.openSession.2.Agrees
    cases given : s.openSession.1 with
    | ok =>
      obtain ⟨connecting, joined⟩ := openSession_of_ok given
      exact ⟨fun off => absurd (connecting.symm.trans off) nofun, fun none => absurd none joined⟩
    | error fault =>
      obtain ⟨off, same⟩ := openSession_of_error given
      exact agrees_of_off off (same.trans (alone fault rfl given))
  | connects joined =>
    refine steps.agrees (fun before after cut => ?_) agrees
    rcases List.append_eq_cons_iff.mp cut.symm with ⟨-, same⟩ | ⟨_, -, none⟩
    · cases same
    · simp at none
  | hears _ heard | reads heard =>
    exact steps.agrees (fun before after cut => (unopened heard cut).elim) agrees
  | orderly orderly =>
    refine steps.agrees (fun before after cut => ?_) agrees
    rw [cut] at orderly
    rcases orderly.at_cut with plain | ⟨_, _, _, _, told, -⟩ | ⟨-, none⟩
    · cases plain
    · cases told
    · exact none

/-! ### Runs -/

/-- What is queued is queued in a connection, and so in a session. -/
theorem Run.connected_of_held {start s : Scheduler τ} {trace : Trace τ} (fresh : start.Fresh)
    (run : Run start trace s) {slot : Nat} {item : QueueItem}
    (held : s.queue.get? slot = some item) :
    s.connection ≠ .off ∧ ∃ session, s.session = some session := by
  have empty : ∀ slot item, start.queue.get? slot = some item → start.connection ≠ .off := by
    cases fresh with
    | mk =>
      intro slot _ held
      cases (SendQueue.get?_empty slot).symm.trans held
  have off : start.session = none → start.connection = .off := by
    cases fresh with
    | mk => exact fun _ => rfl
  have connected := run.keep
    (fun s => ∀ slot item, s.queue.get? slot = some item → s.connection ≠ .off)
    Step.connected_of_held empty slot item held
  have alone := run.keep (fun s => s.session = none → s.connection = .off) Step.off_of_alone off
  exact ⟨connected, Option.ne_none_iff_exists'.mp fun none => connected (alone none)⟩

/-- **The connection agrees with the session.** Whatever has been done to a scheduler, the
connection is off while no session is accepted. If the connection is off exactly then, this remains
so in every call but one: a session is asked for while another is accepted, and the transport fails
to start it. Then the connection is off and the other session stays accepted. So the connection is
off exactly if no session is accepted, after every run in which that never happened. -/
theorem Run.connection_agrees {start s : Scheduler τ} {trace : Trace τ} (fresh : start.Fresh)
    (run : Run start trace s) :
    (s.session = none → s.connection = .off) ∧
    (∀ act : Act τ, (s.connection = .off ↔ s.session = none) →
      (((s.perform act).2.connection = .off ↔ (s.perform act).2.session = none) ↔
        ∀ fault, act = .openSession → s.openSession.1 = .error fault → s.session = none)) ∧
    (∀ fault, s.openSession.1 = .error fault →
      s.openSession.2.connection = .off ∧ s.openSession.2.session = s.session) ∧
    ((∀ (earlier later : Trace τ) (fault : TransportFault) (s₁ : Scheduler τ),
        trace = earlier ++ (.openSession, .started (.error fault)) :: later →
        Run start earlier s₁ → s₁.session = none) →
      (s.connection = .off ↔ s.session = none)) := by
  have begun : start.session = none ∧ start.connection = .off := by
    cases fresh with
    | mk => exact ⟨rfl, rfl⟩
  refine ⟨?_, fun act agrees => ⟨fun after fault asked failed => ?_, agrees_perform act agrees⟩,
    fun fault => openSession_of_error, fun alone => ?_⟩
  · exact run.keep (fun s => s.session = none → s.connection = .off) Step.off_of_alone
      fun _ => begun.2
  · subst asked
    obtain ⟨off, same⟩ := openSession_of_error failed
    exact same.symm.trans (after.mp off)
  · induction run with
    | nil => exact agrees_of_off begun.2 begun.1
    | @snoc trace s run act ih =>
      refine agrees_perform act (ih ?_) fun fault asked failed => ?_
      · intro earlier later fault s₁ cut
        exact alone earlier (later ++ [(act, (s.perform act).1)]) fault s₁ (by rw [cut]; simp)
      · subst asked
        refine alone trace [] fault s ?_ run
        have outcome : (s.perform .openSession).1 = .started (.error fault) :=
          congrArg Outcome.started failed
        rw [outcome]

/-- A session is asked for in vain, and then given. -/
def secondStart : Trace SimulatedTransport × Scheduler SimulatedTransport :=
  performAll { transport := { failingStarts := 1 } }
    [.openSession, .openSession, .handleEvent ⟨1, .connected⟩ 0]

theorem Run.connection_agrees_of_secondStart :
    Fresh ({ transport := { failingStarts := 1 } } : Scheduler SimulatedTransport) ∧
      Run { transport := { failingStarts := 1 } } secondStart.1 secondStart.2 ∧
      secondStart.2.session = some 1 ∧
      (secondStart.2.connection = .off ↔ secondStart.2.session = none) ∧
      ((secondStart.2.perform .closeSession).2.connection = .off ↔
        (secondStart.2.perform .closeSession).2.session = none) := by
  have fresh : Fresh ({ transport := { failingStarts := 1 } } : Scheduler SimulatedTransport) :=
    .mk _ _ _ _ _
  have run : Run { transport := { failingStarts := 1 } } secondStart.1 secondStart.2 :=
    run_performAll _ _
  obtain ⟨-, kept, -, agrees⟩ := connection_agrees fresh run
  have trace : secondStart.1 = [(.openSession, .started (.error .alreadyOpen)),
      (.openSession, .started (.ok ())), (.handleEvent ⟨1, .connected⟩ 0, .nothing)] := by rfl
  have both : secondStart.2.connection = .off ↔ secondStart.2.session = none := by
    refine agrees fun earlier later fault s₁ cut run => ?_
    rw [trace] at cut
    -- Only the first call asks in vain.
    rcases List.cons_eq_append_iff.mp cut with ⟨rfl, -⟩ | ⟨others, -, cut⟩
    · cases run.eq_performAll
      rfl
    rcases List.cons_eq_append_iff.mp cut with ⟨-, same⟩ | ⟨others, -, cut⟩
    · cases same
    rcases List.cons_eq_append_iff.mp cut with ⟨-, same⟩ | ⟨others, -, cut⟩
    · cases same
    · simp at cut
  exact ⟨fresh, run, by rfl, both, (kept .closeSession both).mpr nofun⟩

/-- Another session is asked for in vain while one runs, and the device has sent its status. -/
def startInSession : Trace SimulatedTransport × Scheduler SimulatedTransport :=
  performAll { transport := {} }
    [.openSession, .handleEvent ⟨1, .connected⟩ 0,
      .changeTransport fun t => { t with failingStarts := 1 }.arriveCommand
        { id := Command.deviceStatusChanged, values := [.u8 0x22, .u8 0] },
      .openSession]

/-- The connection is off, and still the device is heard in the session. -/
theorem Run.connection_off_in_session :
    Fresh ({ transport := {} } : Scheduler SimulatedTransport) ∧
      Run { transport := {} } startInSession.1 startInSession.2 ∧
      startInSession.2.connection = .off ∧ startInSession.2.session = some 1 ∧
      ¬ (startInSession.2.connection = .off ↔ startInSession.2.session = none) ∧
      .event (.command
          { id := Command.deviceStatusChanged, values := [.u8 0x22, .u8 0] }) ∈
        (startInSession.2.handleEvent ⟨1, .readable⟩ 1).completions := by
  have off : startInSession.2.connection = .off := by rfl
  have joined : startInSession.2.session = some 1 := by rfl
  refine ⟨.mk _ _ _ _ _, run_performAll _ _, off, joined, fun agrees => ?_, by decide +kernel⟩
  cases joined.symm.trans (agrees.mp off)

end SerialLink.Scheduler
