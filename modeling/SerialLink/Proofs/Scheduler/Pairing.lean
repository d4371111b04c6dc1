import SerialLink.Proofs.Scheduler.Sessions

/-!
Connects and disconnects. If every session is reported to have become operational once at most, the
session changes between two times that users are told of one (`toldConnects_sublist`). It changes
because it ends, which users are told, or because another one starts in its place, of which they are
told nothing (`exists_change`). The latter needs a call that asks for a session while one is
accepted, so without such a call every connect is paired with a disconnect (`Run.connects_paired`).
-/

namespace SerialLink.Scheduler

/-! ### Sessions that become operational -/

/-- The sessions that were reported to have become operational, oldest first. -/
def Trace.reportedConnects {τ : Type} (trace : Trace τ) : List Nat :=
  trace.filterMap fun
    | (.handleEvent ⟨session, .connected⟩ _, _) => some session
    | _ => none

/-- The session that users are told to have become operational, if they are, while this one is
accepted or none is. -/
def Deed.toldConnects (session : Option Nat) : Deed → List Nat
  | .connected _ => session.toList
  | _ => []

/-- The sessions that users are told to have become operational, oldest first. -/
def toldConnects : Option Nat → List Deed → List Nat
  | _, [] => []
  | session, deed :: deeds =>
    deed.toldConnects session ++ toldConnects (deed.sessionAfter session) deeds

theorem toldConnects_append (session : Option Nat) (deeds later : List Deed) :
    toldConnects session (deeds ++ later) =
      toldConnects session deeds ++ toldConnects (deeds.foldl Deed.sessionAfter session) later := by
  induction deeds generalizing session with
  | nil => rfl
  | cons deed deeds ih =>
    rw [List.cons_append, toldConnects, toldConnects, ih, List.append_assoc]
    rfl

theorem toldConnects_eq_nil {deeds : List Deed} (apart : ∀ now, .connected now ∉ deeds)
    (session : Option Nat) : toldConnects session deeds = [] := by
  induction deeds generalizing session with
  | nil => rfl
  | cons deed deeds ih =>
    have none : deed.toldConnects session = [] := by
      cases deed with
      | connected now => exact absurd List.mem_cons_self (apart now)
      | _ => rfl
    rw [toldConnects, none, ih fun now mem => apart now (List.mem_cons_of_mem _ mem)]
    rfl

/-- If users are told of no session twice, they are told of two different ones each time. -/
theorem ne_of_nodup_toldConnects {before between after : List Deed} {first second a b : Nat}
    {session : Option Nat}
    (distinct : (toldConnects session
      (before ++ .connected first :: (between ++ .connected second :: after))).Nodup)
    (begun : before.foldl Deed.sessionAfter session = some a)
    (ended : between.foldl Deed.sessionAfter (some a) = some b) : a ≠ b := by
  rw [toldConnects_append, begun, List.nodup_append] at distinct
  obtain ⟨-, distinct, -⟩ := distinct
  change (a :: toldConnects (some a) (between ++ .connected second :: after)).Nodup at distinct
  rw [toldConnects_append, ended, List.nodup_cons] at distinct
  rintro rfl
  exact distinct.1 (List.mem_append_right _ List.mem_cons_self)

variable {τ : Type}

/-- Users are told of sessions that were reported only. -/
theorem Course.toldConnects_sublist {s : Scheduler τ} {act : Act τ} {deeds : List Deed}
    (course : s.Course act deeds) (outcome : Outcome) :
    (toldConnects s.session deeds).Sublist (Trace.reportedConnects [(act, outcome)]) := by
  have silent (apart : ∀ now, .connected now ∉ deeds) :
      (toldConnects s.session deeds).Sublist (Trace.reportedConnects [(act, outcome)]) := by
    rw [toldConnects_eq_nil apart]
    exact List.nil_sublist _
  cases course with
  | opens items ids started => exact silent fun now mem => by simp at mem
  | connects joined =>
    rw [joined]
    exact List.Sublist.refl _
  | hears _ heard | reads heard => exact silent fun now mem => heard _ mem
  | orderly orderly =>
    refine silent fun now mem => ?_
    obtain ⟨before, after, rfl⟩ := List.append_of_mem mem
    rcases orderly.at_cut with plain | ⟨_, _, _, _, told, -⟩ | ⟨⟨_, opened⟩, -⟩
    · cases plain
    · cases told
    · cases opened

/-! ### Changes of the session -/

/-- What changes the session is that it ends or that another one starts in its place. -/
theorem Deed.of_sessionAfter {deed : Deed} {session : Nat}
    (changes : deed.sessionAfter (some session) ≠ some session) :
    (∃ reason, deed = .told (.disconnected reason)) ∨ ∃ other, deed = .opened (some other) := by
  cases deed with
  | told event =>
    cases event with
    | disconnected reason => exact .inl ⟨reason, rfl⟩
    | _ => exact absurd rfl changes
  | opened started =>
    cases started with
    | none => exact absurd rfl changes
    | some other => exact .inr ⟨other, rfl⟩
  | _ => exact absurd rfl changes

/-- If the session is another one at the end, some deed is the first to change it. -/
theorem exists_change {deeds : List Deed} {session : Nat}
    (changed : deeds.foldl Deed.sessionAfter (some session) ≠ some session) :
    ∃ first deed rest, deeds = first ++ deed :: rest ∧
      first.foldl Deed.sessionAfter (some session) = some session ∧
      deed.sessionAfter (some session) ≠ some session := by
  induction deeds with
  | nil => exact absurd rfl changed
  | cons deed deeds ih =>
    by_cases kept : deed.sessionAfter (some session) = some session
    · rw [List.foldl_cons, kept] at changed
      obtain ⟨first, other, rest, rfl, same, changes⟩ := ih changed
      refine ⟨deed :: first, other, rest, rfl, ?_, changes⟩
      rw [List.foldl_cons, kept, same]
    · exact ⟨[], deed, deeds, rfl, rfl, kept⟩

/-! ### Runs -/

variable [Transport τ]

theorem Step.joined_of_connected {s s' : Scheduler τ} {now : Nat}
    (step : Step s (.connected now) s') : ∃ session, s.session = some session := by
  cases step with
  | connect now joined => exact ⟨_, joined⟩

/-- At some time of the run a session was asked for while one was accepted. -/
def Replaces (start : Scheduler τ) (trace : Trace τ) : Prop :=
  ∃ (earlier later : Trace τ) (outcome : Outcome) (s : Scheduler τ),
    trace = earlier ++ (.openSession, outcome) :: later ∧ Run start earlier s ∧ s.session ≠ none

theorem Replaces.snoc {start : Scheduler τ} {trace : Trace τ} (replaces : start.Replaces trace)
    (entry : Act τ × Outcome) : start.Replaces (trace ++ [entry]) := by
  obtain ⟨earlier, later, outcome, s, rfl, run, joined⟩ := replaces
  refine ⟨earlier, later ++ [entry], outcome, s, ?_, run, joined⟩
  rw [List.append_assoc, List.cons_append]

/-- Another session starts in the place of one only if it is asked for then. -/
theorem Course.replaces {start s : Scheduler τ} {trace : Trace τ} {act : Act τ}
    {before after : List Deed} {started : Option Nat} (run : Run start trace s)
    (course : s.Course act (before ++ .opened started :: after)) (outcome : Outcome)
    (joined : before.foldl Deed.sessionAfter s.session ≠ none) :
    start.Replaces (trace ++ [(act, outcome)]) := by
  have mem : .opened started ∈ before ++ .opened started :: after :=
    List.mem_append_right _ List.mem_cons_self
  generalize whole : before ++ .opened started :: after = deeds at course mem
  cases course with
  | opens items ids other =>
    refine ⟨trace, [], outcome, s, rfl, run, ?_⟩
    -- The failure of all work leaves the session.
    rcases List.append_eq_cons_iff.mp whole with ⟨rfl, same⟩ | ⟨first, rfl, rest⟩
    · cases same
    rcases List.append_eq_cons_iff.mp rest.symm with ⟨rfl, -⟩ | ⟨first, -, none⟩
    · exact joined
    · simp at none
  | connects => simp at mem
  | hears _ heard | reads heard => exact (heard _ mem).elim
  | orderly orderly =>
    rw [← whole] at orderly
    rcases orderly.at_cut with plain | ⟨_, _, _, _, told, -⟩ | ⟨-, alone⟩
    · cases plain
    · cases told
    · exact absurd alone joined

/-- A run has a history in which users are told of sessions that were reported only, and in which
another session starts in the place of one only if it is asked for then. -/
theorem Run.paired_history {start s : Scheduler τ} {trace : Trace τ} (run : Run start trace s) :
    ∃ deeds : List Deed, Steps start deeds s ∧ Accounts trace deeds ∧
      (toldConnects start.session deeds).Sublist trace.reportedConnects ∧
      ∀ before started after, deeds = before ++ .opened started :: after →
        before.foldl Deed.sessionAfter start.session ≠ none → start.Replaces trace := by
  induction run with
  | nil =>
    refine ⟨[], .nil start, .nothing rfl rfl rfl rfl, List.Sublist.refl _, ?_⟩
    exact fun _ _ _ cut => absurd cut (by simp)
  | @snoc trace s run act ih =>
    obtain ⟨deeds, steps, accounts, sublist, opens⟩ := ih
    obtain ⟨later, steps', accounts', course⟩ := s.perform_course act
    refine ⟨deeds ++ later, steps.append steps', accounts.append accounts', ?_, ?_⟩
    · have both : Trace.reportedConnects (trace ++ [(act, (s.perform act).1)]) =
          trace.reportedConnects ++ Trace.reportedConnects [(act, (s.perform act).1)] :=
        List.filterMap_append
      rw [both, toldConnects_append, ← steps.session_eq]
      exact sublist.append (course.toldConnects_sublist _)
    · intro before started after cut joined
      rcases cut_append cut with ⟨rest, rfl⟩ | ⟨between, rfl, rfl⟩
      · exact (opens before started rest rfl joined).snoc _
      · rw [List.foldl_append, ← steps.session_eq] at joined
        exact course.replaces run _ joined

/-- **Connects are paired with disconnects.** Let no session be reported to have become operational
twice. Whenever users are told so a second time, they were told in between that the session has
ended, or another session started in between while one was accepted. The latter never happens in
runs in which no session is asked for while one is accepted. -/
theorem Run.connects_paired {start s : Scheduler τ} {trace : Trace τ} (fresh : start.Fresh)
    (run : Run start trace s) (once : trace.reportedConnects.Nodup) :
    ∃ deeds : List Deed, Steps start deeds s ∧ Accounts trace deeds ∧
      trace.told s = deeds.flatMap Deed.completions ∧
      ∀ (before between after : List Deed) (first second : Nat),
        deeds = before ++ .connected first :: (between ++ .connected second :: after) →
          (∃ reason, .told (.disconnected reason) ∈ between) ∨
            start.Replaces trace ∧
              ∃ earlier later session, between = earlier ++ .opened (some session) :: later ∧
                ∀ s₁ : Scheduler τ, Steps start (before ++ .connected first :: earlier) s₁ →
                  s₁.session ≠ none := by
  obtain ⟨deeds, steps, accounts, sublist, opens⟩ := run.paired_history
  refine ⟨deeds, steps, accounts, accounts.told_eq fresh steps, ?_⟩
  rintro before between after first second rfl
  obtain ⟨s₁, steps₁, rest⟩ := steps.of_append
  obtain ⟨s₂, step₁, rest⟩ := rest.of_cons
  obtain ⟨s₃, steps₂, rest⟩ := rest.of_append
  obtain ⟨s₄, step₂, -⟩ := rest.of_cons
  obtain ⟨a, joined₁⟩ := step₁.joined_of_connected
  obtain ⟨b, joined₂⟩ := step₂.joined_of_connected
  have begun : before.foldl Deed.sessionAfter start.session = some a :=
    steps₁.session_eq.symm.trans joined₁
  have ended : between.foldl Deed.sessionAfter (some a) = some b := by
    rw [← joined₂, steps₂.session_eq, step₁.session_eq, joined₁]
    rfl
  -- Users are told of two sessions, so the session changes in between.
  have other : a ≠ b := ne_of_nodup_toldConnects (once.sublist sublist) begun ended
  obtain ⟨earlier, deed, later, rfl, kept, changes⟩ :=
    exists_change (ended.trans_ne fun same => other (Option.some.inj same).symm)
  rcases Deed.of_sessionAfter changes with ⟨reason, rfl⟩ | ⟨session, rfl⟩
  · exact .inl ⟨reason, List.mem_append_right _ List.mem_cons_self⟩
  · have still : (before ++ .connected first :: earlier).foldl Deed.sessionAfter start.session =
        some a := by
      rw [List.foldl_append, begun]
      exact kept
    refine .inr ⟨opens (before ++ .connected first :: earlier) (some session)
      (later ++ .connected second :: after) (by simp) ?_, earlier, later, session, rfl, ?_⟩
    · rw [still]
      exact nofun
    · intro s' steps'
      rw [steps'.session_eq, still]
      exact nofun

/-- One session is closed before another is asked for. -/
def twoSessions : Trace SimulatedTransport × Scheduler SimulatedTransport :=
  performAll { transport := {} }
    [.openSession, .handleEvent ⟨1, .connected⟩ 0, .closeSession, .openSession,
      .handleEvent ⟨2, .connected⟩ 5]

theorem Run.connects_paired_of_twoSessions :
    Fresh ({ transport := {} } : Scheduler SimulatedTransport) ∧
      Run { transport := {} } twoSessions.1 twoSessions.2 ∧
      twoSessions.1.reportedConnects.Nodup ∧
      twoSessions.1.told twoSessions.2 =
        [.event .connected, .event (.disconnected .normal), .event .connected] ∧
      ∃ deeds : List Deed, twoSessions.1.told twoSessions.2 = deeds.flatMap Deed.completions ∧
        ∀ (before between after : List Deed) (first second : Nat),
          deeds = before ++ .connected first :: (between ++ .connected second :: after) →
            ∃ reason, .told (.disconnected reason) ∈ between := by
  have fresh : Fresh ({ transport := {} } : Scheduler SimulatedTransport) := .mk _ _ _ _ _
  have run : Run { transport := {} } twoSessions.1 twoSessions.2 := run_performAll _ _
  have trace : twoSessions.1 = [(.openSession, .started (.ok ())),
      (.handleEvent ⟨1, .connected⟩ 0, .nothing), (.closeSession, .nothing),
      (.openSession, .started (.ok ())), (.handleEvent ⟨2, .connected⟩ 5, .nothing)] := by rfl
  have once : twoSessions.1.reportedConnects.Nodup := by
    have both : twoSessions.1.reportedConnects = [1, 2] := by rfl
    rw [both]
    decide
  -- Neither of the two sessions was asked for while another was accepted.
  have apart : ¬ Replaces { transport := {} } twoSessions.1 := by
    rintro ⟨earlier, later, outcome, s, cut, run, joined⟩
    rw [trace] at cut
    rcases List.cons_eq_append_iff.mp cut with ⟨rfl, -⟩ | ⟨earlier₁, rfl, cut₁⟩
    · cases run.eq_performAll
      exact joined rfl
    rcases List.cons_eq_append_iff.mp cut₁ with ⟨-, same⟩ | ⟨earlier₂, rfl, cut₂⟩
    · cases same
    rcases List.cons_eq_append_iff.mp cut₂ with ⟨-, same⟩ | ⟨earlier₃, rfl, cut₃⟩
    · cases same
    rcases List.cons_eq_append_iff.mp cut₃ with ⟨rfl, -⟩ | ⟨earlier₄, rfl, cut₄⟩
    · have closed := congrArg (fun result => result.2.session) run.eq_performAll
      exact joined closed.symm
    rcases List.cons_eq_append_iff.mp cut₄ with ⟨-, same⟩ | ⟨_, -, none⟩
    · cases same
    · simp at none
  obtain ⟨deeds, -, -, told, paired⟩ := connects_paired fresh run once
  refine ⟨fresh, run, once, by decide +kernel, deeds, told, ?_⟩
  intro before between after first second cut
  exact (paired before between after first second cut).resolve_right fun both => apart both.1

/-- The connection breaks at the first frame, and another session is asked for before the report of
that is heard. -/
def reportOutrun : Trace SimulatedTransport × Scheduler SimulatedTransport :=
  performAll { transport := { autoConnect := true, mode := .drop } }
    [.openSession, .handleEvent ⟨1, .connected⟩ 0,
      .enqueue { id := Command.version, values := [.u32 0] } (some ⟨1⟩), .tick 5, .openSession,
      .handleEvent ⟨1, .disconnected .ioError⟩ 6, .handleEvent ⟨2, .connected⟩ 6]

/-- Users are told of two sessions, and of the end of none. -/
theorem Run.told_of_reportOutrun :
    Fresh ({ transport := { autoConnect := true, mode := .drop } } :
        Scheduler SimulatedTransport) ∧
      Run { transport := { autoConnect := true, mode := .drop } } reportOutrun.1 reportOutrun.2 ∧
      reportOutrun.1.reportedConnects = [1, 2] ∧
      reportOutrun.1.told reportOutrun.2 =
        [.event .connected, .command ⟨1⟩ .disconnected none, .event .connected] :=
  ⟨.mk _ _ _ _ _, run_performAll _ _, by rfl, by decide +kernel⟩

end SerialLink.Scheduler
