import SerialLink.Proofs.Scheduler.Callbacks
import SerialLink.Proofs.Scheduler.InFlight
import SerialLink.Proofs.Scheduler.Requests
import SerialLink.Proofs.Scheduler.Sessions

/-!
The life of a session. When users are told that it has ended, no work is outstanding, and everyone
who waited for some has been told before (`Steps.allTold`). From then on until another session
starts there is no connection and no work (`Steps.ended`), so nothing is told and no frame is handed
over (`Ended.silent`), and nothing is accepted (`Ended.refuses`). Two things are needed of the
history: a session is told to have ended right after all work has failed, and the device is heard in
a session only (`Regular`). Every run has both as long as received bytes are only asked for on
reports of the session. `Run.session_lifecycle` puts this together.
-/

namespace SerialLink.Scheduler

/-! ### Regular histories -/

namespace Deed

/-- The device is heard. -/
def hears : Deed → Bool
  | .told (.command _) | .told (.deviceStatusChanged _) => true
  | _ => false

/-- What a deed needs of those before it, from when this session was accepted or none was. -/
def Follows (session : Option Nat) (before : List Deed) : Deed → Prop
  | .told (.disconnected _) =>
    ∃ earlier items ids, before = earlier ++ [.killed items ids .disconnected]
  | deed => deed.hears = true → before.foldl Deed.sessionAfter session ≠ none

theorem follows_of_isPlain {deed : Deed} (plain : deed.isPlain = true) (session : Option Nat)
    (before : List Deed) : deed.Follows session before := by
  cases deed with
  | told event =>
    cases event with
    | disconnected | command | deviceStatusChanged => cases plain
    | _ => exact nofun
  | _ => exact nofun

theorem Follows.behind {session : Option Nat} {first before : List Deed} {deed : Deed}
    (follows : deed.Follows (first.foldl Deed.sessionAfter session) before) :
    deed.Follows session (first ++ before) := by
  cases deed with
  | told event =>
    cases event with
    | disconnected reason =>
      obtain ⟨earlier, items, ids, rfl⟩ := follows
      exact ⟨first ++ earlier, items, ids, (List.append_assoc _ _ _).symm⟩
    | _ =>
      intro heard
      rw [List.foldl_append]
      exact follows heard
  | _ => exact nofun

end Deed

/-- Each deed has what it needs before it. -/
def Regular (session : Option Nat) (deeds : List Deed) : Prop :=
  ∀ ⦃before : List Deed⦄ ⦃deed : Deed⦄ ⦃after : List Deed⦄, deeds = before ++ deed :: after →
    deed.Follows session before

theorem regular_nil (session : Option Nat) : Regular session [] :=
  fun _ _ _ cut => absurd cut (by simp)

theorem Regular.start {session : Option Nat} {deeds later : List Deed}
    (regular : Regular session (deeds ++ later)) : Regular session deeds := by
  rintro before deed after rfl
  exact regular (List.append_assoc before (deed :: after) later)

theorem Regular.append {session : Option Nat} {deeds later : List Deed}
    (first : Regular session deeds)
    (second : Regular (deeds.foldl Deed.sessionAfter session) later) :
    Regular session (deeds ++ later) := by
  intro before deed after cut
  rcases cut_append cut with ⟨rest, rfl⟩ | ⟨between, rfl, rfl⟩
  · exact first rfl
  · exact (second rfl).behind

variable {τ : Type}

theorem Course.regular {s : Scheduler τ} {act : Act τ} {deeds : List Deed}
    (course : s.Course act deeds) (apart : ∀ now, act ≠ .processInbound now) :
    Regular s.session deeds := by
  intro before deed after cut
  have mem : deed ∈ deeds := cut ▸ List.mem_append_right _ List.mem_cons_self
  cases course with
  | opens items ids started =>
    rcases List.mem_cons.mp mem with rfl | mem
    · exact nofun
    · rw [List.mem_singleton.mp mem]
      exact nofun
  | connects joined =>
    rw [List.mem_singleton.mp mem]
    exact nofun
  | @hears session now _ joined heard =>
    -- Nothing that is heard changes the session.
    have kept : ∀ (earlier : List Deed), (∀ deed ∈ earlier, deed.ofHearing now) →
        earlier.foldl Deed.sessionAfter (some session) = some session := by
      intro earlier heard
      induction earlier with
      | nil => rfl
      | cons deed earlier ih =>
        obtain ⟨first, others⟩ := List.forall_mem_cons.mp heard
        have same : deed.sessionAfter (some session) = some session := by
          cases deed with
          | told event => cases event <;> first | rfl | cases first
          | opened => cases first
          | _ => rfl
        rw [List.foldl_cons, same, ih others]
    have earlier := kept before fun deed mem => heard deed (cut ▸ List.mem_append_left _ mem)
    have ofHearing := heard deed mem
    rw [joined]
    cases deed with
    | told event =>
      cases event with
      | disconnected reason => cases ofHearing
      | _ =>
        intro _ none
        cases earlier.symm.trans none
    | _ => exact nofun
  | reads => exact absurd rfl (apart _)
  | orderly orderly =>
    rw [cut] at orderly
    rcases orderly.at_cut with plain | ⟨reason, earlier, items, ids, rfl, rfl⟩ | ⟨⟨started, rfl⟩, -⟩
    · exact Deed.follows_of_isPlain plain _ _
    · exact ⟨earlier, items, ids, rfl⟩
    · exact nofun

variable [Transport τ]

/-- A run has a regular history, if received bytes are only asked for on reports of the session. -/
theorem Run.regular {start s : Scheduler τ} {trace : Trace τ} (run : Run start trace s)
    (apart : ∀ entry ∈ trace, ∀ now, entry.1 ≠ .processInbound now) :
    ∃ deeds : List Deed, Steps start deeds s ∧ Accounts trace deeds ∧
      Regular start.session deeds := by
  induction run with
  | nil => exact ⟨[], .nil start, .nothing rfl rfl rfl rfl, regular_nil _⟩
  | @snoc trace s run act ih =>
    obtain ⟨before, last⟩ := List.forall_mem_append.mp apart
    obtain ⟨deeds, steps, accounts, regular⟩ := ih before
    obtain ⟨later, steps', accounts', course⟩ := s.perform_course act
    have regular' := course.regular (last _ (List.mem_singleton_self _))
    rw [steps.session_eq] at regular'
    exact ⟨deeds ++ later, steps.append steps', accounts.append accounts',
      regular.append regular'⟩

/-! ### Without a session -/

/-- No session is accepted, there is no connection and no work. -/
structure Ended (s : Scheduler τ) : Prop where
  session : s.session = none
  connection : s.connection = .off
  queue : s.queue.items = []
  pending : s.pending.toList = []

omit [Transport τ] in
theorem Fresh.ended {s : Scheduler τ} (fresh : s.Fresh) : s.Ended := by
  cases fresh with
  | mk => exact ⟨rfl, rfl, SendQueue.items_empty, rfl⟩

/-- Once all work has failed, none is left. -/
theorem Step.emptied {s s' : Scheduler τ} {items : List QueueItem} {ids : List RequestId}
    {status : CompletionStatus} (step : Step s (.killed items ids status) s')
    (ordered : s.Ordered) : s'.queue.items = [] ∧ s'.pending.toList = [] := by
  cases step with
  | kill status => exact ⟨SendQueue.items_empty, ordered.ring.drain.2.2⟩

/-- If all work has failed when a session ends, there is no work while there is no session. -/
theorem Step.ended {s s' : Scheduler τ} {deed : Deed} (step : Step s deed s')
    (ordered : s.Ordered) (before : s.session = none → s.Ended)
    (emptied : ∀ reason, deed = .told (.disconnected reason) →
      s.queue.items = [] ∧ s.pending.toList = []) : s'.session = none → s'.Ended := by
  have off := step.off_of_alone fun alone => (before alone).connection
  -- Work is accepted, and seen to, only while there is a connection.
  have absent (connected : s.connection ≠ .off) (alone : s.session = none) {P : Prop} : P :=
    absurd (before alone).connection connected
  have working (operational : s.connection = .operational) : s.connection ≠ .off := by
    rw [operational]
    exact nofun
  intro alone
  cases step with
  | quiet aside =>
    cases aside <;> exact ⟨alone, off alone, (before alone).queue, (before alone).pending⟩
  | submit connected | queueCaller connected => exact absent connected alone
  | queueOwn operational | queueRequest operational | dropRequest operational
  | send _ operational | turnBack operational | discard _ operational | retry operational
  | giveUp operational | tearDown operational => exact absent (working operational) alone
  | skipRequest ready popped =>
    obtain ⟨-, rfl⟩ := ordered.ring.length_of_pop_eq_none popped
    exact ⟨alone, off alone, (before alone).queue, (before alone).pending⟩
  | confirm found held =>
    have none := (before alone).queue
    exact absurd (SendQueue.mem_items.mpr ⟨_, held⟩) (none ▸ List.not_mem_nil)
  | kill status =>
    obtain ⟨queue, pending⟩ := (Step.kill s status).emptied ordered
    exact ⟨alone, off alone, queue, pending⟩
  | disconnect reason =>
    obtain ⟨queue, pending⟩ := emptied reason rfl
    exact ⟨alone, off alone, queue, pending⟩
  | start => cases alone
  | connect now joined | bootloader joined => exact absurd (joined.symm.trans alone) nofun
  | _ => exact ⟨alone, off alone, (before alone).queue, (before alone).pending⟩

/-- Without a session nothing is told and no frame is handed over. -/
theorem Ended.silent {s s' : Scheduler τ} {deed : Deed} (ended : s.Ended) (ordered : s.Ordered)
    (step : Step s deed s') (unheard : deed.hears = false) :
    deed.frame? = none ∧ deed.completions = [] := by
  have absent {session : Nat} (joined : s.session = some session) {P : Prop} : P :=
    absurd (joined.symm.trans ended.session) nofun
  have off := ended.connection
  cases step with
  | refuse _ connected => exact absurd off connected
  | dropRequest operational | send _ operational | turnBack operational
  | discard _ operational | giveUp operational =>
    rw [operational] at off
    cases off
  | confirm found held =>
    have none := ended.queue
    exact absurd (SendQueue.mem_items.mpr ⟨_, held⟩) (none ▸ List.not_mem_nil)
  | kill status =>
    have drained := ordered.ring.drain.1.trans ended.pending
    rw [ended.queue, drained]
    exact ⟨rfl, rfl⟩
  | disconnect _ _ joined | connect _ joined | bootloader joined => exact absent joined
  | statusChange | hear => cases unheard
  | _ => exact ⟨rfl, rfl⟩

/-! ### Histories -/

section Histories

variable {start s : Scheduler τ} {deeds : List Deed}

/-- When a session is told to have ended, no work is left. -/
theorem Regular.emptied (fresh : start.Fresh) {reason : DisconnectReason}
    (steps : Steps start deeds s)
    (follows : (Deed.told (.disconnected reason)).Follows start.session deeds) :
    s.queue.items = [] ∧ s.pending.toList = [] := by
  obtain ⟨earlier, items, ids, rfl⟩ := follows
  obtain ⟨before, steps, last⟩ := steps.of_append
  obtain ⟨after, step, none⟩ := last.of_cons
  cases none
  exact step.emptied (steps.requests_eq fresh.ordered.1).2

/-- Whenever no session is accepted, there is neither connection nor work. -/
theorem Steps.ended (fresh : start.Fresh) (steps : Steps start deeds s)
    (regular : Regular start.session deeds) (alone : s.session = none) : s.Ended := by
  refine steps.along (fun deeds s => Regular start.session deeds → s.session = none → s.Ended)
    (fun _ _ => fresh.ended) (fun {deeds s s' deed} steps ih step regular => ?_) regular alone
  have ordered := (steps.requests_eq fresh.ordered.1).2
  refine step.ended ordered (ih regular.start) fun reason ends => ?_
  subst ends
  exact Regular.emptied fresh steps (regular rfl)

/-- All work that was accepted has ended, and whoever waited for it has been told. -/
structure AllTold (deeds : List Deed) (s : Scheduler τ) : Prop where
  queue : s.queue.items = []
  pending : s.pending.toList = []
  callbacks : (deeds.flatMap Deed.callbacks).Perm
    ((deeds.flatMap Deed.outcomes).filterMap Completion.callback?)
  requests : deeds.flatMap Deed.requests =
    (deeds.flatMap Deed.completions).filterMap Completion.request?

/-- When a session is told to have ended, everyone else has been told. -/
theorem Steps.allTold (fresh : start.Fresh) (steps : Steps start deeds s)
    (emptied : s.queue.items = [] ∧ s.pending.toList = []) : AllTold deeds s := by
  obtain ⟨queue, pending⟩ := emptied
  have callbacks := steps.callbacks_perm fresh.items_eq
  obtain ⟨ordered, empty⟩ := fresh.ordered
  have requests := (steps.requests_eq ordered).1
  unfold outstanding at requests empty
  unfold SendQueue.callbacks at callbacks
  unfold SendQueue.requests at requests empty
  rw [queue] at callbacks requests
  rw [empty, pending] at requests
  exact ⟨queue, pending, callbacks, requests.trans (List.append_nil _)⟩

/-- Without another session none is accepted. -/
theorem sessionAfter_of_unopened {between : List Deed}
    (unopened : ∀ session, .opened (some session) ∉ between) :
    between.foldl Deed.sessionAfter none = none := by
  induction between with
  | nil => rfl
  | cons deed between ih =>
    have same : deed.sessionAfter none = none := by
      cases deed with
      | opened started =>
        cases started with
        | none => rfl
        | some session => exact absurd List.mem_cons_self (unopened session)
      | told event => cases event <;> rfl
      | _ => rfl
    rw [List.foldl_cons, same]
    exact ih fun session mem => unopened session (List.mem_cons_of_mem _ mem)

/-- From when a session has ended until another starts, nothing is told and no frame is handed
over. -/
theorem Steps.silent (fresh : start.Fresh) {before between : List Deed}
    (steps : Steps start (before ++ between) s)
    (regular : Regular start.session (before ++ between))
    (alone : before.foldl Deed.sessionAfter start.session = none)
    (unopened : ∀ session, .opened (some session) ∉ between) :
    s.Ended ∧ ∀ deed ∈ between, deed.frame? = none ∧ deed.completions = [] := by
  have ended {first : List Deed} {s' : Scheduler τ} (steps : Steps start (before ++ first) s')
      (regular : Regular start.session (before ++ first))
      (unopened : ∀ session, .opened (some session) ∉ first) : s'.Ended := by
    refine steps.ended fresh regular ?_
    rw [steps.session_eq, List.foldl_append, alone]
    exact sessionAfter_of_unopened unopened
  refine ⟨ended steps regular unopened, fun deed mem => ?_⟩
  obtain ⟨first, rest, rfl⟩ := List.append_of_mem mem
  rw [← List.append_assoc] at steps regular
  obtain ⟨s₁, steps₁, later⟩ := steps.of_append
  obtain ⟨s₂, step, -⟩ := later.of_cons
  have ended := ended steps₁ regular.start fun session mem =>
    unopened session (List.mem_append_left _ mem)
  refine ended.silent (steps₁.requests_eq fresh.ordered.1).2 step ?_
  -- What is heard is heard in a session.
  have follows := regular rfl
  cases heard : deed.hears with
  | false => rfl
  | true =>
    have joined : (before ++ first).foldl Deed.sessionAfter start.session ≠ none := by
      cases deed with
      | told event => cases event <;> first | exact follows heard | cases heard
      | _ => cases heard
    exact absurd (steps₁.session_eq.symm.trans ended.session) joined

/-- How it is when users are told that a session has ended, with these deeds before and those
after. -/
structure Closes (start : Scheduler τ) (before : List Deed) (reason : DisconnectReason)
    (after : List Deed) : Prop where
  /-- Everyone else has been told. -/
  told : ∀ s : Scheduler τ, Steps start before s → AllTold before s
  /-- Another session starts before users are told so again. -/
  reopened : ∀ (between rest : List Deed) (next : DisconnectReason),
    after = between ++ .told (.disconnected next) :: rest →
      ∃ session, .opened (some session) ∈ between
  /-- Until another session starts, nothing is told, handed over or accepted. -/
  silent : ∀ (between rest : List Deed) (s : Scheduler τ), after = between ++ rest →
    (∀ session, .opened (some session) ∉ between) →
    Steps start (before ++ .told (.disconnected reason) :: between) s →
      (∀ deed ∈ between, deed.frame? = none ∧ deed.completions = []) ∧ s.Ended ∧
      (∀ act : Act τ, s.handed act = []) ∧
      (∀ command callback, s.enqueue command callback = (.error .notConnected, s)) ∧
      ∀ id, s.submitRequest id = (.error .notConnected, s)

theorem Ended.refuses (ended : s.Ended) :
    (∀ act : Act τ, s.handed act = []) ∧
      (∀ command callback, s.enqueue command callback = (.error .notConnected, s)) ∧
      ∀ id, s.submitRequest id = (.error .notConnected, s) := by
  refine ⟨fun act => ?_, fun command callback => ?_, fun id => ?_⟩
  · by_contra handed
    obtain ⟨now, -, operational, -⟩ := s.operational_of_handed act handed
    cases operational.symm.trans ended.connection
  · unfold enqueue
    rw [if_pos ended.connection]
  · unfold submitRequest
    rw [if_pos ended.connection]

theorem Regular.closes (fresh : start.Fresh) {before after : List Deed}
    {reason : DisconnectReason} (steps : Steps start deeds s)
    (regular : Regular start.session deeds)
    (cut : deeds = before ++ .told (.disconnected reason) :: after) :
    Closes start before reason after := by
  have alone : (before ++ [Deed.told (.disconnected reason)]).foldl Deed.sessionAfter
      start.session = none := by
    rw [List.foldl_append]
    rfl
  have silent {between rest : List Deed} {s' : Scheduler τ} (split : after = between ++ rest)
      (unopened : ∀ session, .opened (some session) ∉ between)
      (steps : Steps start (before ++ .told (.disconnected reason) :: between) s') :
      s'.Ended ∧ ∀ deed ∈ between, deed.frame? = none ∧ deed.completions = [] := by
    have whole : deeds = before ++ [.told (.disconnected reason)] ++ between ++ rest := by
      rw [cut, split]
      simp
    rw [List.append_cons] at steps
    exact steps.silent fresh (whole ▸ regular).start alone unopened
  refine ⟨fun s' steps' => ?_, fun between rest next split => ?_,
    fun between rest s' split unopened steps' => ?_⟩
  · exact steps'.allTold fresh (Regular.emptied fresh steps' (regular cut))
  · by_contra unopened
    have unopened := not_exists.mp unopened
    -- Otherwise users would be told while nothing is.
    have unopened' : ∀ session,
        .opened (some session) ∉ between ++ [.told (.disconnected next)] := by
      intro session mem
      rcases List.mem_append.mp mem with mem | mem
      · exact unopened session mem
      · cases List.mem_singleton.mp mem
    have split' : after = between ++ [.told (.disconnected next)] ++ rest := by
      rw [split]
      simp
    have whole : deeds = before ++ .told (.disconnected reason) ::
        (between ++ [.told (.disconnected next)]) ++ rest := by
      rw [cut, split']
      simp
    rw [whole] at steps
    obtain ⟨s', steps', -⟩ := steps.of_append
    have told := ((silent split' unopened' steps').2 (.told (.disconnected next)) (by simp)).2
    cases told
  · obtain ⟨ended, quiet⟩ := silent split unopened steps'
    exact ⟨quiet, ended, ended.refuses⟩

end Histories

/-! ### Runs -/

/-- **The life of a session.** In every run in which received bytes are only asked for on reports of
the session, whenever users are told that a session has ended, everyone else has been told before
and no work is left; another session starts before they are told so again; and until another starts,
nothing at all is told, no frame is handed over and nothing is accepted, whatever reports arrive. -/
theorem Run.session_lifecycle {start s : Scheduler τ} {trace : Trace τ} (fresh : start.Fresh)
    (run : Run start trace s) (apart : ∀ entry ∈ trace, ∀ now, entry.1 ≠ .processInbound now) :
    ∃ deeds : List Deed, Steps start deeds s ∧ Accounts trace deeds ∧
      trace.told s = deeds.flatMap Deed.completions ∧
      ∀ (before after : List Deed) (reason : DisconnectReason),
        deeds = before ++ .told (.disconnected reason) :: after →
          Closes start before reason after := by
  obtain ⟨deeds, steps, accounts, regular⟩ := run.regular apart
  exact ⟨deeds, steps, accounts, accounts.told_eq fresh steps,
    fun before after reason => regular.closes fresh steps⟩

/-- Users are told that a session has ended by one deed only. -/
theorem Deed.of_told_disconnected {deed : Deed} {reason : DisconnectReason}
    (told : .event (.disconnected reason) ∈ deed.completions) :
    deed = .told (.disconnected reason) := by
  have other {origin : Origin} {status : CompletionStatus} {response : Option Command} :
      origin.outcome status response ≠ some (.event (.disconnected reason)) := by
    cases origin with
    | caller callback => cases callback <;> exact nofun
    | _ => exact nofun
  cases deed with
  | ended => exact absurd (Option.mem_toList.mp told) other
  | killed =>
    rcases List.mem_append.mp told with queued | waiting
    · obtain ⟨item, -, outcome⟩ := List.mem_filterMap.mp queued
      exact absurd outcome other
    · obtain ⟨id, -, eq⟩ := List.mem_map.mp waiting
      cases eq
  | dropped | refused | connected => cases List.mem_singleton.mp told
  | told event =>
    cases List.mem_singleton.mp told
    rfl
  | _ => cases told

/-- A scheduler whose sessions are operational from their start. -/
def selfConnecting : Scheduler SimulatedTransport where
  transport := { autoConnect := true }

/-- A session is closed while a command is in flight and a request waits, and late reports of it
arrive. -/
def lateReportsActs : List (Act SimulatedTransport) :=
  [.openSession, .handleEvent ⟨1, .connected⟩ 0,
    .enqueue { id := Command.version, values := [.u32 0] } (some ⟨1⟩), .submitRequest ⟨0⟩, .tick 5,
    .closeSession, .handleEvent ⟨1, .readable⟩ 6, .handleEvent ⟨1, .disconnected .normal⟩ 6,
    .tick 7]

def lateReports : Trace SimulatedTransport × Scheduler SimulatedTransport :=
  performAll selfConnecting lateReportsActs

theorem Run.session_lifecycle_of_lateReports :
    Fresh selfConnecting ∧
      Run selfConnecting lateReports.1 lateReports.2 ∧
      (∀ entry ∈ lateReports.1, ∀ now, entry.1 ≠ .processInbound now) ∧
      lateReports.1.told lateReports.2 =
        [.event .connected, .command ⟨1⟩ .disconnected none, .request ⟨0⟩ .disconnected,
          .event (.disconnected .normal)] ∧
      ∃ deeds before after : List Deed,
        Steps selfConnecting deeds lateReports.2 ∧
        deeds = before ++ .told (.disconnected .normal) :: after ∧
        Closes selfConnecting before .normal after := by
  have fresh : Fresh selfConnecting := .mk _ _ _ _ _
  have run : Run selfConnecting lateReports.1 lateReports.2 := run_performAll _ _
  have acts : lateReports.1.map Prod.fst = lateReportsActs := performAll_acts _ _
  have apart : ∀ entry ∈ lateReports.1, ∀ now, entry.1 ≠ .processInbound now := by
    intro entry mem now reads
    have act := List.mem_map_of_mem (f := Prod.fst) mem
    rw [acts, reads] at act
    simp [lateReportsActs] at act
  have told : lateReports.1.told lateReports.2 =
      [.event .connected, .command ⟨1⟩ .disconnected none, .request ⟨0⟩ .disconnected,
        .event (.disconnected .normal)] := by decide +kernel
  obtain ⟨deeds, steps, -, all, closes⟩ := session_lifecycle fresh run apart
  have last : Completion.event (.disconnected .normal) ∈ deeds.flatMap Deed.completions := by
    rw [← all, told]
    simp
  obtain ⟨deed, mem, ends⟩ := List.mem_flatMap.mp last
  obtain rfl := Deed.of_told_disconnected ends
  obtain ⟨before, after, rfl⟩ := List.append_of_mem mem
  exact ⟨fresh, run, apart, told, _, before, after, steps, rfl, closes before after .normal rfl⟩

end SerialLink.Scheduler
