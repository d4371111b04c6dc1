import Mathlib.Data.List.Chain
import SerialLink.Proofs.Scheduler.Teardown
import SerialLink.Transport.Simulated

/-!
What is known of the device, and what users are told of it. The status changes in two ways only: a
session that is asked for forgets it, and a status of the device takes its place if it is another
one, of which users are told (`Step.device_eq`). So since a session was last asked for the status is
the last one that users were told of, and they were told of no status twice in a row
(`Steps.statuses_chain`). It is also what the commands of the device say, put together in the order
in which they came (`Run.hearing_history`): users are told of every command that is decoded, right
after its status has been taken over (`Listens`).
-/

namespace SerialLink

/-! ### Updates -/

/-- The state byte is that of the last update, and the extension byte that of the last update that
has one. -/
theorem DeviceStatus.foldl_apply (status : DeviceStatus) (updates : List StatusUpdate) :
    updates.foldl DeviceStatus.apply status =
      { state := (updates.map StatusUpdate.state).getLast?.getD status.state
        ext := (updates.filterMap StatusUpdate.ext).getLast?.getD status.ext } := by
  induction updates using List.reverseRecOn with
  | nil => rfl
  | append_singleton updates update ih =>
    rw [List.foldl_append, ih, List.map_append, List.filterMap_append]
    cases ext : update.ext with
    | none => simp [DeviceStatus.apply, ext]
    | some byte => simp [DeviceStatus.apply, ext]

namespace Scheduler

namespace Deed

/-- The status of the device that users are told of. -/
def status? : Deed → Option DeviceStatus
  | .told (.deviceStatusChanged status) => some status
  | _ => none

/-- What is known of the device after the deed. -/
def deviceAfter (device : DeviceStatus) (deed : Deed) : DeviceStatus :=
  if deed.opens then {} else deed.status?.getD device

/-- What the command that users are told of makes known of the device, if there is one. -/
def replay (table : CommandTable) (device : DeviceStatus) (deed : Deed) : DeviceStatus :=
  if deed.opens then {}
  else (deed.command?.toList.filterMap table.statusUpdate?).foldl DeviceStatus.apply device

/-- The device is not heard. -/
def IsUnheard (deed : Deed) : Prop := deed.status? = none ∧ deed.command? = none

theorem isUnheard_of_isPlain {deed : Deed} (plain : deed.isPlain = true) : deed.IsUnheard := by
  cases deed with
  | told event => cases event <;> first | exact ⟨rfl, rfl⟩ | cases plain
  | _ => exact ⟨rfl, rfl⟩

theorem IsUnheard.replay_eq {deed : Deed} (unheard : deed.IsUnheard) (table : CommandTable)
    (device : DeviceStatus) : deed.replay table device = deed.deviceAfter device := by
  unfold replay deviceAfter
  rw [unheard.1, unheard.2]
  rfl

end Deed

/-! ### Since a session was last asked for -/

/-- The deeds since a session was last asked for, oldest first. -/
def span (deeds : List Deed) : List Deed := (since Deed.opens deeds).reverse

theorem filterMap_span_snoc {α : Type} (noted : Deed → Option α) (deeds : List Deed)
    (deed : Deed) :
    (span (deeds ++ [deed])).filterMap noted =
      if deed.opens then [] else (span deeds).filterMap noted ++ (noted deed).toList := by
  unfold span
  rw [since_snoc]
  split
  · rfl
  · rw [List.reverse_cons, List.filterMap_append, List.filterMap_cons]
    cases noted deed <;> rfl

/-- The statuses that users were told of since a session was last asked for, oldest first. -/
def statuses (deeds : List Deed) : List DeviceStatus := (span deeds).filterMap Deed.status?

/-- The commands of the device that users were told of since then, oldest first. -/
def commandsHeard (deeds : List Deed) : List Command := (span deeds).filterMap Deed.command?

/-- What the commands make known since a session was last asked for is what their updates come
to. -/
theorem foldl_replay (table : CommandTable) (deeds : List Deed) :
    deeds.foldl (Deed.replay table) {} =
      ((commandsHeard deeds).filterMap table.statusUpdate?).foldl DeviceStatus.apply {} := by
  induction deeds using List.reverseRecOn with
  | nil => rfl
  | append_singleton deeds deed ih =>
    unfold commandsHeard at ih ⊢
    rw [List.foldl_append, ih, filterMap_span_snoc, List.foldl_cons, List.foldl_nil, Deed.replay]
    split
    · rfl
    · rw [List.filterMap_append, List.foldl_append]

/-! ### What users are told -/

section Told

variable {τ : Type} [Transport τ] {s s' start : Scheduler τ} {deed : Deed} {deeds : List Deed}

/-- A status that users are told of is another one than before, and takes its place. -/
theorem Step.device_eq (step : Step s deed s') :
    s'.device = deed.deviceAfter s.device ∧
      ∀ status, deed.status? = some status → status ≠ s.device := by
  cases step with
  | quiet aside => cases aside <;> exact ⟨rfl, nofun⟩
  | statusChange carried new =>
    refine ⟨rfl, fun status told => ?_⟩
    cases told
    exact new
  | _ => exact ⟨rfl, nofun⟩

theorem Steps.device_eq (steps : Steps s deeds s') :
    s'.device = deeds.foldl Deed.deviceAfter s.device := by
  induction steps with
  | nil s => rfl
  | cons step rest ih => rw [ih, step.device_eq.1, List.foldl_cons]

/-- Users are told of no status twice in a row, and first of another one than the default. The
status is the last one that they were told of. -/
theorem Steps.statuses_chain (steps : Steps start deeds s) (unknown : start.device = {}) :
    List.IsChain (· ≠ ·) (({} : DeviceStatus) :: statuses deeds) ∧
      s.device = (statuses deeds).getLast?.getD {} := by
  refine steps.along (fun deeds s =>
    List.IsChain (· ≠ ·) (({} : DeviceStatus) :: statuses deeds) ∧
      s.device = (statuses deeds).getLast?.getD {}) ⟨.singleton _, unknown⟩ ?_
  rintro deeds s s' deed _ ⟨chain, last⟩ step
  obtain ⟨device, new⟩ := step.device_eq
  unfold statuses at chain last ⊢
  rw [filterMap_span_snoc, device, Deed.deviceAfter]
  split
  · exact ⟨.singleton _, rfl⟩
  cases told : deed.status? with
  | none =>
    rw [Option.toList_none, List.append_nil]
    exact ⟨chain, last⟩
  | some status =>
    rw [Option.toList_some, List.getLast?_concat]
    refine ⟨?_, rfl⟩
    rw [← List.cons_append, List.isChain_append]
    refine ⟨chain, .singleton _, ?_⟩
    rw [List.getLast?_cons, ← last]
    rintro _ ⟨⟩ _ ⟨⟩
    exact (new status told).symm

end Told

/-! ### What the device sends -/

section Heard

variable {τ : Type} [Transport τ]

/-- The commands that are decoded in a call, oldest first. -/
def arrivals (s : Scheduler τ) : Act τ → List Command
  | .processInbound _ => s.inbox
  | .handleEvent ⟨session, .readable⟩ _ => if s.session = some session then s.inbox else []
  | _ => []

/-- The commands that are decoded in calls one after the other, oldest first. -/
def allArrivals (s : Scheduler τ) : List (Act τ) → List Command
  | [] => []
  | act :: acts => s.arrivals act ++ allArrivals (s.perform act).2 acts

theorem allArrivals_snoc (s : Scheduler τ) (acts : List (Act τ)) (act : Act τ) :
    s.allArrivals (acts ++ [act]) = s.allArrivals acts ++ (s.performAll acts).2.arrivals act := by
  induction acts generalizing s with
  | nil => exact List.append_nil _
  | cons first acts ih =>
    rw [List.cons_append, allArrivals, ih, allArrivals, List.append_assoc]
    rfl

omit [Transport τ] in
theorem Orderly.isUnheard {session : Option Nat} {deeds : List Deed}
    (orderly : Orderly session deeds) : ∀ deed ∈ deeds, deed.IsUnheard := by
  induction orderly with
  | nil => exact fun _ mem => absurd mem List.not_mem_nil
  | plain plain _ ih => exact List.forall_mem_cons.mpr ⟨Deed.isUnheard_of_isPlain plain, ih⟩
  | ended _ _ _ _ _ ih =>
    exact List.forall_mem_cons.mpr ⟨⟨rfl, rfl⟩, List.forall_mem_cons.mpr ⟨⟨rfl, rfl⟩, ih⟩⟩
  | opened _ _ ih => exact List.forall_mem_cons.mpr ⟨⟨rfl, rfl⟩, ih⟩

omit [Transport τ] in
theorem Course.isUnheard {s : Scheduler τ} {act : Act τ} {deeds : List Deed}
    (course : s.Course act deeds) (apart : ∀ now, act ≠ .processInbound now)
    (deaf : ∀ session now, act = .handleEvent ⟨session, .readable⟩ now → s.session ≠ some session) :
    ∀ deed ∈ deeds, deed.IsUnheard := by
  cases course with
  | opens =>
    exact List.forall_mem_cons.mpr ⟨⟨rfl, rfl⟩, List.forall_mem_singleton.mpr ⟨rfl, rfl⟩⟩
  | connects => exact List.forall_mem_singleton.mpr ⟨rfl, rfl⟩
  | hears joined => exact absurd joined (deaf _ _ rfl)
  | reads => exact absurd rfl (apart _)
  | orderly orderly => exact orderly.isUnheard

omit [Transport τ] in
/-- While the device is heard, what its commands make known is what their updates come to. -/
theorem foldl_replay_of_heard {now : Nat} {deeds : List Deed}
    (heard : ∀ deed ∈ deeds, deed.ofHearing now) (table : CommandTable) (device : DeviceStatus) :
    deeds.foldl (Deed.replay table) device =
      ((deeds.filterMap Deed.command?).filterMap table.statusUpdate?).foldl DeviceStatus.apply
        device := by
  induction deeds generalizing device with
  | nil => rfl
  | cons deed deeds ih =>
    obtain ⟨first, rest⟩ := List.forall_mem_cons.mp heard
    have stays : deed.opens = false := by
      cases deed with
      | opened => cases first
      | _ => rfl
    have split : (deed :: deeds).filterMap Deed.command? =
        deed.command?.toList ++ deeds.filterMap Deed.command? := by
      rw [List.filterMap_cons]
      cases deed.command? <;> rfl
    rw [List.foldl_cons, ih rest, Deed.replay, stays, split, List.filterMap_append,
      List.foldl_append]
    rfl

omit [Transport τ] in
theorem foldl_replay_of_unheard {deeds : List Deed} (unheard : ∀ deed ∈ deeds, deed.IsUnheard)
    (table : CommandTable) (device : DeviceStatus) :
    deeds.foldl (Deed.replay table) device = deeds.foldl Deed.deviceAfter device := by
  induction deeds generalizing device with
  | nil => rfl
  | cons deed deeds ih =>
    obtain ⟨first, rest⟩ := List.forall_mem_cons.mp unheard
    rw [List.foldl_cons, List.foldl_cons, first.replay_eq, ih rest]

/-- The deeds of a call tell of the commands that are decoded in it, and these make known what is
known of the device after it. -/
theorem perform_hears (s : Scheduler τ) (act : Act τ) :
    ∃ deeds : List Deed, Steps s deeds (s.perform act).2 ∧
      Accounts [(act, (s.perform act).1)] deeds ∧
      deeds.filterMap Deed.command? = s.arrivals act ∧
      (s.perform act).2.device = deeds.foldl (Deed.replay s.table) s.device := by
  -- The bytes at hand are read, in whichever call.
  have reads {act : Act τ} {now : Nat} (timed : act.time? = some now)
      (silent : Accounts [(act, Outcome.nothing)] []) :
      ∃ deeds : List Deed, Steps s deeds (s.processInbound now) ∧
        Accounts [(act, Outcome.nothing)] deeds ∧ deeds.filterMap Deed.command? = s.inbox ∧
        (s.processInbound now).device = deeds.foldl (Deed.replay s.table) s.device := by
    obtain ⟨deeds, steps, accounts, heard, told, device⟩ :=
      (s.processInbound_listens now).accounted timed silent
    refine ⟨deeds, steps, accounts, told, device.trans ?_⟩
    rw [foldl_replay_of_heard heard, told]
  by_cases inbound : (∃ now, act = .processInbound now) ∨
      ∃ session now, act = .handleEvent ⟨session, .readable⟩ now ∧ s.session = some session
  · rcases inbound with ⟨now, rfl⟩ | ⟨session, now, rfl, joined⟩
    · exact reads rfl (.nothing rfl rfl rfl rfl)
    · have performed : s.perform (.handleEvent ⟨session, .readable⟩ now) =
          (.nothing, s.processInbound now) :=
        congrArg (Prod.mk _) (if_neg (not_not_intro joined))
      have arrived : s.arrivals (.handleEvent ⟨session, .readable⟩ now) = s.inbox := if_pos joined
      rw [performed, arrived]
      exact reads rfl (.nothing rfl rfl rfl rfl)
  · obtain ⟨apart, deaf⟩ := not_or.mp inbound
    obtain ⟨deeds, steps, accounts, course⟩ := s.perform_course act
    have unheard := course.isUnheard (fun now eq => apart ⟨now, eq⟩)
      fun session now eq joined => deaf ⟨session, now, eq, joined⟩
    have none : s.arrivals act = [] := by
      unfold arrivals
      split
      · exact absurd ⟨_, rfl⟩ apart
      · rename_i session now
        exact if_neg fun joined => deaf ⟨session, now, rfl, joined⟩
      · rfl
    refine ⟨deeds, steps, accounts, ?_, ?_⟩
    · rw [none]
      exact List.filterMap_eq_nil_iff.mpr fun deed mem => (unheard deed mem).2
    · rw [steps.device_eq, foldl_replay_of_unheard unheard]

/-- A run has a history that accounts for its trace, tells of the commands that are decoded in it,
and in which these make known what is known of the device. -/
theorem Run.hearing_history {start s : Scheduler τ} {trace : Trace τ} (run : Run start trace s) :
    ∃ deeds : List Deed, Steps start deeds s ∧ Accounts trace deeds ∧
      deeds.filterMap Deed.command? = start.allArrivals (trace.map Prod.fst) ∧
      s.device = deeds.foldl (Deed.replay start.table) start.device := by
  induction run with
  | nil => exact ⟨[], .nil start, .nothing rfl rfl rfl rfl, rfl, rfl⟩
  | @snoc trace s run act ih =>
    obtain ⟨deeds, steps, accounts, told, device⟩ := ih
    obtain ⟨later, steps', accounts', told', device'⟩ := s.perform_hears act
    obtain ⟨-, table⟩ := steps.made_eq
    refine ⟨deeds ++ later, steps.append steps', accounts.append accounts', ?_, ?_⟩
    · rw [List.map_append, List.filterMap_append, told, told']
      refine Eq.trans ?_ (allArrivals_snoc start (trace.map Prod.fst) act).symm
      rw [run.eq_performAll]
    · rw [device', device, table, List.foldl_append]

/-- **Status events track the status.** Take any moment of a run of which a history tells, and the
statuses that users were told of since a session was last asked for. No status follows itself, and
the first is not the default. The status of the device is the last of them, or else the default. A
run has a history that accounts for its trace and for all that users were told, and tells of every
command of the device in the order in which they were decoded. The status after the run is what the
updates of the commands since a session was last asked for come to, one after the other: its state
byte is that of the last one, and its extension byte that of the last one that has one. -/
theorem Run.device_tracked {start s : Scheduler τ} {trace : Trace τ} (fresh : start.Fresh)
    (run : Run start trace s) :
    (∀ ⦃deeds later : List Deed⦄ ⦃s' : Scheduler τ⦄, Steps start deeds s' → Steps s' later s →
      List.IsChain (· ≠ ·) (({} : DeviceStatus) :: statuses deeds) ∧
        s'.device = (statuses deeds).getLast?.getD {}) ∧
    s.openSession.2.device = {} ∧
    ∃ deeds : List Deed, Steps start deeds s ∧ Accounts trace deeds ∧
      trace.told s = deeds.flatMap Deed.completions ∧
      deeds.filterMap Deed.command? = start.allArrivals (trace.map Prod.fst) ∧
      ∃ updates : List StatusUpdate,
        updates = (commandsHeard deeds).filterMap start.table.statusUpdate? ∧
        s.device = updates.foldl DeviceStatus.apply {} ∧
        s.device.state = (updates.map StatusUpdate.state).getLast?.getD 0 ∧
        s.device.ext = (updates.filterMap StatusUpdate.ext).getLast?.getD 0 := by
  have unknown : start.device = {} := by
    cases fresh with
    | mk => rfl
  refine ⟨fun deeds later s' steps _ => steps.statuses_chain unknown, ?_, ?_⟩
  · obtain ⟨items, ids, started, steps⟩ := s.openSession_steps
    exact steps.device_eq
  · obtain ⟨deeds, steps, accounts, told, device⟩ := run.hearing_history
    rw [unknown, foldl_replay] at device
    refine ⟨deeds, steps, accounts, accounts.told_eq fresh steps, told, _, rfl, device, ?_, ?_⟩ <;>
      rw [device, DeviceStatus.foldl_apply]

end Heard

/-- The transport has received bytes of the device. -/
def receives (bytes : Bytes) : Act SimulatedTransport :=
  .changeTransport fun t => { t with inbound := bytes }

/-- A session is asked for again after the device has reported its status, and the device reports
another one. Then it confirms a fetch with a state byte only, sends a frame without a command, and
reports the status that is known by then. -/
def statusOverSessions : Trace SimulatedTransport × Scheduler SimulatedTransport :=
  performAll { transport := { autoConnect := true } }
    [.openSession, .handleEvent ⟨1, .connected⟩ 0,
      receives (Frame.encode [0x0E, 1, 0, 7, 0, 0x26, 5]), .processInbound 1,
      .openSession, .handleEvent ⟨2, .connected⟩ 2,
      receives (Frame.encode [0x0E, 2, 0, 7, 0, 0x26, 7]), .handleEvent ⟨2, .readable⟩ 3,
      .tick 3, .tick 4,
      receives (Frame.encode [0x04, 2, 0, 13, 0, 0x22, 0, 0, 0, 0, 0, 0, 0] ++
        Frame.encode [0xEE] ++ Frame.encode [0x0E, 3, 0, 7, 0, 0x22, 7]), .processInbound 5]

theorem Run.device_tracked_of_statusOverSessions :
    ∃ deeds : List Deed,
      Fresh ({ transport := { autoConnect := true } } : Scheduler SimulatedTransport) ∧
      Run { transport := { autoConnect := true } } statusOverSessions.1 statusOverSessions.2 ∧
      Steps { transport := { autoConnect := true } } deeds statusOverSessions.2 ∧
      (deeds.filterMap Deed.command?).map (fun command => (command.id, command.seq)) =
        [(0x0E, 1), (0x0E, 2), (0x04, 2), (0x0E, 3)] ∧
      (deeds.flatMap Deed.completions).filterMap (fun
          | .event (.deviceStatusChanged status) => some (status.state, status.ext)
          | _ => none) = [(0x26, 5), (0x26, 7), (0x22, 7)] ∧
      List.IsChain (· ≠ ·) (({} : DeviceStatus) :: statuses deeds) ∧
      (statuses deeds).getLast?.getD {} = ⟨0x22, 7⟩ ∧
      ((commandsHeard deeds).filterMap CommandTable.builtin.statusUpdate?).foldl
        DeviceStatus.apply {} = ⟨0x22, 7⟩ := by
  have fresh : Fresh ({ transport := { autoConnect := true } } : Scheduler SimulatedTransport) :=
    .mk _ _ _ _ _
  have run : Run { transport := { autoConnect := true } } statusOverSessions.1
      statusOverSessions.2 := run_performAll _ _
  have status : statusOverSessions.2.device = ⟨0x22, 7⟩ := by decide +kernel
  obtain ⟨moments, -, deeds, steps, -, told, commands, updates, rfl, device, -, -⟩ :=
    device_tracked fresh run
  obtain ⟨chain, last⟩ := moments steps (.nil _)
  refine ⟨deeds, fresh, run, steps, ?_, ?_, chain, last.symm.trans status, device.symm.trans status⟩
  · rw [commands]
    decide +kernel
  · rw [← told]
    decide +kernel

end Scheduler

end SerialLink
