import SerialLink.Proofs.Scheduler.Inbound

/-!
Every call of a scheduler is a sequence of steps (`perform_steps`), and so is every run
(`Run.steps`). The deeds of these steps account for what the callers see: which callbacks and bulk
requests were accepted, which callbacks were refused and what was handed out (`Accounts`). Each
deed is one that its call may do (`Act.Permits`): frames are handed over and commands given up in
ticks only, at the time of the tick, and nobody but a caller fails work for another reason than
that the session has ended.

Users are told that a session is operational, and what the device sends, on reports of the session
only. In all other calls the deeds are orderly: that a session has ended is told right after all
work has failed, and unless a caller asks for a session, one starts only where there is none
(`Course`).
-/

namespace SerialLink

/-- The callback that waits for the outcome, if there is one. -/
def Origin.callback? : Origin → Option Callback
  | .caller callback => callback
  | _ => none

namespace Scheduler

/-! ### What callers see -/

namespace Deed

/-- Callbacks of the commands that are queued. -/
def callbacks (deed : Deed) : List Callback :=
  deed.entering.filterMap fun item => item.origin.callback?

/-- Callbacks of the commands that cannot be written. -/
def rejected : Deed → List Callback
  | .refused callback => [callback]
  | _ => []

/-- The bulk requests that are accepted. -/
def requests : Deed → List RequestId
  | .submitted id => [id]
  | _ => []

/-- No caller is concerned. -/
def isOwn : Deed → Bool
  | .queued _ item => item.origin.callback? = none
  | .submitted _ | .refused _ | .taken _ => false
  | _ => true

theorem eq_nil_of_isOwn {deed : Deed} (own : deed.isOwn = true) :
    deed.callbacks = [] ∧ deed.rejected = [] ∧ deed.requests = [] ∧ deed.handedOut = [] := by
  cases deed with
  | queued slot item =>
    have unnamed : item.origin.callback? = none := of_decide_eq_true own
    exact ⟨List.filterMap_cons_none unnamed, rfl, rfl, rfl⟩
  | submitted | refused | taken => cases own
  | _ => exact ⟨rfl, rfl, rfl, rfl⟩

end Deed

/-- Number of commands that are queued. -/
def insertions (deeds : List Deed) : Nat := (deeds.flatMap Deed.entering).length

theorem insertions_append (deeds later : List Deed) :
    insertions (deeds ++ later) = insertions deeds + insertions later := by
  unfold insertions
  rw [List.flatMap_append, List.length_append]

/-! ### What users are told -/

namespace Deed

/-- Sessions are not concerned: none starts, becomes operational, is heard in or ends. -/
def isPlain : Deed → Bool
  | .opened _ | .connected _ | .told (.disconnected _) | .told (.command _)
  | .told (.deviceStatusChanged _) => false
  | _ => true

theorem sessionAfter_of_isPlain {deed : Deed} (plain : deed.isPlain = true)
    (session : Option Nat) : deed.sessionAfter session = session := by
  cases deed with
  | told event => cases event <;> first | rfl | cases plain
  | opened => cases plain
  | _ => rfl

/-- The command of the device that users are told of. -/
def command? : Deed → Option Command
  | .told (.command command) => some command
  | _ => none

/-- What comes of the bytes of the device at this time. -/
def ofHearing (now : Nat) : Deed → Prop
  | .quiet | .told (.command _) | .told (.deviceStatusChanged _) => True
  | .ended _ _ status _ time => status = .success ∧ time = now
  | _ => False

end Deed

/-- Deeds that may follow while this session is accepted or none is. They are plain, with two
exceptions: users are told that a session has ended right after all work has failed, and a session
starts where there is none. -/
inductive Orderly : Option Nat → List Deed → Prop where
  | nil (session : Option Nat) : Orderly session []
  | plain {session : Option Nat} {deed : Deed} {deeds : List Deed} (plain : deed.isPlain = true)
    (rest : Orderly session deeds) : Orderly session (deed :: deeds)
  | ended (session : Option Nat) (items : List QueueItem) (ids : List RequestId)
    (reason : DisconnectReason) {deeds : List Deed} (rest : Orderly none deeds) :
    Orderly session (.killed items ids .disconnected :: .told (.disconnected reason) :: deeds)
  | opened (started : Option Nat) {deeds : List Deed} (rest : Orderly started deeds) :
    Orderly none (.opened started :: deeds)

theorem Orderly.append {session : Option Nat} {deeds later : List Deed}
    (before : Orderly session deeds)
    (after : Orderly (deeds.foldl Deed.sessionAfter session) later) :
    Orderly session (deeds ++ later) := by
  induction before with
  | nil session => exact after
  | plain plain rest ih =>
    rw [List.foldl_cons, Deed.sessionAfter_of_isPlain plain] at after
    exact .plain plain (ih after)
  | ended session items ids reason rest ih => exact .ended session items ids reason (ih after)
  | opened started rest ih =>
    refine .opened started (ih ?_)
    cases started <;> exact after

/-- What a call may do. -/
def Act.Permits {τ : Type} (act : Act τ) : Deed → Prop
  | .quiet | .told _ | .opened _ => True
  | .queued _ _ => (∃ command callback, act = .enqueue command callback) ∨ ∃ now, act = .tick now
  | .sent _ _ _ now | .retried _ _ now => act = .tick now
  | .turnedBack _ | .dropped _ | .tornDown => ∃ now, act = .tick now
  | .ended _ _ .success _ now => act.time? = some now
  | .ended _ _ _ _ now => act = .tick now
  | .killed _ _ status => status = .disconnected ∨ act = .killAll status
  | .submitted id => act = .submitRequest id
  | .refused callback => ∃ command, act = .enqueue command (some callback)
  | .connected now => act.time? = some now
  | .taken _ => act = .takeCompletions
  | .resolverSet => ∃ resolve, act = .setResolver resolve
  | .changed => ∃ change, act = .changeTransport change

/-- Frames are handed to the transport in ticks only. -/
theorem Act.Permits.tick_of_frame {τ : Type} {act : Act τ} {deed : Deed}
    (permitted : act.Permits deed) {frame : Bytes} (handed : deed.frame? = some frame) :
    ∃ now, act = .tick now := by
  cases deed with
  | sent slot item sent now => exact ⟨now, permitted⟩
  | turnedBack => exact permitted
  | _ => cases handed

/-- What is done at some time is done in a call at that time. -/
theorem Act.Permits.time_eq {τ : Type} {act : Act τ} {deed : Deed} (permitted : act.Permits deed)
    {now : Nat} (timed : deed.time? = some now) : act.time? = some now := by
  cases deed with
  | sent | retried =>
    cases timed
    rw [show act = .tick now from permitted]
    rfl
  | ended slot item status response at_ =>
    cases timed
    cases status with
    | success => exact permitted
    | _ =>
      rw [show act = .tick now from permitted]
      rfl
  | connected at_ =>
    cases timed
    exact permitted
  | _ => cases timed

/-- The device may be heard in any call that says what time it is. -/
theorem Act.permits_of_ofHearing {τ : Type} {act : Act τ} {deed : Deed} {now : Nat}
    (heard : deed.ofHearing now) (timed : act.time? = some now) :
    deed.isOwn = true ∧ act.Permits deed := by
  cases deed with
  | quiet | told => exact ⟨rfl, trivial⟩
  | ended slot item status response time =>
    obtain ⟨rfl, rfl⟩ := heard
    exact ⟨rfl, timed⟩
  | _ => cases heard

/-- A session may be asked for in any call. -/
theorem Act.permits_of_opening {τ : Type} (act : Act τ) (items : List QueueItem)
    (ids : List RequestId) (started : Option Nat) :
    ∀ deed ∈ [Deed.killed items ids .disconnected, .opened started],
      deed.isOwn = true ∧ act.Permits deed :=
  List.forall_mem_cons.mpr ⟨⟨rfl, .inl rfl⟩, List.forall_mem_singleton.mpr ⟨rfl, trivial⟩⟩

/-- Callbacks of the commands that were refused because they cannot be written, oldest first. -/
def Trace.rejected {τ : Type} (trace : Trace τ) : List Callback :=
  trace.filterMap fun
    | (.enqueue _ callback, .queued (.error (.rejected _))) => callback
    | _ => none

/-- All that was collected to be told by the time the trace led to this state, oldest first. -/
def Trace.told {τ : Type} (trace : Trace τ) (s : Scheduler τ) : List Completion :=
  trace.taken ++ s.completions

/-- The deeds account for what the callers see. -/
structure Accounts {τ : Type} (trace : Trace τ) (deeds : List Deed) : Prop where
  callbacks : deeds.flatMap Deed.callbacks = trace.callbacks
  rejected : deeds.flatMap Deed.rejected = trace.rejected
  requests : deeds.flatMap Deed.requests = trace.requests
  taken : deeds.flatMap Deed.handedOut = trace.taken
  /-- Each deed is one that some call may do. -/
  permitted : ∀ deed ∈ deeds, ∃ entry ∈ trace, entry.1.Permits deed

variable {τ : Type}

theorem Accounts.append {first second : Trace τ} {deeds later : List Deed}
    (before : Accounts first deeds) (after : Accounts second later) :
    Accounts (first ++ second) (deeds ++ later) where
  callbacks := by
    rw [List.flatMap_append, before.callbacks, after.callbacks]
    exact List.filterMap_append.symm
  rejected := by
    rw [List.flatMap_append, before.rejected, after.rejected]
    exact List.filterMap_append.symm
  requests := by
    rw [List.flatMap_append, before.requests, after.requests]
    exact List.filterMap_append.symm
  taken := by
    rw [List.flatMap_append, before.taken, after.taken]
    exact List.flatMap_append.symm
  permitted := by
    intro deed mem
    rcases List.mem_append.mp mem with mem | mem
    · obtain ⟨entry, listed, permits⟩ := before.permitted deed mem
      exact ⟨entry, List.mem_append_left _ listed, permits⟩
    · obtain ⟨entry, listed, permits⟩ := after.permitted deed mem
      exact ⟨entry, List.mem_append_right _ listed, permits⟩

theorem Accounts.nothing {trace : Trace τ} (callbacks : trace.callbacks = [])
    (rejected : trace.rejected = []) (requests : trace.requests = []) (taken : trace.taken = []) :
    Accounts trace [] :=
  ⟨callbacks.symm, rejected.symm, requests.symm, taken.symm,
    fun _ mem => absurd mem List.not_mem_nil⟩

/-- Deeds that concern no caller account for calls by which the callers see nothing. -/
theorem Accounts.of_own {trace : Trace τ} {deeds : List Deed}
    (own : ∀ deed ∈ deeds, deed.isOwn = true)
    (permitted : ∀ deed ∈ deeds, ∃ entry ∈ trace, entry.1.Permits deed)
    (silent : Accounts trace []) : Accounts trace deeds where
  callbacks := by
    rw [← silent.callbacks, List.flatMap_nil, List.flatMap_eq_nil_iff]
    exact fun deed mem => (Deed.eq_nil_of_isOwn (own deed mem)).1
  rejected := by
    rw [← silent.rejected, List.flatMap_nil, List.flatMap_eq_nil_iff]
    exact fun deed mem => (Deed.eq_nil_of_isOwn (own deed mem)).2.1
  requests := by
    rw [← silent.requests, List.flatMap_nil, List.flatMap_eq_nil_iff]
    exact fun deed mem => (Deed.eq_nil_of_isOwn (own deed mem)).2.2.1
  taken := by
    rw [← silent.taken, List.flatMap_nil, List.flatMap_eq_nil_iff]
    exact fun deed mem => (Deed.eq_nil_of_isOwn (own deed mem)).2.2.2
  permitted := permitted

/-- What the call itself may do is permitted. -/
theorem permitted_of_act {act : Act τ} {deeds : List Deed} (outcome : Outcome)
    (each : ∀ deed ∈ deeds, act.Permits deed) :
    ∀ deed ∈ deeds, ∃ entry ∈ [(act, outcome)], entry.1.Permits deed :=
  fun deed mem => ⟨(act, outcome), List.mem_singleton_self _, each deed mem⟩

/-- What is done in one call is permitted to it. -/
theorem Accounts.permits {act : Act τ} {outcome : Outcome} {deeds : List Deed}
    (accounts : Accounts [(act, outcome)] deeds) {deed : Deed} (mem : deed ∈ deeds) :
    act.Permits deed := by
  obtain ⟨entry, listed, permits⟩ := accounts.permitted deed mem
  rwa [List.mem_singleton.mp listed] at permits

variable [Transport τ]

/-! ### Steps of the scheduler's own -/

/-- In the course of a call, one state leads to the other by steps that concern no caller. -/
def Proceeds (act : Act τ) (s s' : Scheduler τ) : Prop :=
  ∃ deeds : List Deed, Steps s deeds s' ∧ ∀ deed ∈ deeds, deed.isOwn = true ∧ act.Permits deed

/-- As `Proceeds`, in order, and with no more than so many commands queued. -/
def Advances (act : Act τ) (most : Nat) (s s' : Scheduler τ) : Prop :=
  ∃ deeds : List Deed, Steps s deeds s' ∧
    (∀ deed ∈ deeds, deed.isOwn = true ∧ act.Permits deed) ∧ Orderly s.session deeds ∧
      insertions deeds ≤ most

/-- The device sends these commands at this time, and nothing else happens. Users are told of each
of them, and its status is taken over. -/
def Listens (now : Nat) (commands : List Command) (s s' : Scheduler τ) : Prop :=
  ∃ deeds : List Deed, Steps s deeds s' ∧ (∀ deed ∈ deeds, deed.ofHearing now) ∧
    deeds.filterMap Deed.command? = commands ∧
    s'.device = (commands.filterMap s.table.statusUpdate?).foldl DeviceStatus.apply s.device

variable {act : Act τ} {most : Nat}

theorem Advances.proceeds {s s' : Scheduler τ} (advances : s.Advances act most s') :
    s.Proceeds act s' := by
  obtain ⟨deeds, steps, own, -⟩ := advances
  exact ⟨deeds, steps, own⟩

theorem Advances.refl (s : Scheduler τ) : s.Advances act most s :=
  ⟨[], .nil s, fun _ mem => absurd mem List.not_mem_nil, .nil _, Nat.zero_le most⟩

theorem Advances.append {first second : Nat} {s s' s'' : Scheduler τ}
    (before : s.Advances act first s') (after : s'.Advances act second s'') :
    s.Advances act (first + second) s'' := by
  obtain ⟨deeds, steps, own, orderly, few⟩ := before
  obtain ⟨later, steps', own', orderly', few'⟩ := after
  rw [steps.session_eq] at orderly'
  refine ⟨deeds ++ later, steps.append steps', List.forall_mem_append.mpr ⟨own, own'⟩,
    orderly.append orderly', ?_⟩
  rw [insertions_append]
  exact Nat.add_le_add few few'

/-- Nothing is queued first. -/
theorem Advances.trans {s s' s'' : Scheduler τ} (before : s.Advances act 0 s')
    (after : s'.Advances act most s'') : s.Advances act most s'' :=
  Nat.zero_add most ▸ before.append after

/-- Nothing more is queued. -/
theorem Advances.follow {s s' s'' : Scheduler τ} (before : s.Advances act most s')
    (after : s'.Advances act 0 s'') : s.Advances act most s'' := before.append after

theorem Advances.mono {few : Nat} {s s' : Scheduler τ} (advances : s.Advances act few s')
    (fewer : few ≤ most) : s.Advances act most s' := by
  obtain ⟨deeds, steps, own, orderly, within⟩ := advances
  exact ⟨deeds, steps, own, orderly, Nat.le_trans within fewer⟩

theorem Step.advances {s s' : Scheduler τ} {deed : Deed} (step : Step s deed s')
    (own : deed.isOwn = true) (permitted : act.Permits deed) (plain : deed.isPlain = true) :
    s.Advances act deed.entering.length s' := by
  refine ⟨[deed], .cons step (.nil s'), List.forall_mem_singleton.mpr ⟨own, permitted⟩,
    .plain plain (.nil _), ?_⟩
  exact Nat.le_of_eq (congrArg List.length (List.flatMap_singleton ..))

theorem Aside.advances {s s' : Scheduler τ} (aside : Aside s s') : s.Advances act 0 s' :=
  (Step.quiet aside).advances rfl trivial rfl

theorem Listens.refl {now : Nat} (s : Scheduler τ) : s.Listens now [] s :=
  ⟨[], .nil s, fun _ mem => absurd mem List.not_mem_nil, rfl, rfl⟩

theorem Listens.trans {now : Nat} {commands later : List Command} {s s' s'' : Scheduler τ}
    (before : s.Listens now commands s') (after : s'.Listens now later s'') :
    s.Listens now (commands ++ later) s'' := by
  obtain ⟨first, steps, heard, told, device⟩ := before
  obtain ⟨second, steps', heard', told', device'⟩ := after
  obtain ⟨-, table⟩ := steps.made_eq
  refine ⟨first ++ second, steps.append steps', List.forall_mem_append.mpr ⟨heard, heard'⟩, ?_, ?_⟩
  · rw [List.filterMap_append, told, told']
  · rw [device', device, table, List.filterMap_append, List.foldl_append]

theorem Step.listens {now : Nat} {s s' : Scheduler τ} {deed : Deed} (step : Step s deed s')
    (heard : deed.ofHearing now) (untold : deed.command? = none) (kept : s'.device = s.device) :
    s.Listens now [] s' :=
  ⟨[deed], .cons step (.nil s'), List.forall_mem_singleton.mpr heard,
    List.filterMap_eq_nil_iff.mpr (List.forall_mem_singleton.mpr untold), kept⟩

theorem Aside.listens {now : Nat} {s s' : Scheduler τ} (aside : Aside s s') :
    s.Listens now [] s' := by
  refine (Step.quiet aside).listens trivial rfl ?_
  cases aside <;> rfl

/-! ### Starts and ends of sessions -/

theorem disconnectAll_advances (s : Scheduler τ) : s.Advances act 0 (s.killAll .disconnected) :=
  (Step.kill s .disconnected).advances rfl (.inl rfl) rfl

theorem endSession_advances (s : Scheduler τ) (reason : DisconnectReason) :
    s.Advances act 0 (s.endSession reason) := by
  have cleared : (s.killAll .disconnected).Cleared := ⟨s, .disconnected, rfl⟩
  unfold endSession
  dsimp only
  split
  · rename_i alone
    exact s.disconnectAll_advances.trans ((Step.leave cleared alone).advances rfl trivial rfl)
  · rename_i session joined
    refine ⟨_, .cons (.kill s .disconnected) (.cons (.disconnect reason cleared joined) (.nil _)),
      ?_, .ended _ _ _ reason (.nil _), Nat.le_refl 0⟩
    exact List.forall_mem_cons.mpr ⟨⟨rfl, .inl rfl⟩, List.forall_mem_singleton.mpr ⟨rfl, trivial⟩⟩

/-- A session is asked for after all work has failed. -/
theorem openSession_steps (s : Scheduler τ) :
    ∃ (items : List QueueItem) (ids : List RequestId) (started : Option Nat),
      Steps s [.killed items ids .disconnected, .opened started] s.openSession.2 := by
  have cleared : (s.killAll .disconnected).Cleared := ⟨s, .disconnected, rfl⟩
  unfold openSession
  cases started : Transport.start (s.killAll .disconnected).transport with
  | mk result transport =>
    cases result with
    | error fault =>
      simp only [started]
      exact ⟨_, _, _, .cons (.kill s .disconnected) (.cons (.startFailed cleared started) (.nil _))⟩
    | ok =>
      simp only [started]
      exact ⟨_, _, _, .cons (.kill s .disconnected) (.cons (.start cleared started) (.nil _))⟩

theorem openSession_advances {s : Scheduler τ} (alone : s.session = none) :
    s.Advances act 0 s.openSession.2 := by
  obtain ⟨items, ids, started, steps⟩ := s.openSession_steps
  refine ⟨_, steps, act.permits_of_opening items ids started, ?_, Nat.le_refl 0⟩
  rw [alone]
  exact .plain rfl (.opened started (.nil _))

omit [Transport τ] in
theorem session_endSession (s : Scheduler τ) (reason : DisconnectReason) :
    (s.endSession reason).session = none := by
  unfold endSession
  dsimp only
  split
  · rename_i alone
    exact alone
  · rfl

theorem closeSession_advances (s : Scheduler τ) : s.Advances act 0 s.closeSession :=
  (s.endSession_advances .normal).trans (Aside.stop _ .normal).advances

/-- Once the failures are forgotten, the rest of a teardown is what any call may do. -/
theorem forgiven_advances (s : Scheduler τ) :
    { s with failures := 0 }.Advances act 0 s.teardown := by
  unfold teardown
  dsimp only
  generalize (if s.bootloaderSeen then DisconnectReason.bootloaderOnly else .timeout) = reason
  have alone := session_endSession { s with failures := 0 } reason
  refine (endSession_advances _ reason).trans ((Aside.stop _ reason).advances.trans ?_)
  split
  · exact (Aside.reconnect _).advances.trans (openSession_advances alone)
  · exact .refl _

theorem teardown_advances {s : Scheduler τ} {now : Nat} (operational : s.connection = .operational)
    (many : s.failures ≥ s.settings.failureThreshold) : s.Advances (.tick now) 0 s.teardown :=
  ((Step.tearDown operational many).advances rfl ⟨now, rfl⟩ rfl).trans s.forgiven_advances

/-! ### Bytes of the device -/

theorem confirm_listens (s : Scheduler τ) (command : Command) (now : Nat) :
    s.Listens now [] (s.confirm command now) := by
  cases found : s.queue.findConfirm? command.id command.seq with
  | none =>
    unfold confirm
    simp only [found]
    exact .refl s
  | some slot =>
    obtain ⟨item, held, -⟩ := SendQueue.awaits_of_findConfirm? found
    obtain ⟨metrics, confirmed⟩ := confirm_of_found found held now
    rw [confirmed]
    exact (Step.confirm found held confirmed).listens ⟨rfl, rfl⟩ rfl rfl

/-- Users are told of a new status, and then of the command that carried it. -/
theorem tell_updateDevice_listens (s : Scheduler τ) (command : Command) (now : Nat) :
    s.Listens now [command] ((s.updateDevice command).tell [.event (.command command)]) := by
  have passed : [command].filterMap s.table.statusUpdate? =
      (s.table.statusUpdate? command).toList := by
    rw [List.filterMap_cons]
    cases s.table.statusUpdate? command <;> rfl
  have unchanged (old : (s.table.statusUpdate? command).toList.foldl DeviceStatus.apply s.device =
      s.device) : s.Listens now [command] (s.tell [.event (.command command)]) :=
    ⟨_, .cons (.hear s command) (.nil _), List.forall_mem_singleton.mpr trivial, rfl,
      passed ▸ old.symm⟩
  unfold updateDevice
  cases carried : s.table.statusUpdate? command with
  | none =>
    rw [carried] at unchanged
    exact unchanged rfl
  | some update =>
    rw [carried] at passed unchanged
    dsimp only
    by_cases old : s.device.apply update = s.device
    · rw [if_pos old]
      exact unchanged old
    · rw [if_neg old]
      refine ⟨_, .cons (.statusChange carried old) (.cons (.hear _ command) (.nil _)), ?_, rfl, ?_⟩
      · exact List.forall_mem_cons.mpr ⟨trivial, List.forall_mem_singleton.mpr trivial⟩
      · rw [passed]
        rfl

theorem dispatch_listens (s : Scheduler τ) (command : Command) (now : Nat) :
    s.Listens now [command] (s.dispatch command now) :=
  (Aside.decoded s command.id).listens.trans <|
    (confirm_listens _ command now).trans (tell_updateDevice_listens _ command now)

theorem acceptPayload_listens (s : Scheduler τ) (payload : Bytes) (now : Nat) :
    (s.countMetric .framesReceived).Listens now (s.table.commandsIn [payload])
      (s.acceptPayload payload now) := by
  unfold CommandTable.commandsIn
  rw [List.filterMap_cons]
  cases read : s.table.decode payload with
  | ok command =>
    rw [acceptPayload_of_ok read]
    exact dispatch_listens _ command now
  | error cause =>
    have read : (s.countMetric .framesReceived).table.decode payload = .error cause := read
    unfold acceptPayload
    simp only [read]
    exact (Aside.undecodable _).listens

theorem acceptByte_listens (s : Scheduler τ) (b : UInt8) (now : Nat) :
    s.Listens now (s.table.commandsIn (s.receiver.feed b).1.toList) (s.acceptByte now b) := by
  unfold acceptByte
  cases fed : s.receiver.feed b with
  | mk payload? receiver =>
    cases payload? with
    | none => exact (Aside.byte fed).listens
    | some payload =>
      exact (Aside.frame fed).listens.trans (acceptPayload_listens { s with receiver } payload now)

theorem acceptBytes_listens (s : Scheduler τ) (data : Bytes) (now : Nat) :
    s.Listens now (s.table.commandsIn (s.receiver.feedAll data).1)
      (data.foldl (acceptByte now) s) := by
  induction data generalizing s with
  | nil => exact .refl s
  | cons b data ih =>
    obtain ⟨receiver, -, table⟩ := s.acceptByte_frame b now
    have rest := ih (s.acceptByte now b)
    rw [receiver, table] at rest
    rw [Receiver.feedAll_cons, CommandTable.commandsIn_append]
    exact (s.acceptByte_listens b now).trans rest

theorem processInbound_listens (s : Scheduler τ) (now : Nat) :
    s.Listens now s.inbox (s.processInbound now) := by
  change s.Listens now ([] ++ s.inbox) (s.processInbound now)
  refine (Aside.receive s).listens.trans ?_
  unfold processInbound inbox
  dsimp only
  split
  · rename_i empty
    rw [List.isEmpty_iff.mp empty]
    exact .refl _
  · have accepted := acceptBytes_listens { s with transport := (Transport.receive s.transport).2 }
      (Transport.receive s.transport).1 now
    obtain ⟨metrics, counted⟩ := countReceiverErrors_eq
      ((Transport.receive s.transport).1.foldl (acceptByte now)
        { s with transport := (Transport.receive s.transport).2 }) s.receiver.counts
    rw [counted, ← List.append_nil (CommandTable.commandsIn _ _)]
    exact accepted.trans (Aside.receiverErrors counted).listens

/-! ### Timeouts -/

theorem expire_advances {s : Scheduler τ} {slot : Nat} {item : QueueItem} {now : Nat}
    (operational : s.connection = .operational) (held : s.queue.get? slot = some item)
    (overdue : s.overdue now item = true) : s.Advances (.tick now) 0 (s.expire slot) := by
  by_cases left : item.retries < s.settings.maxRetries
  · rw [expire_of_retry held left]
    exact (Step.retry operational held overdue left).advances rfl rfl rfl
  · rw [expire_of_spent held left]
    exact (Step.giveUp operational held overdue left).advances rfl rfl rfl

theorem expireAll_advances {s : Scheduler τ} {slots : List Nat} {now : Nat} (nodup : slots.Nodup)
    (operational : s.connection = .operational)
    (due : ∀ slot ∈ slots, ∃ item, s.queue.get? slot = some item ∧ s.overdue now item = true) :
    s.Advances (.tick now) 0 (slots.foldl expire s) := by
  induction slots generalizing s with
  | nil => exact .refl s
  | cons slot slots ih =>
    obtain ⟨unlisted, nodup⟩ := List.nodup_cons.mp nodup
    obtain ⟨item, held, overdue⟩ := due slot List.mem_cons_self
    obtain ⟨connection, settings, -, -, others⟩ := s.expire_frame slot
    -- No slot is listed twice, so the items that are still to be handled are as they were.
    have later : ∀ other ∈ slots, ∃ item, (s.expire slot).queue.get? other = some item ∧
        (s.expire slot).overdue now item = true := by
      intro other mem
      obtain ⟨item, held, overdue⟩ := due other (List.mem_cons_of_mem _ mem)
      have ne : other ≠ slot := fun same => unlisted (same ▸ mem)
      refine ⟨item, (others other ne).trans held, ?_⟩
      unfold Scheduler.overdue at overdue ⊢
      rwa [settings]
    have first := expire_advances operational held overdue
    exact first.trans (ih nodup (connection.trans operational) later)

theorem sweepTimeouts_advances {s : Scheduler τ} (now : Nat)
    (operational : s.connection = .operational) :
    s.Advances (.tick now) 0 (s.sweepTimeouts now) := by
  have steps := expireAll_advances (s.nodup_expired now) operational fun _ => mem_expired.mp
  have kept := (s.foldl_expire_frame (s.expired now)).1.trans operational
  have gauge := Aside.gauge ((s.expired now).foldl expire s) .failureCount
    ((s.expired now).foldl expire s).failures
  refine steps.trans (gauge.advances.trans ?_)
  unfold sweepTimeouts
  dsimp only
  split
  · rename_i many
    exact teardown_advances kept many
  · exact .refl _

/-! ### Work of its own -/

theorem enqueueOwn_advances {s : Scheduler τ} {id : UInt8} {now : Nat}
    (operational : s.connection = .operational)
    (known : id ∈ [Command.deviceStatus, Command.dataConfirm, Command.dataIndication])
    (single : s.queue.holdsId id = false) : s.Advances (.tick now) 1 (s.enqueueOwn id) := by
  unfold enqueueOwn
  cases zeroed : s.table.zeroed? id with
  | none => exact .refl s
  | some command =>
    dsimp only
    cases inserted : s.insert command .scheduler with
    | mk result s' =>
      cases result with
      | error fault =>
        rw [(insert_eq_error inserted).1]
        exact .refl s
      | ok handle =>
        obtain ⟨_, _, _, -, -, -, -, rfl⟩ := insert_eq_ok inserted
        have step := Step.queueOwn operational known single zeroed inserted
        exact step.advances rfl (.inr ⟨now, rfl⟩) rfl

theorem materialize_advances {s : Scheduler τ} {now : Nat}
    (operational : s.connection = .operational) (room : s.queue.isFull = false)
    (ready : s.requestReady = true) : s.Advances (.tick now) 1 s.materialize := by
  unfold materialize
  cases popped : s.pending.pop with
  | mk id? pending =>
    cases id? with
    | none => exact ((Step.skipRequest ready popped).advances rfl trivial rfl).mono (Nat.zero_le 1)
    | some id =>
      dsimp only
      cases resolved : s.resolve id with
      | none =>
        dsimp only
        refine ((Step.dropRequest operational ready popped fun command found => ?_).advances
          rfl ⟨now, rfl⟩ rfl).mono (Nat.zero_le 1)
        rw [resolved] at found
        cases found
      | some command =>
        dsimp only
        cases inserted : { s with pending }.insert command (.request id) with
        | mk result s' =>
          cases result with
          | ok handle =>
            obtain ⟨_, _, _, -, -, -, -, rfl⟩ := insert_eq_ok inserted
            have step := Step.queueRequest operational ready popped resolved inserted
            exact step.advances rfl (.inr ⟨now, rfl⟩) rfl
          | error fault =>
            obtain ⟨rfl, ⟨cause, unwritable, -⟩ | ⟨-, full, -⟩⟩ := insert_eq_error inserted
            · refine ((Step.dropRequest operational ready popped fun other found => ?_).advances
                rfl ⟨now, rfl⟩ rfl).mono (Nat.zero_le 1)
              rw [resolved] at found
              cases found
              exact ⟨cause, unwritable⟩
            · exact absurd (room.symm.trans full) Bool.false_ne_true

theorem scheduleBackground_advances {s : Scheduler τ} (now : Nat)
    (operational : s.connection = .operational) :
    s.Advances (.tick now) 1 (s.scheduleBackground now) := by
  unfold scheduleBackground
  split
  · exact .refl s
  rename_i room
  split
  · rename_i due
    simp only [Bool.and_eq_true, Bool.not_eq_true'] at due
    exact enqueueOwn_advances operational (by decide) due.2
  split
  · rename_i ready
    simp only [confirmReady, Bool.and_eq_true, Bool.not_eq_true'] at ready
    exact enqueueOwn_advances operational (by decide) ready.2
  split
  · rename_i ready
    simp only [indicationReady, Bool.and_eq_true, Bool.not_eq_true'] at ready
    exact enqueueOwn_advances operational (by decide) ready.2
  split
  · rename_i ready
    exact materialize_advances operational (Bool.eq_false_iff.mpr room) ready
  · exact .refl s

/-! ### Sending -/

theorem sendNext_advances {s : Scheduler τ} (now : Nat)
    (operational : s.connection = .operational) :
    s.Advances (.tick now) 0 (s.sendNext now).2 ∧ (s.sendNext now).2.connection = .operational := by
  unfold sendNext
  cases credit : s.hasCredit with
  | false => exact ⟨.refl s, operational⟩
  | true =>
    simp only [Bool.not_true, Bool.false_eq_true, if_false]
    cases next : s.queue.nextToSend? with
    | none => exact ⟨.refl s, operational⟩
    | some slot =>
      cases held : s.queue.get? slot with
      | none =>
        simp only [held]
        exact ⟨.refl s, operational⟩
      | some item =>
        simp only [held]
        cases written : s.table.encode item.command Command.maxLength with
        | error cause =>
          exact ⟨(Step.discard now operational held written).advances rfl rfl rfl, operational⟩
        | ok payload =>
          dsimp only
          cases taken : Transport.send (Frame.encode payload) s.transport with
          | mk result transport =>
            cases result with
            | error fault =>
              exact ⟨(Step.turnBack operational taken).advances rfl ⟨now, rfl⟩ rfl, operational⟩
            | ok =>
              have step := Step.send now operational credit next held written taken
              exact ⟨step.advances rfl rfl rfl, operational⟩

theorem sendUpTo_advances {s : Scheduler τ} (now most : Nat)
    (operational : s.connection = .operational) :
    s.Advances (.tick now) 0 (sendUpTo now most s) := by
  induction most generalizing s with
  | zero => exact .refl s
  | succ most ih =>
    obtain ⟨step, kept⟩ := sendNext_advances now operational
    unfold sendUpTo
    cases sent : s.sendNext now with
    | mk again s' =>
      rw [sent] at step kept
      cases again with
      | true => exact step.trans (ih kept)
      | false => exact step

theorem sendReady_advances {s : Scheduler τ} (now : Nat)
    (operational : s.connection = .operational) : s.Advances (.tick now) 0 (s.sendReady now) :=
  sendUpTo_advances now _ operational

/-! ### Time and reports -/

theorem updateGauges_advances (s : Scheduler τ) : s.Advances act 0 s.updateGauges :=
  (Aside.gauge s .queueDepth s.queue.size).advances.trans <|
    (Aside.gauge _ .inFlight _).advances.trans (Aside.gauge _ .pendingRequests _).advances

theorem tick_advances (s : Scheduler τ) (now : Nat) : s.Advances (.tick now) 1 (s.tick now).2 := by
  refine (Aside.wake s false).advances.trans ?_
  unfold tick
  dsimp only
  split
  · exact .refl _
  · rename_i operational
    have operational : { s with wake := false }.connection = .operational :=
      Decidable.not_not.mp operational
    refine (sweepTimeouts_advances now operational).trans ?_
    split
    · exact .refl _
    · rename_i operational
      have operational := Decidable.not_not.mp operational
      refine (scheduleBackground_advances now operational).follow ?_
      have kept := (scheduleBackground_connection _ now).trans operational
      refine (sendReady_advances now kept).trans ?_
      exact (Aside.wake _ false).advances.trans (updateGauges_advances _)

/-! ### Calls and runs -/

/-- Which deeds a call may consist of, from a state on. -/
inductive Course (s : Scheduler τ) : Act τ → List Deed → Prop where
  /-- A session is asked for, whether there is one or not. -/
  | opens (items : List QueueItem) (ids : List RequestId) (started : Option Nat) :
    Course s .openSession [.killed items ids .disconnected, .opened started]
  /-- The session becomes operational. -/
  | connects {session now : Nat} (joined : s.session = some session) :
    Course s (.handleEvent ⟨session, .connected⟩ now) [.connected now]
  /-- The device is heard in the session. -/
  | hears {session now : Nat} {deeds : List Deed} (joined : s.session = some session)
    (heard : ∀ deed ∈ deeds, deed.ofHearing now) :
    Course s (.handleEvent ⟨session, .readable⟩ now) deeds
  /-- The device is heard, whether there is a session or not. -/
  | reads {now : Nat} {deeds : List Deed} (heard : ∀ deed ∈ deeds, deed.ofHearing now) :
    Course s (.processInbound now) deeds
  | orderly {act : Act τ} {deeds : List Deed} (orderly : Orderly s.session deeds) :
    Course s act deeds

/-- The call is a sequence of steps that account for it. -/
def AsSteps (s : Scheduler τ) (act : Act τ) (outcome : Outcome) (s' : Scheduler τ) : Prop :=
  ∃ deeds : List Deed, Steps s deeds s' ∧ Accounts [(act, outcome)] deeds ∧ s.Course act deeds

/-- A call that does nothing. -/
theorem AsSteps.refl (s : Scheduler τ) {outcome : Outcome}
    (silent : Accounts [(act, outcome)] []) : s.AsSteps act outcome s :=
  ⟨[], .nil s, silent, .orderly (.nil _)⟩

/-- Steps for a call by which the callers see nothing. -/
theorem Advances.asSteps {s s' : Scheduler τ} {outcome : Outcome}
    (advances : s.Advances act most s') (silent : Accounts [(act, outcome)] []) :
    s.AsSteps act outcome s' := by
  obtain ⟨deeds, steps, each, orderly, -⟩ := advances
  have permitted := permitted_of_act outcome fun deed mem => (each deed mem).2
  exact ⟨deeds, steps, .of_own (fun deed mem => (each deed mem).1) permitted silent,
    .orderly orderly⟩

/-- Steps for a call in which nothing but the device is heard. -/
theorem Listens.accounted {s s' : Scheduler τ} {now : Nat} {commands : List Command}
    {outcome : Outcome} (listens : s.Listens now commands s') (timed : act.time? = some now)
    (silent : Accounts [(act, outcome)] []) :
    ∃ deeds : List Deed, Steps s deeds s' ∧ Accounts [(act, outcome)] deeds ∧
      (∀ deed ∈ deeds, deed.ofHearing now) ∧ deeds.filterMap Deed.command? = commands ∧
      s'.device =
        (commands.filterMap s.table.statusUpdate?).foldl DeviceStatus.apply s.device := by
  obtain ⟨deeds, steps, heard, told⟩ := listens
  have each : ∀ deed ∈ deeds, deed.isOwn = true ∧ act.Permits deed :=
    fun deed mem => Act.permits_of_ofHearing (heard deed mem) timed
  have permitted := permitted_of_act outcome fun deed mem => (each deed mem).2
  exact ⟨deeds, steps, .of_own (fun deed mem => (each deed mem).1) permitted silent, heard, told⟩

theorem handleEvent_steps (s : Scheduler τ) (event : SessionEvent) (now : Nat) :
    s.AsSteps (.handleEvent event now) .nothing (s.handleEvent event now) := by
  obtain ⟨session, event⟩ := event
  have silent : Accounts [((.handleEvent ⟨session, event⟩ now : Act τ), Outcome.nothing)] [] :=
    .nothing rfl rfl rfl rfl
  unfold handleEvent
  by_cases joined : s.session = some session
  · rw [if_neg (not_not_intro joined)]
    cases event with
    | readable =>
      obtain ⟨deeds, steps, accounts, heard, -⟩ :=
        (s.processInbound_listens now).accounted rfl silent
      exact ⟨deeds, steps, accounts, .hears joined heard⟩
    | connected =>
      have timed : (.handleEvent ⟨session, .connected⟩ now : Act τ).Permits (.connected now) := rfl
      have permitted := permitted_of_act .nothing (List.forall_mem_singleton.mpr timed)
      exact ⟨_, .cons (.connect now joined) (.nil _),
        .of_own (List.forall_mem_singleton.mpr rfl) permitted silent, .connects joined⟩
    | bootloaderActive => exact ((Step.bootloader joined).advances rfl trivial rfl).asSteps silent
    | disconnected reason => exact (s.endSession_advances reason).asSteps silent
  · rw [if_pos joined]
    exact .refl s silent

theorem enqueue_steps (s : Scheduler τ) (command : Command) (callback : Option Callback) :
    s.AsSteps (.enqueue command callback) (.queued (s.enqueue command callback).1)
      (s.enqueue command callback).2 := by
  unfold enqueue
  by_cases off : s.connection = .off
  · simp only [if_pos off]
    exact .refl s (.nothing rfl rfl rfl rfl)
  simp only [if_neg off]
  cases inserted : s.insert command (.caller callback) with
  | mk result s' =>
    cases result with
    | ok handle =>
      obtain ⟨_, _, _, -, -, -, -, rfl⟩ := insert_eq_ok inserted
      refine ⟨_, .cons (.queueCaller off inserted) (.nil _), ?_, .orderly (.plain rfl (.nil _))⟩
      have permitted : (.enqueue command callback : Act τ).Permits
          (.queued handle.slot (handle.item command (.caller callback))) :=
        .inl ⟨command, callback, rfl⟩
      have each := permitted_of_act (.queued (.ok handle))
        (List.forall_mem_singleton.mpr permitted)
      cases callback <;> exact ⟨rfl, rfl, rfl, rfl, each⟩
    | error fault =>
      obtain ⟨rfl, ⟨cause, unwritable, rfl⟩ | ⟨-, full, rfl⟩⟩ := insert_eq_error inserted
      · dsimp only
        have count := Aside.rejection s' "encode"
        cases callback with
        | none =>
          rw [Option.map_none, Option.toList_none, tell_nil]
          exact count.advances.asSteps (.nothing rfl rfl rfl rfl)
        | some callback =>
          refine ⟨_, .cons (.quiet count) (.cons (.refuse callback off unwritable) (.nil _)), ?_,
            .orderly (.plain rfl (.plain rfl (.nil _)))⟩
          refine ⟨rfl, rfl, rfl, rfl, permitted_of_act _ ?_⟩
          exact List.forall_mem_cons.mpr ⟨trivial, List.forall_mem_singleton.mpr ⟨command, rfl⟩⟩
      · exact (Aside.rejection s' "queue_full").advances.asSteps (.nothing rfl rfl rfl rfl)

theorem submitRequest_steps (s : Scheduler τ) (id : RequestId) :
    s.AsSteps (.submitRequest id) (.accepted (s.submitRequest id).1) (s.submitRequest id).2 := by
  unfold submitRequest
  by_cases off : s.connection = .off
  · simp only [if_pos off]
    exact .refl s (.nothing rfl rfl rfl rfl)
  simp only [if_neg off]
  cases pushed : s.pending.push? id with
  | none => exact (Aside.rejection s "pending_full").advances.asSteps (.nothing rfl rfl rfl rfl)
  | some pending =>
    refine ⟨_, .cons (.submit off pushed) (.nil _), ⟨rfl, rfl, rfl, rfl, ?_⟩,
      .orderly (.plain rfl (.nil _))⟩
    exact permitted_of_act _ (List.forall_mem_singleton.mpr rfl)

/-- A call is a sequence of steps that account for it and take one of its courses. -/
theorem perform_course (s : Scheduler τ) (act : Act τ) :
    s.AsSteps act (s.perform act).1 (s.perform act).2 := by
  cases act with
  | openSession =>
    obtain ⟨items, ids, started, steps⟩ := s.openSession_steps
    have each := (Act.openSession : Act τ).permits_of_opening items ids started
    have permitted := permitted_of_act (s.perform .openSession).1 fun deed mem => (each deed mem).2
    exact ⟨_, steps, .of_own (fun deed mem => (each deed mem).1) permitted
      (.nothing rfl rfl rfl rfl), .opens items ids started⟩
  | closeSession => exact s.closeSession_advances.asSteps (.nothing rfl rfl rfl rfl)
  | killAll status =>
    have step := (Step.kill s status).advances rfl (.inr rfl) rfl
    exact step.asSteps (.nothing rfl rfl rfl rfl)
  | enqueue command callback => exact s.enqueue_steps command callback
  | submitRequest id => exact s.submitRequest_steps id
  | handleEvent event now => exact s.handleEvent_steps event now
  | processInbound now =>
    have silent : Accounts [((.processInbound now : Act τ), Outcome.nothing)] [] :=
      .nothing rfl rfl rfl rfl
    obtain ⟨deeds, steps, accounts, heard, -⟩ := (s.processInbound_listens now).accounted rfl silent
    exact ⟨deeds, steps, accounts, .reads heard⟩
  | tick now => exact (s.tick_advances now).asSteps (.nothing rfl rfl rfl rfl)
  | takeCompletions =>
    refine ⟨_, .cons (.take s) (.nil _), ⟨rfl, rfl, rfl, rfl, ?_⟩, .orderly (.plain rfl (.nil _))⟩
    exact permitted_of_act _ (List.forall_mem_singleton.mpr rfl)
  | setResolver resolve =>
    have step := (Step.setResolver s resolve).advances rfl ⟨resolve, rfl⟩ rfl
    exact step.asSteps (.nothing rfl rfl rfl rfl)
  | changeTransport change =>
    have step := (Step.change s change).advances rfl ⟨change, rfl⟩ rfl
    exact step.asSteps (.nothing rfl rfl rfl rfl)

/-- A call is a sequence of steps that account for it. -/
theorem perform_steps (s : Scheduler τ) (act : Act τ) :
    ∃ deeds : List Deed, Steps s deeds (s.perform act).2 ∧
      Accounts [(act, (s.perform act).1)] deeds := by
  obtain ⟨deeds, steps, accounts, -⟩ := s.perform_course act
  exact ⟨deeds, steps, accounts⟩

/-- Nothing has been done to the scheduler yet. -/
inductive Fresh : Scheduler τ → Prop where
  | mk (transport : τ) (settings : SchedulerSettings) (table : CommandTable) (labels : LinkLabels)
    (resolve : RequestId → Option Command) :
    Fresh { transport, settings, table, labels, resolve }

theorem Run.cons {s s' : Scheduler τ} {trace : Trace τ} (act : Act τ)
    (run : Run (s.perform act).2 trace s') : Run s ((act, (s.perform act).1) :: trace) s' := by
  induction run with
  | nil => exact Run.nil.snoc act
  | snoc run next ih => exact ih.snoc next

theorem Run.append {start s s' : Scheduler τ} {trace later : Trace τ} (before : Run start trace s)
    (after : Run s later s') : Run start (trace ++ later) s' := by
  induction after with
  | nil => rwa [List.append_nil]
  | snoc _ act ih =>
    rw [← List.append_assoc]
    exact ih.snoc act

/-- Makes calls one after the other. -/
def performAll (s : Scheduler τ) : List (Act τ) → Trace τ × Scheduler τ
  | [] => ([], s)
  | act :: acts =>
    let (outcome, s) := s.perform act
    let (trace, s) := performAll s acts
    ((act, outcome) :: trace, s)

theorem run_performAll (s : Scheduler τ) (acts : List (Act τ)) :
    Run s (s.performAll acts).1 (s.performAll acts).2 := by
  induction acts generalizing s with
  | nil => exact .nil
  | cons act acts ih => exact .cons act (ih _)

theorem performAll_snoc (s : Scheduler τ) (acts : List (Act τ)) (act : Act τ) :
    s.performAll (acts ++ [act]) =
      ((s.performAll acts).1 ++ [(act, ((s.performAll acts).2.perform act).1)],
        ((s.performAll acts).2.perform act).2) := by
  induction acts generalizing s with
  | nil => rfl
  | cons first acts ih =>
    change ((first, (s.perform first).1) ::
      ((s.perform first).2.performAll (acts ++ [act])).1,
      ((s.perform first).2.performAll (acts ++ [act])).2) = _
    rw [ih]
    rfl

/-- Its calls determine a run. -/
theorem Run.eq_performAll {start s : Scheduler τ} {trace : Trace τ} (run : Run start trace s) :
    start.performAll (trace.map Prod.fst) = (trace, s) := by
  induction run with
  | nil => rfl
  | snoc run act ih =>
    rw [List.map_append]
    refine (performAll_snoc _ _ _).trans ?_
    rw [ih]

/-- A run is a sequence of steps that account for its trace. -/
theorem Run.steps {start s : Scheduler τ} {trace : Trace τ} (run : Run start trace s) :
    ∃ deeds : List Deed, Steps start deeds s ∧ Accounts trace deeds := by
  induction run with
  | nil => exact ⟨[], .nil start, .nothing rfl rfl rfl rfl⟩
  | snoc run act ih =>
    obtain ⟨deeds, steps, accounts⟩ := ih
    obtain ⟨later, steps', accounts'⟩ := perform_steps _ act
    exact ⟨deeds ++ later, steps.append steps', accounts.append accounts'⟩

/-- What was told so far is what the steps had to tell. -/
theorem Accounts.told_eq {start s : Scheduler τ} {trace : Trace τ} {deeds : List Deed}
    (fresh : start.Fresh) (steps : Steps start deeds s) (accounts : Accounts trace deeds) :
    trace.told s = deeds.flatMap Deed.completions := by
  have told := steps.completions_append
  rw [accounts.taken] at told
  cases fresh with
  | mk => exact told.symm

/-- What every step keeps is kept by every run. -/
theorem Run.keep (keeps : Scheduler τ → Prop)
    (each : ∀ {s s' : Scheduler τ} {deed : Deed}, Step s deed s' → keeps s → keeps s')
    {start s : Scheduler τ} {trace : Trace τ} (run : Run start trace s) (holds : keeps start) :
    keeps s := by
  obtain ⟨deeds, steps, -⟩ := run.steps
  exact steps.keep each holds

omit [Transport τ] in
theorem Fresh.writable {s : Scheduler τ} (fresh : s.Fresh) : s.Writable := by
  cases fresh with
  | mk =>
    intro slot item held
    rw [SendQueue.get?_empty] at held
    cases held

/-- What is queued can be written at any time. -/
theorem Run.writable {start s : Scheduler τ} {trace : Trace τ} (fresh : start.Fresh)
    (run : Run start trace s) : s.Writable :=
  run.keep Writable Step.writable fresh.writable

end Scheduler

end SerialLink
