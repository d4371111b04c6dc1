import SerialLink.Proofs.Scheduler.Confirm
import SerialLink.Proofs.Transport.Moves

/-!
The owner learns of every byte that waits for it. The worker reports only the first bytes that it
puts into an empty ring, and does so in a step of its own, so the owner may empty the ring in
between and hear of bytes that it has already. What never happens is the converse: bytes that lie
in the ring while no report of them is on its way.
-/
namespace SerialLink

namespace PortTransport

variable {idle t t' : PortTransport} {act : Act} {outcome : Outcome} {trace : Trace}

namespace Trace

theorem Prompted.snoc {session : Nat} (prompted : trace.Prompted session)
    (apart : ∀ bytes, (act, outcome) ≠ (.receive, .received bytes)) :
    Trace.Prompted session (trace ++ [(act, outcome)]) := by
  obtain ⟨earlier, later, rfl, unheeded⟩ := prompted
  refine ⟨earlier, later ++ [(act, outcome)], by simp, ?_⟩
  intro entry of_entry bytes
  rcases List.mem_append.mp of_entry with old | new
  · exact unheeded entry old bytes
  · rw [List.mem_singleton.mp new]
    exact apart bytes

theorem prompted_of_heard (trace : Trace) (session : Nat) :
    Trace.Prompted session (trace ++ [(.nextEvent, .heard (some ⟨session, .readable⟩))]) :=
  ⟨trace, [], rfl, by simp⟩

end Trace

/-- If bytes wait, a report of it waits too, is made in the next step of the worker, or has been
heard and not been heeded yet. -/
def Noticed (trace : Trace) (t : PortTransport) : Prop :=
  t.inbound.bytes ≠ [] →
    ⟨t.session, .readable⟩ ∈ t.events ∨ t.phase = .reporting true .readable ∨
      trace.Prompted t.session

/-- Nothing is lost when the ring stays as it is and no report is taken away. -/
theorem Noticed.keep (noticed : Noticed trace t) (inbound : t'.inbound = t.inbound)
    (session : t'.session = t.session) (events : t.events ⊆ t'.events)
    (phase : t.phase = .reporting true .readable → t'.phase = .reporting true .readable)
    (apart : ∀ bytes, (act, outcome) ≠ (.receive, .received bytes)) :
    Noticed (trace ++ [(act, outcome)]) t' := by
  intro waiting
  rw [inbound] at waiting
  rw [session]
  rcases noticed waiting with reported | due | prompted
  · exact .inl (events reported)
  · exact .inr (.inl (phase due))
  · exact .inr (.inr (prompted.snoc apart))

theorem Move.noticed (move : Move t act outcome t') (noticed : Noticed trace t) :
    Noticed (trace ++ [(act, outcome)]) t' := by
  cases move with
  | rested _ phase | opened _ phase | probed _ phase | took _ _ phase | wrote _ _ phase
  | heldBack _ _ phase | readNothing _ _ phase | watched _ _ phase | waited _ phase
  | wentRound _ _ phase | closed _ _ phase =>
    exact noticed.keep rfl rfl (List.Subset.refl _) (by simp [phase]) (by simp)
  | gaveUp _ _ _ phase =>
    refine noticed.keep rfl rfl (List.Subset.refl _) ?_ (by simp)
    intro due
    simp [due, WorkerPhase.mayFail] at phase
  | announced _ phase | left _ _ phase =>
    exact noticed.keep rfl rfl (List.subset_append_left _ _) (by simp [phase]) (by simp)
  | arrived answers chunk phase =>
    by_cases empty : t.inbound.isEmpty
    · -- The first bytes: the report of them is due.
      intro _
      simp [empty]
    · -- The ones before them have been reported.
      intro _
      have waiting : t.inbound.bytes ≠ [] := by simpa [ByteRing.isEmpty] using empty
      rcases noticed waiting with reported | due | prompted
      · exact .inl reported
      · simp [phase] at due
      · exact .inr (.inr (prompted.snoc (by simp)))
  | reported answers operational event phase =>
    intro waiting
    rcases noticed waiting with earlier | due | prompted
    · exact .inl (List.mem_append_left _ earlier)
    · -- This is the step that makes the report.
      rw [phase] at due
      cases due
      exact .inl (List.mem_append_right _ (List.mem_singleton_self _))
    · exact .inr (.inr (prompted.snoc (by simp)))
  | wished | accepted | refused | heardNothing =>
    exact noticed.keep rfl rfl (List.Subset.refl _) id (by simp)
  | received =>
    intro waiting
    exact absurd rfl waiting
  | heard event events oldest =>
    intro waiting
    rcases noticed waiting with reported | due | prompted
    · rw [oldest] at reported
      rcases List.mem_cons.mp reported with rfl | later
      · exact .inr (.inr (Trace.prompted_of_heard trace t.session))
      · exact .inl later
    · exact .inr (.inl due)
    · exact .inr (.inr (prompted.snoc (by simp)))

theorem Session.noticed (session : Session idle trace t) : Noticed trace t := by
  apply session.along
  · intro free waiting
    simp [start, free, ByteRing.clear] at waiting
  · intro _ _ _ _ _ _ noticed move
    exact move.noticed noticed

end PortTransport

/-! ### The owner heeds the report -/

namespace Scheduler

theorem transport_confirm {τ : Type} (s : Scheduler τ) (command : Command) (now : Nat) :
    (s.confirm command now).transport = s.transport := by
  cases found : s.queue.findConfirm? command.id command.seq with
  | none =>
    unfold confirm
    rw [found]
  | some slot =>
    cases held : s.queue.get? slot with
    | none =>
      unfold confirm
      simp [found, SendQueue.remove, held]
    | some item =>
      obtain ⟨metrics, eq⟩ := confirm_of_found found held now
      rw [eq]
      rfl

theorem transport_acceptPayload {τ : Type} (s : Scheduler τ) (payload : Bytes) (now : Nat) :
    (s.acceptPayload payload now).transport = s.transport := by
  cases read : s.table.decode payload with
  | error cause =>
    obtain ⟨metrics, eq⟩ := acceptPayload_of_error read now
    rw [eq]
  | ok command =>
    obtain ⟨metrics, device, wake, events, eq⟩ :=
      (s.countMetric .framesReceived).dispatch_eq command now
    rw [acceptPayload_of_ok read, eq]
    exact transport_confirm _ command now

theorem transport_acceptBytes {τ : Type} (s : Scheduler τ) (bytes : Bytes) (now : Nat) :
    (bytes.foldl (acceptByte now) s).transport = s.transport := by
  induction bytes generalizing s with
  | nil => rfl
  | cons b bytes ih =>
    rw [List.foldl_cons, ih]
    unfold acceptByte
    split
    · rfl
    · exact transport_acceptPayload _ _ now

/-- All that waits is received, and nothing else is done with the transport. -/
theorem transport_processInbound {τ : Type} [Transport τ] (s : Scheduler τ) (now : Nat) :
    (s.processInbound now).transport = (Transport.receive s.transport).2 := by
  unfold processInbound
  dsimp only
  split
  · rfl
  · obtain ⟨metrics, eq⟩ := countReceiverErrors_eq
      ((Transport.receive s.transport).1.foldl (acceptByte now)
        { s with transport := (Transport.receive s.transport).2 }) s.receiver.counts
    rw [eq]
    exact transport_acceptBytes _ _ now

end Scheduler

namespace PortTransport

variable {idle t : PortTransport} {trace : Trace}

/-- **No wakeup is lost.** Whenever bytes wait for the owner, a report of them waits for it too, or
the worker makes it in its next step, or the owner has heard it and not acted on it yet. A scheduler
acts on it by receiving all that waits. -/
theorem Session.bytes_noticed (session : Session idle trace t) :
    (t.inbound.bytes ≠ [] →
      ⟨t.session, .readable⟩ ∈ t.events ∨
        (∀ answers, (t.step answers).events = t.events ++ [⟨t.session, .readable⟩]) ∨
        trace.Prompted t.session) ∧
      ∀ (s : Scheduler PortTransport) (now : Nat), s.transport = t →
        s.session = some t.session →
          (s.handleEvent ⟨t.session, .readable⟩ now).transport = (t.perform .receive).2 := by
  constructor
  · intro waiting
    rcases session.noticed waiting with reported | due | prompted
    · exact .inl reported
    · have reports : ∀ answers, (t.step answers).events = t.events ++ [⟨t.session, .readable⟩] := by
        intro answers
        simp only [step, due, report]
      exact .inr (.inl reports)
    · exact .inr (.inr prompted)
  · rintro s now rfl running
    unfold Scheduler.handleEvent
    rw [if_neg (by simp [running])]
    exact s.transport_processInbound now

/-- The owner has emptied the ring before its bytes were reported, and more bytes arrive while it
hears of the ones that it has. -/
def drainedBetween : Trace × PortTransport :=
  PortTransport.performAll (start {}).2
    [.work {}, .work {}, .work {}, .work {}, .work { now := 1000 }, .work {},
      .work {}, .work { read := .ok [1] }, .receive, .work {}, .nextEvent, .nextEvent,
      .work {}, .work {}, .work { read := .ok [2] }]

theorem Session.bytes_noticed_of_drainedBetween :
    Session {} drainedBetween.1 drainedBetween.2 ∧ drainedBetween.2.inbound.bytes = [2] ∧
      drainedBetween.2.events = [] ∧
      ((∀ answers, (drainedBetween.2.step answers).events = [⟨1, .readable⟩]) ∨
        drainedBetween.1.Prompted 1) ∧
      (Scheduler.handleEvent { transport := drainedBetween.2, session := some 1 }
        ⟨1, .readable⟩ 0).transport.inbound.bytes = [] := by
  have session : Session {} drainedBetween.1 drainedBetween.2 := .of_start rfl _
  have waiting : drainedBetween.2.inbound.bytes = [2] := by decide +kernel
  have silent : drainedBetween.2.events = [] := by decide +kernel
  have number : drainedBetween.2.session = 1 := by decide +kernel
  obtain ⟨noticed, heeded⟩ := bytes_noticed session
  rw [number, waiting, silent] at noticed
  have heeded := heeded { transport := drainedBetween.2, session := some 1 } 0 rfl (by rw [number])
  rw [number] at heeded
  refine ⟨session, waiting, silent, ?_, ?_⟩
  · rcases noticed (by simp) with reported | due | prompted
    · cases reported
    · exact .inl due
    · exact .inr prompted
  · rw [heeded]
    rfl

end PortTransport

end SerialLink
