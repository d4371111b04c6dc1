import SerialLink.Proofs.Scheduler.Sessions

/-!
Refused work. There are three reasons to refuse a command (`Refuses`), asked for in a fixed order,
and one of them holds exactly if the command is not queued (`enqueue_ok_iff`). All of them are known
before a slot or a sequence number is taken: once the queue has room, the insertion finds a slot. So
a scheduler that has refused a command or a bulk request differs from the one before in what is told
and in the metrics only (`enqueue_eq_error`, `submitRequest_eq_error`).
-/

namespace SerialLink

/-- What is told about a refused command beside the fault that is returned. -/
def ScheduleFault.told (callback : Option Callback) : ScheduleFault → List Completion
  | .rejected _ => callback.toList.map fun callback => .command callback .rejected none
  | _ => []

namespace Scheduler

variable {τ : Type}

/-- The metrics once a refusal has been counted under its reason. Without a connection nothing is
counted. -/
def metricsAfter (s : Scheduler τ) : ScheduleFault → Recording
  | .notConnected => s.metrics
  | .rejected _ => (s.countReason .rejected "encode").metrics
  | .queueFull _ => (s.countReason .rejected "queue_full").metrics
  | .pendingFull _ => (s.countReason .rejected "pending_full").metrics

/-- Why a command is refused. What cannot be written is refused as such, whether there is a slot
for it or not. -/
inductive Refuses (s : Scheduler τ) (command : Command) : ScheduleFault → Prop where
  | notConnected (off : s.connection = .off) : Refuses s command .notConnected
  | rejected {cause : EncodeError} (connected : s.connection ≠ .off)
    (unwritable : s.table.encode command Command.maxLength = .error cause) :
    Refuses s command (.rejected cause)
  | queueFull {payload : Bytes} (connected : s.connection ≠ .off)
    (written : s.table.encode command Command.maxLength = .ok payload)
    (full : s.queue.isFull = true) : Refuses s command (.queueFull SendQueue.capacity)

/-! ### Commands -/

theorem enqueue_eq_error {s s' : Scheduler τ} {command : Command} {callback : Option Callback}
    {fault : ScheduleFault} (refused : s.enqueue command callback = (.error fault, s')) :
    s.Refuses command fault ∧
      s' = { s with
        completions := s.completions ++ fault.told callback
        metrics := s.metricsAfter fault } := by
  unfold enqueue at refused
  by_cases off : s.connection = .off
  · rw [if_pos off] at refused
    cases refused
    constructor
    · exact .notConnected off
    · simp only [ScheduleFault.told, List.append_nil]
      rfl
  rw [if_neg off] at refused
  cases inserted : s.insert command (.caller callback) with
  | mk result after =>
    rw [inserted] at refused
    cases result with
    | ok handle => cases refused
    | error cause =>
      obtain ⟨rfl, ⟨cause, unwritable, rfl⟩ | ⟨⟨payload, written⟩, full, rfl⟩⟩ :=
        insert_eq_error inserted
      · cases refused
        constructor
        · exact .rejected off unwritable
        · cases callback <;> rfl
      · cases refused
        constructor
        · exact .queueFull off written full
        · simp only [ScheduleFault.told, List.append_nil]
          rfl

theorem enqueue_eq_ok {s s' : Scheduler τ} {command : Command} {callback : Option Callback}
    {handle : ItemHandle} (accepted : s.enqueue command callback = (.ok handle, s')) :
    s.connection ≠ .off ∧ s.insert command (.caller callback) = (.ok handle, s') := by
  unfold enqueue at accepted
  by_cases off : s.connection = .off
  · rw [if_pos off] at accepted
    cases accepted
  rw [if_neg off] at accepted
  cases inserted : s.insert command (.caller callback) with
  | mk result after =>
    rw [inserted] at accepted
    cases result with
    | ok handle =>
      cases accepted
      exact ⟨off, rfl⟩
    | error fault => cases fault <;> cases accepted

/-- A command is queued exactly if there is no reason to refuse it. -/
theorem enqueue_ok_iff {s : Scheduler τ} {command : Command} {callback : Option Callback} :
    (∃ handle, (s.enqueue command callback).1 = .ok handle) ↔
      s.connection ≠ .off ∧
        (∃ payload, s.table.encode command Command.maxLength = .ok payload) ∧
        ∃ slot < SendQueue.capacity, s.queue.get? slot = none := by
  constructor
  · rintro ⟨handle, accepted⟩
    obtain ⟨connected, inserted⟩ := enqueue_eq_ok (Prod.ext accepted rfl)
    obtain ⟨payload, _, _, written, room, -⟩ := insert_eq_ok inserted
    exact ⟨connected, ⟨payload, written⟩, SendQueue.isFull_eq_false_iff.mp room⟩
  · rintro ⟨connected, ⟨payload, written⟩, free⟩
    have room := SendQueue.isFull_eq_false_iff.mpr free
    cases result : s.enqueue command callback with
    | mk outcome after =>
      cases outcome with
      | ok handle => exact ⟨handle, rfl⟩
      | error fault =>
        -- None of the three reasons holds.
        obtain ⟨reason, -⟩ := enqueue_eq_error result
        cases reason with
        | notConnected off => exact absurd off connected
        | rejected _ unwritable => cases written.symm.trans unwritable
        | queueFull _ _ full => cases room.symm.trans full

/-- In a connection, a command that cannot be written is refused for that, whether there is a slot
for it or not. -/
theorem enqueue_of_unwritable {s : Scheduler τ} {command : Command} {callback : Option Callback}
    {cause : EncodeError} (connected : s.connection ≠ .off)
    (unwritable : s.table.encode command Command.maxLength = .error cause) :
    (s.enqueue command callback).1 = .error (.rejected cause) := by
  unfold enqueue insert
  rw [if_neg connected, unwritable]

/-! ### Bulk requests -/

theorem submitRequest_eq_error {s s' : Scheduler τ} {id : RequestId} {fault : ScheduleFault}
    (refused : s.submitRequest id = (.error fault, s')) :
    (s.connection = .off ∧ fault = .notConnected ∨
        s.pending.isFull = true ∧ fault = .pendingFull PendingRing.capacity) ∧
      s' = { s with metrics := s.metricsAfter fault } := by
  unfold submitRequest at refused
  by_cases off : s.connection = .off
  · rw [if_pos off] at refused
    cases refused
    exact ⟨.inl ⟨off, rfl⟩, rfl⟩
  rw [if_neg off] at refused
  unfold PendingRing.push? at refused
  by_cases full : s.pending.isFull = true
  · rw [if_pos full] at refused
    cases refused
    exact ⟨.inr ⟨full, rfl⟩, rfl⟩
  · rw [if_neg full] at refused
    cases refused

/-! ### Runs -/

variable [Transport τ]

/-- **A refused submission leaves no trace.** A command that is refused is refused because there is
no connection, because it cannot be written, or because all slots are taken. The scheduler is then
as it was, with its queue, its ring, its numbering and all that it keeps of the link. But in a
connection the refusal is counted, and if the command cannot be written, its callback is told so,
once. After a bulk request that is refused, only the metrics may differ. A command that cannot be
written is refused for that even while all slots are taken, for slots are taken in a connection
only. A command is accepted exactly if there is a connection, it can be written and a slot is
free. -/
theorem Run.refusals_leave_no_trace {start s : Scheduler τ} {trace : Trace τ}
    (fresh : start.Fresh) (run : Run start trace s) :
    (∀ (command : Command) (callback : Option Callback) (fault : ScheduleFault)
        (s' : Scheduler τ), s.enqueue command callback = (.error fault, s') →
      s.Refuses command fault ∧
        s' = { s with
          completions := s.completions ++ fault.told callback
          metrics := s.metricsAfter fault }) ∧
    (∀ (id : RequestId) (fault : ScheduleFault) (s' : Scheduler τ),
      s.submitRequest id = (.error fault, s') →
        s' = { s with metrics := s.metricsAfter fault }) ∧
    (∀ (command : Command) (callback : Option Callback) (cause : EncodeError),
      s.table.encode command Command.maxLength = .error cause → s.queue.isFull = true →
        (s.enqueue command callback).1 = .error (.rejected cause)) ∧
    ∀ (command : Command) (callback : Option Callback),
      (∃ handle, (s.enqueue command callback).1 = .ok handle) ↔
        s.connection ≠ .off ∧
          (∃ payload, s.table.encode command Command.maxLength = .ok payload) ∧
          ∃ slot < SendQueue.capacity, s.queue.get? slot = none := by
  refine ⟨fun _ _ _ _ => enqueue_eq_error, ?requests, ?both, fun _ _ => enqueue_ok_iff⟩
  case requests =>
    intro id fault s' refused
    exact (submitRequest_eq_error refused).2
  case both =>
    intro command callback cause unwritable full
    have taken : (s.queue.get? 0).isSome = true := List.all_eq_true.mp full 0 (by simp)
    obtain ⟨item, held⟩ := Option.isSome_iff_exists.mp taken
    obtain ⟨connected, -⟩ := run.connected_of_held fresh held
    exact enqueue_of_unwritable connected unwritable

/-- All slots are taken, and all places of the ring. -/
def noRoom : Trace SimulatedTransport × Scheduler SimulatedTransport :=
  performAll { transport := { autoConnect := true } }
    ([.openSession, .handleEvent ⟨1, .connected⟩ 0] ++
      List.replicate 32 (.enqueue { id := Command.version, values := [.u32 0] } none) ++
      List.replicate 16 (.submitRequest ⟨7⟩))

theorem Run.refusals_leave_no_trace_of_noRoom :
    let bad : Command := { id := Command.version, values := [.u8 0] }
    let fault := ScheduleFault.rejected (.layoutMismatch 0)
    Fresh ({ transport := { autoConnect := true } } : Scheduler SimulatedTransport) ∧
      Run { transport := { autoConnect := true } } noRoom.1 noRoom.2 ∧
      noRoom.2.queue.isFull = true ∧
      noRoom.2.enqueue bad (some ⟨1⟩) = (.error fault, { noRoom.2 with
        completions := noRoom.2.completions ++ [.command ⟨1⟩ .rejected none]
        metrics := (noRoom.2.countReason .rejected "encode").metrics }) ∧
      noRoom.2.submitRequest ⟨8⟩ = (.error (.pendingFull 16), { noRoom.2 with
        metrics := (noRoom.2.countReason .rejected "pending_full").metrics }) := by
  intro bad fault
  have fresh : Fresh ({ transport := { autoConnect := true } } : Scheduler SimulatedTransport) :=
    .mk _ _ _ _ _
  have run : Run { transport := { autoConnect := true } } noRoom.1 noRoom.2 := run_performAll _ _
  obtain ⟨commands, requests, both, -⟩ := refusals_leave_no_trace fresh run
  have full : noRoom.2.queue.isFull = true := by decide +kernel
  have unwritable : noRoom.2.table.encode bad Command.maxLength = .error (.layoutMismatch 0) := by
    decide +kernel
  have rejected : (noRoom.2.enqueue bad (some ⟨1⟩)).1 = .error fault :=
    both bad (some ⟨1⟩) _ unwritable full
  have turnedAway : (noRoom.2.submitRequest ⟨8⟩).1 = .error (.pendingFull 16) := by
    decide +kernel
  refine ⟨fresh, run, full, Prod.ext rejected ?_, Prod.ext turnedAway ?_⟩
  · exact (commands bad (some ⟨1⟩) fault _ (Prod.ext rejected rfl)).2
  · exact requests ⟨8⟩ _ _ (Prod.ext turnedAway rfl)

end Scheduler

end SerialLink
