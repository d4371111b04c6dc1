import Mathlib.Data.List.Perm.Basic
import SerialLink.Proofs.Scheduler.Calls
import SerialLink.Transport.Simulated

/-!
Every callback is told once. The work that was queued has left the queue or is still in it
(`Steps.work_perm`), and what leaves is told to its callback, so the callbacks of accepted commands
are those told of an outcome and those still queued (`Run.outcomes`). A callback that one call was
made with is told once if the command ended or cannot be written, and never if it was turned away
(`Run.callbacks_told_once`).
-/

namespace SerialLink

/-- The callback that is told. -/
def Completion.callback? : Completion → Option Callback
  | .command callback _ _ => some callback
  | _ => none

/-- Tells a callback that its command cannot be written. -/
def Completion.refusal (callback : Callback) : Completion := .command callback .rejected none

/-- Callbacks of the queued commands, by slot. -/
def SendQueue.callbacks (q : SendQueue) : List Callback :=
  q.items.filterMap fun item => item.origin.callback?

/-- Whoever waits for an item is the one who is told how it ended. -/
theorem Origin.callback?_outcome (origin : Origin) (status : CompletionStatus)
    (response : Option Command) :
    (origin.outcome status response).bind Completion.callback? = origin.callback? := by
  cases origin with
  | scheduler => rfl
  | caller callback => cases callback <;> rfl
  | request id => rfl

namespace Scheduler

variable {τ : Type}

/-! ### What callers gave and what they were told -/

namespace Trace

/-- Callbacks that commands were submitted with, oldest first. -/
def offered (trace : Trace τ) : List Callback :=
  trace.filterMap fun
    | (.enqueue _ callback, _) => callback
    | _ => none

/-- Callbacks of the commands for which there was no connection or no room, oldest first. -/
def turnedAway (trace : Trace τ) : List Callback :=
  trace.filterMap fun
    | (.enqueue _ callback, .queued (.error .notConnected)) => callback
    | (.enqueue _ callback, .queued (.error (.queueFull _))) => callback
    | _ => none

/-- Each call is counted in one place at most. -/
theorem count_le_offered (trace : Trace τ) (callback : Callback) :
    trace.callbacks.count callback + trace.rejected.count callback +
      trace.turnedAway.count callback ≤ trace.offered.count callback := by
  unfold callbacks rejected turnedAway offered
  induction trace with
  | nil => exact Nat.le_refl _
  | cons entry trace ih =>
    obtain ⟨act, outcome⟩ := entry
    cases act with
    | enqueue command offered =>
      rcases outcome with _ | _ | ((_ | _ | _ | _) | _) | _ | _ | _ <;> cases offered <;>
        simp only [List.filterMap_cons, List.count_cons] <;> omega
    | _ => exact ih

end Trace

namespace Deed

/-- What is told of work that was accepted, and of the link. -/
def outcomes : Deed → List Completion
  | .refused _ => []
  | deed => deed.completions

theorem completions_eq (deed : Deed) :
    deed.completions = deed.rejected.map Completion.refusal ++ deed.outcomes := by
  cases deed <;> rfl

/-- The callbacks of the items that leave are told. -/
theorem callbacks_outcomes (deed : Deed) :
    deed.outcomes.filterMap Completion.callback? =
      deed.leaving.filterMap fun item => item.origin.callback? := by
  have told (items : List QueueItem) (status : CompletionStatus) (response : Option Command) :
      (items.filterMap fun item => item.origin.outcome status response).filterMap
        Completion.callback? = items.filterMap fun item => item.origin.callback? := by
    rw [List.filterMap_filterMap]
    exact List.filterMap_congr fun item _ => item.origin.callback?_outcome status response
  cases deed with
  | ended slot item status response now =>
    have alone := told [item] status response
    have single : [item].filterMap (fun item => item.origin.outcome status response) =
        (item.origin.outcome status response).toList := by
      cases outcome : item.origin.outcome status response <;> simp [outcome]
    rwa [single] at alone
  | killed items ids status =>
    have silent : (ids.map fun id => Completion.request id status).filterMap
        Completion.callback? = [] := by
      rw [List.filterMap_map]
      exact List.filterMap_eq_nil_iff.mpr fun _ _ => rfl
    simp only [outcomes, completions, leaving]
    rw [List.filterMap_append, told, silent, List.append_nil]
  | _ => rfl

end Deed

/-! ### Runs -/

variable [Transport τ]

/-- From an empty queue on, the accepted callbacks are those that are still queued and those that
were told of an outcome. -/
theorem Steps.callbacks_perm {start s : Scheduler τ} {deeds : List Deed}
    (steps : Steps start deeds s) (empty : start.queue.items = []) :
    (deeds.flatMap Deed.callbacks).Perm
      (s.queue.callbacks ++ (deeds.flatMap Deed.outcomes).filterMap Completion.callback?) := by
  have work := steps.work_perm.filterMap fun work => work.1.callback?
  rw [empty, List.nil_append, List.filterMap_map, List.filterMap_map, List.filterMap_append,
    List.filterMap_flatMap, List.filterMap_flatMap] at work
  have outcomes : (deeds.flatMap Deed.outcomes).filterMap Completion.callback? =
      deeds.flatMap fun deed => deed.leaving.filterMap fun item => item.origin.callback? := by
    rw [List.filterMap_flatMap]
    exact congrArg deeds.flatMap (funext Deed.callbacks_outcomes)
  rw [outcomes]
  exact work.trans List.perm_append_comm

omit [Transport τ] in
theorem Fresh.items_eq {s : Scheduler τ} (fresh : s.Fresh) : s.queue.items = [] := by
  cases fresh with
  | mk => exact SendQueue.items_empty

/-- What was told is the refusals and the outcomes of accepted work, and the accepted callbacks are
those of the outcomes and those that are still queued. -/
theorem Run.outcomes {start s : Scheduler τ} {trace : Trace τ} (fresh : start.Fresh)
    (run : Run start trace s) :
    ∃ outcomes : List Completion,
      (trace.told s).Perm (trace.rejected.map Completion.refusal ++ outcomes) ∧
      trace.callbacks.Perm (s.queue.callbacks ++ outcomes.filterMap Completion.callback?) := by
  obtain ⟨deeds, steps, accounts⟩ := run.steps
  refine ⟨deeds.flatMap Deed.outcomes, ?_, ?_⟩
  · rw [accounts.told_eq fresh steps, ← accounts.rejected, List.map_flatMap]
    have each : Deed.completions = fun deed =>
        deed.rejected.map Completion.refusal ++ deed.outcomes := funext Deed.completions_eq
    rw [each]
    exact (List.flatMap_append_perm deeds _ _).symm
  · rw [← accounts.callbacks]
    exact steps.callbacks_perm fresh.items_eq

/-- **Every callback is told once.** As multisets, what was told is one refusal for each command
that cannot be written, and outcomes; and the callbacks of the accepted commands are those that
are still queued and those of the outcomes. So a callback that one call was made with is either
queued or told, once, if its command was accepted; is told of the refusal, and nothing else, if
its command cannot be written; and is never told if there was no connection or no room. -/
theorem Run.callbacks_told_once {start s : Scheduler τ} {trace : Trace τ} (fresh : start.Fresh)
    (run : Run start trace s) :
    (∃ outcomes : List Completion,
      (trace.told s).Perm (trace.rejected.map Completion.refusal ++ outcomes) ∧
      trace.callbacks.Perm (s.queue.callbacks ++ outcomes.filterMap Completion.callback?)) ∧
    ∀ callback, trace.offered.count callback = 1 →
      (callback ∈ trace.callbacks →
        (s.queue.callbacks ++ (trace.told s).filterMap Completion.callback?).count callback = 1) ∧
      (callback ∈ trace.rejected →
        (trace.told s).filter (·.callback? == some callback) = [.refusal callback]) ∧
      (callback ∈ trace.turnedAway →
        callback ∉ s.queue.callbacks ++ (trace.told s).filterMap Completion.callback?) := by
  obtain ⟨outcomes, told, accepted⟩ := run.outcomes fresh
  refine ⟨⟨outcomes, told, accepted⟩, fun callback once => ?_⟩
  have places := trace.count_le_offered callback
  rw [once] at places
  have refusals : (trace.rejected.map Completion.refusal).filterMap Completion.callback? =
      trace.rejected := by
    rw [List.filterMap_map]
    exact List.filterMap_some
  have toldCount := (told.filterMap Completion.callback?).count_eq callback
  rw [List.filterMap_append, refusals, List.count_append] at toldCount
  have acceptedCount := accepted.count_eq callback
  rw [List.count_append] at acceptedCount
  refine ⟨fun mem => ?_, fun mem => ?_, fun mem => ?_⟩
  · have := List.count_pos_iff.mpr mem
    rw [List.count_append]
    omega
  · have := List.count_pos_iff.mpr mem
    have single : ((trace.told s).filter (·.callback? == some callback)).length = 1 := by
      rw [← List.countP_eq_length_filter, ← List.count_filterMap]
      omega
    obtain ⟨completion, alone⟩ := List.length_eq_one_iff.mp single
    have listed : Completion.refusal callback ∈ trace.told s :=
      told.mem_iff.mpr (List.mem_append_left _ (List.mem_map_of_mem mem))
    have filtered : Completion.refusal callback ∈
        (trace.told s).filter (·.callback? == some callback) :=
      List.mem_filter.mpr ⟨listed, beq_self_eq_true (some callback)⟩
    rw [alone] at filtered ⊢
    rw [List.mem_singleton.mp filtered]
  · have := List.count_pos_iff.mpr mem
    rw [← List.count_eq_zero, List.count_append]
    omega

/-- A session in which a command is accepted and another cannot be written, closed before the device
has answered. One more command came before the session. -/
def closedSession : Trace SimulatedTransport × Scheduler SimulatedTransport :=
  performAll { transport := {} }
    [.enqueue { id := Command.version, values := [.u32 0] } (some ⟨3⟩), .openSession,
      .handleEvent ⟨1, .connected⟩ 0,
      .enqueue { id := Command.version, values := [.u32 0] } (some ⟨1⟩),
      .enqueue { id := 0xFF } (some ⟨2⟩), .tick 5, .closeSession, .takeCompletions]

theorem Run.callbacks_told_once_of_closedSession :
    Fresh ({ transport := {} } : Scheduler SimulatedTransport) ∧
      Run { transport := {} } closedSession.1 closedSession.2 ∧
      closedSession.1.callbacks = [⟨1⟩] ∧ closedSession.1.rejected = [⟨2⟩] ∧
      closedSession.1.turnedAway = [⟨3⟩] ∧
      (closedSession.2.queue.callbacks ++
        (closedSession.1.told closedSession.2).filterMap Completion.callback?).count ⟨1⟩ = 1 ∧
      (closedSession.1.told closedSession.2).filter (·.callback? == some ⟨2⟩) = [.refusal ⟨2⟩] ∧
      ⟨3⟩ ∉ closedSession.2.queue.callbacks ++
        (closedSession.1.told closedSession.2).filterMap Completion.callback? := by
  have fresh : Fresh ({ transport := {} } : Scheduler SimulatedTransport) := .mk _ _ _ _ _
  have run : Run { transport := {} } closedSession.1 closedSession.2 := run_performAll _ _
  have accepted : closedSession.1.callbacks = [⟨1⟩] := by rfl
  have rejected : closedSession.1.rejected = [⟨2⟩] := by rfl
  have turnedAway : closedSession.1.turnedAway = [⟨3⟩] := by rfl
  have each := (callbacks_told_once fresh run).2
  refine ⟨fresh, run, accepted, rejected, turnedAway, (each ⟨1⟩ (by rfl)).1 ?_,
    (each ⟨2⟩ (by rfl)).2.1 ?_, (each ⟨3⟩ (by rfl)).2.2 ?_⟩
  · rw [accepted]
    exact List.mem_singleton_self _
  · rw [rejected]
    exact List.mem_singleton_self _
  · rw [turnedAway]
    exact List.mem_singleton_self _

end Scheduler

end SerialLink
