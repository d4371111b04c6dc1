import SerialLink.Proofs.Scheduler.Calls
import SerialLink.Proofs.Scheduler.Ring
import SerialLink.Transport.Simulated

/-!
Bulk requests end once and in order. The requests that were accepted are those that have ended, the
one that is queued and those that wait in the ring, in this order (`Run.requests_in_order`). A
request is queued only when no other is, so every step takes the oldest or adds behind the newest
(`Step.requests_eq`). A request is refused for want of a command that can be written only
(`Step.unwritable_of_rejected`): what is queued can be written, and a full queue leaves the request
in the ring. Its command is asked of the resolver that was set last (`Run.resolve_eq`).
-/

namespace SerialLink

/-- The bulk request that is carried, if one is. -/
def Origin.request? : Origin → Option RequestId
  | .request id => some id
  | _ => none

/-- The bulk request that has ended. -/
def Completion.request? : Completion → Option RequestId
  | .request id _ => some id
  | _ => none

/-- Bulk requests that are carried by queued commands, by slot. -/
def SendQueue.requests (q : SendQueue) : List RequestId :=
  q.items.filterMap fun item => item.origin.request?

theorem SendQueue.requests_empty : ({} : SendQueue).requests = [] := by
  rw [requests, items_empty, List.filterMap_nil]

/-- The request that an item carries is the one whose end is told. -/
theorem Origin.request?_outcome (origin : Origin) (status : CompletionStatus)
    (response : Option Command) :
    (origin.outcome status response).bind Completion.request? = origin.request? := by
  cases origin with
  | scheduler => rfl
  | caller callback => cases callback <;> rfl
  | request id => rfl

/-- The requests that items carry are those whose ends are told. -/
theorem requests_of_outcomes (items : List QueueItem) (status : CompletionStatus)
    (response : Option Command) :
    (items.filterMap fun item => item.origin.outcome status response).filterMap
      Completion.request? = items.filterMap fun item => item.origin.request? := by
  rw [List.filterMap_filterMap]
  exact List.filterMap_congr fun item _ => item.origin.request?_outcome status response

theorem Origin.status_of_outcome {origin : Origin} {status told : CompletionStatus}
    {response : Option Command} {id : RequestId}
    (outcome : origin.outcome status response = some (.request id told)) : told = status := by
  cases origin with
  | scheduler => cases outcome
  | caller callback => cases callback <;> cases outcome
  | request id =>
    cases outcome
    rfl

namespace Scheduler

/-! ### Requests whose ends are told -/

theorem Deed.requests_ended (slot : Nat) (item : QueueItem) (status : CompletionStatus)
    (response : Option Command) (now : Nat) :
    (Deed.ended slot item status response now).completions.filterMap Completion.request? =
      [item].filterMap fun item => item.origin.request? := by
  rw [← requests_of_outcomes [item] status response]
  cases outcome : item.origin.outcome status response <;> simp [Deed.completions, outcome]

theorem Deed.requests_killed (items : List QueueItem) (ids : List RequestId)
    (status : CompletionStatus) :
    (Deed.killed items ids status).completions.filterMap Completion.request? =
      (items.filterMap fun item => item.origin.request?) ++ ids := by
  have waiting : (ids.map fun id => Completion.request id status).filterMap
      Completion.request? = ids := by
    rw [List.filterMap_map]
    exact List.filterMap_some
  unfold Deed.completions
  rw [List.filterMap_append, requests_of_outcomes, waiting]

/-! ### Requests in the queue -/

theorem QueueStep.requests_perm {q q' : SendQueue} {deed : Deed} (step : QueueStep q deed q') :
    (q.requests ++ deed.entering.filterMap fun item => item.origin.request?).Perm
      ((deed.leaving.filterMap fun item => item.origin.request?) ++ q'.requests) := by
  have work := step.work_perm.filterMap fun work => work.1.request?
  rwa [List.filterMap_map, List.filterMap_map, List.filterMap_append, List.filterMap_append]
    at work

/-- Lists that have the same elements are the same, if these are no more than one. -/
theorem eq_of_perm_of_length_le {ids ids' : List RequestId} (perm : ids.Perm ids')
    (single : ids.length ≤ 1) : ids = ids' := by
  match ids, single with
  | [], _ => exact perm.nil_eq
  | [id], _ => exact List.singleton_perm.mp perm

variable {τ : Type}

theorem requests_eq_nil {s : Scheduler τ} (none : s.requestQueued = false) :
    s.queue.requests = [] := by
  unfold requestQueued at none
  refine List.filterMap_eq_nil_iff.mpr fun item mem => ?_
  have other := List.any_eq_false.mp none item mem
  cases origin : item.origin with
  | request id =>
    rw [origin] at other
    exact absurd rfl other
  | _ => rfl

theorem requests_eq_nil_of_ready {s : Scheduler τ} (ready : s.requestReady = true) :
    s.queue.requests = [] := by
  refine requests_eq_nil ?_
  unfold requestReady at ready
  simpa using (Bool.and_eq_true_iff.mp ready).2

/-! ### Requests that have not ended -/

/-- The requests that have not ended, oldest first. -/
def outstanding (s : Scheduler τ) : List RequestId := s.queue.requests ++ s.pending.toList

/-- The requests can be told in order. -/
structure Ordered (s : Scheduler τ) : Prop where
  ring : s.pending.WellFormed
  single : s.queue.requests.length ≤ 1

theorem Fresh.ordered {s : Scheduler τ} (fresh : s.Fresh) : s.Ordered ∧ s.outstanding = [] := by
  cases fresh with
  | mk =>
    refine ⟨⟨PendingRing.wellFormed_empty, ?_⟩, ?_⟩
    · rw [SendQueue.requests_empty]
      exact Nat.zero_le _
    · rw [outstanding, SendQueue.requests_empty]
      rfl

/-- A step that leaves the ring alone and queues no request. -/
theorem QueueStep.requests_eq {s s' : Scheduler τ} {deed : Deed}
    (step : QueueStep s.queue deed s'.queue) (ordered : s.Ordered) (ring : s'.pending = s.pending)
    (apart : deed.entering.filterMap (fun item => item.origin.request?) = []) :
    s.outstanding =
        (deed.leaving.filterMap fun item => item.origin.request?) ++ s'.outstanding ∧
      s'.Ordered := by
  have perm := step.requests_perm
  rw [apart, List.append_nil] at perm
  have same := eq_of_perm_of_length_le perm ordered.single
  refine ⟨?_, ?_, ?_⟩
  · unfold outstanding
    rw [same, ring, List.append_assoc]
  · rw [ring]
    exact ordered.ring
  · have single := ordered.single
    rw [same, List.length_append] at single
    omega

variable [Transport τ]

/-- Of the requests that have not ended, each step tells the oldest, and what it accepts comes
last. -/
theorem Step.requests_eq {s s' : Scheduler τ} {deed : Deed} (step : Step s deed s')
    (ordered : s.Ordered) :
    s.outstanding ++ deed.requests =
        deed.completions.filterMap Completion.request? ++ s'.outstanding ∧
      s'.Ordered := by
  have queueStep := step.queueStep
  cases step with
  | quiet aside =>
    obtain ⟨-, -, ring, -⟩ := aside.work_eq
    obtain ⟨same, kept⟩ := queueStep.requests_eq ordered ring rfl
    exact ⟨(List.append_nil _).trans same, kept⟩
  | submit connected pushed =>
    obtain ⟨ring, all⟩ := ordered.ring.push? pushed
    refine ⟨?_, ring, ordered.single⟩
    unfold outstanding
    rw [all]
    exact List.append_assoc _ _ _
  | @queueRequest id pending command handle queue wake operational ready popped resolved
      inserted =>
    have none := requests_eq_nil_of_ready ready
    obtain ⟨ring, all⟩ := ordered.ring.pop
    rw [popped] at ring all
    have entered := queueStep.requests_perm
    rw [none] at entered
    have alone : [id] = queue.requests := List.singleton_perm.mp entered
    refine ⟨?_, ring, ?_⟩
    · change s.queue.requests ++ s.pending.toList ++ [] = queue.requests ++ pending.toList
      rw [none, all, ← alone, List.append_nil]
      rfl
    · change queue.requests.length ≤ 1
      rw [← alone]
      exact Nat.le_refl 1
  | dropRequest operational ready popped unresolved =>
    have none := requests_eq_nil_of_ready ready
    obtain ⟨ring, all⟩ := ordered.ring.pop
    rw [popped] at ring all
    refine ⟨?_, ring, ordered.single⟩
    change s.queue.requests ++ s.pending.toList ++ [] = [_] ++ (s.queue.requests ++ _)
    rw [none, all, List.append_nil]
    rfl
  | skipRequest ready popped =>
    obtain ⟨-, rfl⟩ := ordered.ring.length_of_pop_eq_none popped
    exact ⟨List.append_nil _, ordered⟩
  | kill status =>
    obtain ⟨drained, ring, none⟩ := ordered.ring.drain
    have emptied : (s.killAll status).queue.requests = [] := SendQueue.requests_empty
    refine ⟨?_, ring, ?_⟩
    · rw [Deed.requests_killed, drained]
      unfold outstanding
      rw [emptied]
      change _ ++ [] = _ ++ ([] ++ s.pending.drain.2.toList)
      rw [none, List.append_nil, List.append_nil, List.append_nil]
      rfl
    · rw [emptied]
      exact Nat.zero_le _
  | discard | giveUp | confirm =>
    obtain ⟨same, kept⟩ := queueStep.requests_eq ordered rfl rfl
    rw [Deed.requests_ended]
    exact ⟨(List.append_nil _).trans same, kept⟩
  | _ =>
    obtain ⟨same, kept⟩ := queueStep.requests_eq ordered rfl rfl
    exact ⟨(List.append_nil _).trans same, kept⟩

theorem Steps.requests_eq {s s' : Scheduler τ} {deeds : List Deed} (steps : Steps s deeds s')
    (ordered : s.Ordered) :
    s.outstanding ++ deeds.flatMap Deed.requests =
        (deeds.flatMap Deed.completions).filterMap Completion.request? ++ s'.outstanding ∧
      s'.Ordered := by
  induction steps with
  | nil s => exact ⟨List.append_nil _, ordered⟩
  | cons step rest ih =>
    obtain ⟨first, kept⟩ := step.requests_eq ordered
    obtain ⟨later, kept⟩ := ih kept
    refine ⟨?_, kept⟩
    rw [List.flatMap_cons, List.flatMap_cons, List.filterMap_append, ← List.append_assoc, first,
      List.append_assoc, later, List.append_assoc]

/-! ### Refusals -/

/-- The request has no command that can be written. -/
def Unwritable (s : Scheduler τ) (id : RequestId) : Prop :=
  ∀ command, s.resolve id = some command →
    ∃ cause, s.table.encode command Command.maxLength = .error cause

/-- A request is refused if its command cannot be written, or because everything is. -/
theorem Step.unwritable_of_rejected {s s' : Scheduler τ} {deed : Deed} (step : Step s deed s')
    (writable : s.Writable) {id : RequestId}
    (told : .request id .rejected ∈ deed.completions) :
    s.Unwritable id ∨ ∃ items ids, deed = .killed items ids .rejected := by
  have ended {item : QueueItem} {status : CompletionStatus} {response : Option Command}
      (told : .request id .rejected ∈ (item.origin.outcome status response).toList) :
      status = .rejected :=
    (Origin.status_of_outcome (Option.mem_toList.mp told)).symm
  cases step with
  | dropRequest operational ready popped unresolved =>
    cases List.mem_singleton.mp told
    exact .inl unresolved
  | discard now operational held unwritable =>
    -- What is queued can be written.
    obtain ⟨payload, written⟩ := writable held
    rw [unwritable] at written
    cases written
  | giveUp => cases ended told
  | confirm => cases ended told
  | kill status =>
    right
    have same : status = .rejected := by
      rcases List.mem_append.mp told with carried | waiting
      · obtain ⟨item, -, outcome⟩ := List.mem_filterMap.mp carried
        exact (Origin.status_of_outcome outcome).symm
      · obtain ⟨other, -, eq⟩ := List.mem_map.mp waiting
        cases eq
        rfl
    exact ⟨_, _, by rw [same]⟩
  | refuse | disconnect | connect | bootloader | statusChange | hear =>
    cases List.mem_singleton.mp told
  | _ => cases told

theorem Steps.unwritable_of_rejected {s s' : Scheduler τ} {deeds : List Deed}
    (steps : Steps s deeds s') (writable : s.Writable) {id : RequestId}
    (kept : ∀ deed ∈ deeds, deed ≠ .resolverSet)
    (told : .request id .rejected ∈ deeds.flatMap Deed.completions) :
    s.Unwritable id ∨ ∃ items ids, .killed items ids .rejected ∈ deeds := by
  induction steps with
  | nil s => cases told
  | cons step rest ih =>
    obtain ⟨still, kept⟩ := List.forall_mem_cons.mp kept
    rw [List.flatMap_cons] at told
    rcases List.mem_append.mp told with first | later
    · rcases step.unwritable_of_rejected writable first with unwritable | ⟨items, ids, rfl⟩
      · exact .inl unwritable
      · exact .inr ⟨items, ids, List.mem_cons_self⟩
    · obtain ⟨-, table⟩ := step.made_eq
      rcases ih (step.writable writable) kept later with unwritable | ⟨items, ids, mem⟩
      · left
        unfold Unwritable at unwritable ⊢
        rwa [table, step.resolve_eq still] at unwritable
      · exact .inr ⟨items, ids, List.mem_cons_of_mem _ mem⟩

/-! ### Runs -/

omit [Transport τ] in
/-- No other call sets the resolver. -/
theorem Accounts.resolver_kept {act : Act τ} {outcome : Outcome} {deeds : List Deed}
    (accounts : Accounts [(act, outcome)] deeds)
    (other : ∀ resolve, act ≠ .setResolver resolve) : ∀ deed ∈ deeds, deed ≠ .resolverSet := by
  rintro deed mem rfl
  obtain ⟨resolve, eq⟩ := accounts.permits mem
  exact other resolve eq

/-- The resolver in use is the one that was set last. -/
theorem Run.resolve_eq {start s : Scheduler τ} {trace : Trace τ} (run : Run start trace s) :
    s.resolve = trace.resolver start.resolve := by
  induction run with
  | nil => rfl
  | @snoc trace s run act ih =>
    obtain ⟨deeds, steps, accounts⟩ := s.perform_steps act
    unfold Trace.resolver at ih ⊢
    rw [List.filterMap_append]
    cases act with
    | setResolver resolve => exact (List.getLastD_concat ..).symm
    | _ =>
      simp only [List.filterMap_cons, List.filterMap_nil, List.append_nil]
      exact (steps.resolve_eq (accounts.resolver_kept nofun)).trans ih

/-- Unless it fails everything, a call refuses no request whose command can be written. -/
theorem perform_refuses {s : Scheduler τ} {act : Act τ} (writable : s.Writable)
    (other : ∀ status, act ≠ .killAll status) :
    ∃ deeds : List Deed, Steps s deeds (s.perform act).2 ∧
      Accounts [(act, (s.perform act).1)] deeds ∧
      ∀ id, .request id .rejected ∈ deeds.flatMap Deed.completions → s.Unwritable id := by
  by_cases sets : ∃ resolve, act = .setResolver resolve
  · obtain ⟨resolve, rfl⟩ := sets
    have permitted : (.setResolver resolve : Act τ).Permits .resolverSet := ⟨resolve, rfl⟩
    have each := permitted_of_act .nothing (List.forall_mem_singleton.mpr permitted)
    exact ⟨[.resolverSet], .cons (.setResolver s resolve) (.nil _), ⟨rfl, rfl, rfl, rfl, each⟩,
      fun _ told => absurd told List.not_mem_nil⟩
  · obtain ⟨deeds, steps, accounts⟩ := s.perform_steps act
    have kept := accounts.resolver_kept fun resolve eq => sets ⟨resolve, eq⟩
    refine ⟨deeds, steps, accounts, fun id told => ?_⟩
    rcases steps.unwritable_of_rejected writable kept told with unwritable | ⟨items, ids, mem⟩
    · exact unwritable
    · rcases accounts.permits mem with ends | eq
      · cases ends
      · exact absurd eq (other _)

/-- **Bulk requests end once and in order.** Whatever has been done to a scheduler, the requests
that were accepted are those that were told to have ended, the one that is queued, if one is, and
those that wait in the ring, in this order and from the oldest to the newest. Of the calls that may
follow, none tells that a request was refused if the resolver that was set last has a command for it
that can be written, unless it is the call that fails everything. -/
theorem Run.requests_in_order {start s : Scheduler τ} {trace : Trace τ} (fresh : start.Fresh)
    (run : Run start trace s) :
    trace.requests =
        (trace.told s).filterMap Completion.request? ++ s.queue.requests ++ s.pending.toList ∧
      s.queue.requests.length ≤ 1 ∧
      ∀ act : Act τ, (∀ status, act ≠ .killAll status) →
        ∃ told : List Completion,
          Trace.told (trace ++ [(act, (s.perform act).1)]) (s.perform act).2 =
            trace.told s ++ told ∧
          ∀ id, .request id .rejected ∈ told →
            ∀ command, trace.resolver start.resolve id = some command →
              ∃ cause, start.table.encode command Command.maxLength = .error cause := by
  obtain ⟨deeds, steps, accounts⟩ := run.steps
  obtain ⟨ordered, empty⟩ := fresh.ordered
  obtain ⟨all, ordered⟩ := steps.requests_eq ordered
  refine ⟨?_, ordered.single, fun act other => ?_⟩
  · rw [empty, List.nil_append, accounts.requests, ← accounts.told_eq fresh steps] at all
    rw [List.append_assoc]
    exact all
  · obtain ⟨later, steps', accounts', refused⟩ := perform_refuses (run.writable fresh) other
    have before := accounts.told_eq fresh steps
    have after := (accounts.append accounts').told_eq fresh (steps.append steps')
    refine ⟨later.flatMap Deed.completions, ?_, fun id told command resolved => ?_⟩
    · rw [after, before, List.flatMap_append]
    · obtain ⟨-, table⟩ := steps.made_eq
      rw [← run.resolve_eq] at resolved
      rw [← table]
      exact refused id told command resolved

/-- A scheduler with a command for every request. -/
def resolving : Scheduler SimulatedTransport where
  transport := { autoConnect := true }
  resolve _ := some { id := Command.version, values := [.u32 0] }

/-- The first request has been confirmed. The next one has lost its command meanwhile, and it is its
turn. -/
def refusalDue : Trace SimulatedTransport × Scheduler SimulatedTransport :=
  performAll resolving
    [.openSession, .handleEvent ⟨1, .connected⟩ 0,
      .changeTransport fun t => t.arriveCommand
        { id := Command.deviceStatusChanged, values := [.u8 0x22, .u8 0] },
      .processInbound 1, .submitRequest ⟨0⟩, .submitRequest ⟨1⟩, .submitRequest ⟨2⟩, .tick 2,
      .tick 3,
      .changeTransport fun t => t.arriveCommand
        { id := Command.version, seq := 2, values := [.u32 0] },
      .processInbound 4,
      .setResolver fun id => if id = ⟨1⟩ then none else resolving.resolve id]

theorem Run.requests_in_order_of_refusalDue :
    Fresh resolving ∧ Run resolving refusalDue.1 refusalDue.2 ∧
      refusalDue.1.requests = (refusalDue.1.told refusalDue.2).filterMap Completion.request? ++
        refusalDue.2.queue.requests ++ refusalDue.2.pending.toList ∧
      (refusalDue.1.told refusalDue.2).filterMap Completion.request? = [⟨0⟩] ∧
      refusalDue.2.queue.requests.length ≤ 1 ∧ refusalDue.2.pending.toList = [⟨1⟩, ⟨2⟩] ∧
      .request ⟨1⟩ .rejected ∈ (refusalDue.2.tick 5).2.completions ∧
      refusalDue.1.resolver resolving.resolve ⟨1⟩ = none ∧
      ∃ told : List Completion,
        Trace.told (refusalDue.1 ++ [(.tick 5, (refusalDue.2.perform (.tick 5)).1)])
            (refusalDue.2.perform (.tick 5)).2 = refusalDue.1.told refusalDue.2 ++ told ∧
          ∀ id, .request id .rejected ∈ told →
            ∀ command, refusalDue.1.resolver resolving.resolve id = some command →
              ∃ cause, resolving.table.encode command Command.maxLength = .error cause := by
  have fresh : Fresh resolving := .mk _ _ _ _ _
  have run : Run resolving refusalDue.1 refusalDue.2 := run_performAll _ _
  obtain ⟨inOrder, single, refusals⟩ := requests_in_order fresh run
  exact ⟨fresh, run, inOrder, by decide +kernel, single, by decide +kernel, by decide +kernel,
    by decide +kernel, refusals (.tick 5) nofun⟩

end Scheduler

end SerialLink
