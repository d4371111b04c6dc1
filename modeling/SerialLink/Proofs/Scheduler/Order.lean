import SerialLink.Proofs.Scheduler.Deadline
import SerialLink.Proofs.Scheduler.History

/-!
The order in which commands are sent for the first time. The search for an item to send passes the
slots from the send pointer on, so of two items that wait, the one that it meets first is sent
first, whatever happens to the others (`Run.sends_by_lead`). An item that is submitted takes the
first free slot from the write pointer on. That slot may lie before one that was filled earlier, and
then the later command is sent first (`Run.later_first_of_refilledSlots`).
-/

namespace SerialLink

namespace SendQueue

variable {q : SendQueue}

/-- How many slots the search for an item to send passes before this one. -/
def lead (q : SendQueue) (slot : Nat) : Nat := (slot + capacity - q.send % capacity) % capacity

/-- The search is at this slot after so many others. -/
theorem add_lead {slot : Nat} (inside : slot < capacity) :
    (q.send + q.lead slot) % capacity = slot := by
  unfold lead
  simp only [capacity] at inside ⊢
  omega

theorem lead_inj {i j : Nat} (insideI : i < capacity) (insideJ : j < capacity)
    (same : q.lead i = q.lead j) : i = j := by
  rw [← add_lead (q := q) insideI, ← add_lead (q := q) insideJ, same]

/-- The item that is sent is the first that the search meets. -/
theorem lead_le_of_nextToSend? {slot other : Nat} {item : QueueItem}
    (next : q.nextToSend? = some slot) (held : q.get? other = some item)
    (waits : item.state = .waitSend) : q.lead slot ≤ q.lead other := by
  obtain ⟨step, inside, rfl, -, first⟩ := nextToSend?_eq_some_iff.mp next
  have passed : q.lead ((q.send + step) % capacity) = step := by
    unfold lead
    simp only [capacity] at inside ⊢
    omega
  rw [passed]
  by_contra sooner
  refine first (q.lead other) (Nat.lt_of_not_le sooner) ⟨item, ?_, waits⟩
  rw [add_lead (lt_of_get? held)]
  exact held

/-- Once an item has been sent, the search meets those behind it in the same order as before. -/
theorem lead_markSent {slot i j : Nat} (behind : q.lead slot < q.lead i)
    (order : q.lead i < q.lead j) : (q.markSent slot).lead i < (q.markSent slot).lead j := by
  unfold lead markSent at *
  simp only [capacity] at *
  omega

end SendQueue

namespace Scheduler

/-- Among the deeds is one by which the transport took the frame of this item. -/
def Sent (slot : Nat) (item : QueueItem) (deeds : List Deed) : Prop :=
  ∃ frame now, .sent slot item frame now ∈ deeds

/-- Not everything outstanding was failed in the course of these deeds. -/
def Unbroken (deeds : List Deed) : Prop :=
  ∀ items ids status, .killed items ids status ∉ deeds

theorem Unbroken.tail {deed : Deed} {deeds : List Deed} (unbroken : Unbroken (deed :: deeds)) :
    Unbroken deeds :=
  fun items ids status mem => unbroken items ids status (List.mem_cons_of_mem _ mem)

theorem Unbroken.left {first second : List Deed} (unbroken : Unbroken (first ++ second)) :
    Unbroken first :=
  fun items ids status mem => unbroken items ids status (List.mem_append_left _ mem)

theorem Unbroken.right {first second : List Deed} (unbroken : Unbroken (first ++ second)) :
    Unbroken second :=
  fun items ids status mem => unbroken items ids status (List.mem_append_right _ mem)

theorem Sent.cons {slot : Nat} {item : QueueItem} {deeds : List Deed} (sent : Sent slot item deeds)
    (deed : Deed) : Sent slot item (deed :: deeds) := by
  obtain ⟨frame, now, mem⟩ := sent
  exact ⟨frame, now, List.mem_cons_of_mem _ mem⟩

theorem Sent.of_cons {slot : Nat} {item : QueueItem} {deed : Deed} {deeds : List Deed}
    (sent : Sent slot item (deed :: deeds))
    (other : ∀ frame now, deed ≠ .sent slot item frame now) :
    Sent slot item deeds := by
  obtain ⟨frame, now, mem⟩ := sent
  rcases List.mem_cons.mp mem with eq | mem
  · exact absurd eq.symm (other frame now)
  · exact ⟨frame, now, mem⟩

variable {τ : Type}

/-- The item in the slot waits to be sent. -/
structure Waiting (s : Scheduler τ) (slot : Nat) (item : QueueItem) : Prop where
  held : s.queue.get? slot = some item
  state : item.state = .waitSend

variable [Transport τ] {s s' : Scheduler τ}

/-- An item that waits to be sent stays as it is until it is sent or everything is failed. -/
theorem Step.waiting {deed : Deed} {slot : Nat} {item : QueueItem} (step : Step s deed s')
    (writable : s.Writable) (waiting : s.Waiting slot item) :
    s'.Waiting slot item ∨ (∃ frame now, deed = .sent slot item frame now) ∨
      ∃ items ids status, deed = .killed items ids status := by
  obtain ⟨held, waits⟩ := waiting
  have timely (now : Nat) : s.overdue now item = false := by
    simp [Scheduler.overdue, waits]
  rcases step.queueStep.stays held with
    kept | sent | ⟨now, rfl⟩ | ⟨status, response, now, rfl⟩ | killed
  · exact .inl ⟨kept, waits⟩
  · exact .inr (.inl sent)
  · cases step with
    | retry _ _ overdue => exact absurd ((timely now).symm.trans overdue) Bool.false_ne_true
  · -- What waits to be sent can be written, is not overdue and is not what a confirm is for.
    cases step with
    | discard _ _ _ unwritable =>
      obtain ⟨payload, written⟩ := writable held
      cases written.symm.trans unwritable
    | giveUp _ _ overdue => exact absurd ((timely now).symm.trans overdue) Bool.false_ne_true
    | confirm found held' =>
      obtain ⟨other, held'', awaits⟩ := SendQueue.awaits_of_findConfirm? found
      cases held.symm.trans held''
      have state := (of_decide_eq_true awaits).1
      cases waits.symm.trans state
  · exact .inr (.inr killed)

theorem QueueStep.get?_of_queued {q q' : SendQueue} {slot : Nat} {item : QueueItem}
    (step : QueueStep q (.queued slot item) q') :
    q.get? slot = none ∧ q'.get? slot = some item ∧ item.state = .waitSend := by
  cases step with
  | keep _ away => cases away
  | enter _ inserted new =>
    obtain ⟨inside, free, rfl⟩ := SendQueue.insert?_eq_some inserted
    refine ⟨free, SendQueue.get?_set_self inside (some item), ?_⟩
    rw [new]

/-- The search starts where it did, unless something is sent or everything is failed. -/
theorem QueueStep.lead_eq {q q' : SendQueue} {deed : Deed} (step : QueueStep q deed q')
    (unsent : ∀ slot item frame now, deed ≠ .sent slot item frame now)
    (unbroken : ∀ items ids status, deed ≠ .killed items ids status) : q'.lead = q.lead := by
  cases step with
  | keep | retry | leave => rfl
  | enter _ inserted =>
    obtain ⟨-, -, rfl⟩ := SendQueue.insert?_eq_some inserted
    rfl
  | send => exact absurd rfl (unsent _ _ _ _)
  | clear => exact absurd rfl (unbroken _ _ _)

/-- What is sent is met before every other item that waits. -/
theorem Step.lead_lt_of_sent {slot i : Nat} {item a : QueueItem} {frame : Bytes} {now : Nat}
    (step : Step s (.sent slot item frame now) s') (waiting : s.Waiting i a)
    (other : slot = i → item ≠ a) :
    s.queue.lead slot < s.queue.lead i ∧ s'.queue.lead = (s.queue.markSent slot).lead := by
  cases step with
  | send _ _ _ next held =>
    have reached := SendQueue.lead_le_of_nextToSend? next waiting.held waiting.state
    have passed : s.queue.lead slot ≠ s.queue.lead i := by
      intro same
      cases SendQueue.lead_inj (SendQueue.lt_of_get? held) (SendQueue.lt_of_get? waiting.held) same
      cases waiting.held.symm.trans held
      exact other rfl rfl
    exact ⟨by omega, rfl⟩

/-- As long as an item waits to be sent, the search meets it before the same others. -/
theorem Step.lead_lt {deed : Deed} {i j : Nat} {a : QueueItem} (step : Step s deed s')
    (first : s.Waiting i a) (order : s.queue.lead i < s.queue.lead j)
    (unsent : ∀ frame now, deed ≠ .sent i a frame now)
    (unbroken : ∀ items ids status, deed ≠ .killed items ids status) :
    s'.queue.lead i < s'.queue.lead j := by
  by_cases sends : ∃ slot item frame now, deed = .sent slot item frame now
  · obtain ⟨slot, item, frame, now, rfl⟩ := sends
    have other : slot = i → item ≠ a := by
      rintro rfl rfl
      exact unsent frame now rfl
    obtain ⟨behind, moved⟩ := step.lead_lt_of_sent first other
    rw [moved]
    exact SendQueue.lead_markSent behind order
  · rw [step.queueStep.lead_eq (fun slot item frame now eq => sends ⟨_, _, _, _, eq⟩) unbroken]
    exact order

theorem Steps.waiting {deeds : List Deed} {slot : Nat} {item : QueueItem} (steps : Steps s deeds s')
    (writable : s.Writable) (unbroken : Unbroken deeds) (waiting : s.Waiting slot item) :
    s'.Waiting slot item ∨ Sent slot item deeds := by
  induction steps with
  | nil => exact .inl waiting
  | @cons s s' s'' deed deeds step rest ih =>
    rcases step.waiting writable waiting with
      waiting | ⟨frame, now, rfl⟩ | ⟨items, ids, status, rfl⟩
    · rcases ih (step.writable writable) unbroken.tail waiting with waiting | sent
      · exact .inl waiting
      · exact .inr (sent.cons deed)
    · exact .inr ⟨frame, now, List.mem_cons_self⟩
    · exact absurd List.mem_cons_self (unbroken items ids status)

/-- Of two items that wait, the one that the search meets first is sent first. -/
theorem Steps.sent_of_lead_lt {deeds : List Deed} {i j : Nat} {a b : QueueItem}
    (steps : Steps s deeds s') (writable : s.Writable) (unbroken : Unbroken deeds)
    (first : s.Waiting i a) (second : s.Waiting j b) (order : s.queue.lead i < s.queue.lead j)
    (sent : Sent j b deeds) : Sent i a deeds := by
  induction steps with
  | nil =>
    obtain ⟨_, _, mem⟩ := sent
    cases mem
  | @cons s s' s'' deed deeds step rest ih =>
    have kept : ∀ items ids status, deed ≠ .killed items ids status := by
      rintro items ids status rfl
      exact unbroken items ids status List.mem_cons_self
    -- What is sent is what the search meets first of all, so it is not the second item.
    have later : ∀ frame now, deed ≠ .sent j b frame now := by
      rintro frame now rfl
      cases step with
      | send _ _ _ next =>
        have reached := SendQueue.lead_le_of_nextToSend? next first.held first.state
        omega
    by_cases sends : ∃ frame now, deed = .sent i a frame now
    · obtain ⟨frame, now, rfl⟩ := sends
      exact ⟨frame, now, List.mem_cons_self⟩
    have unsent : ∀ frame now, deed ≠ .sent i a frame now := fun _ _ eq => sends ⟨_, _, eq⟩
    have order' := step.lead_lt first order unsent kept
    rcases step.waiting writable first with first' | sent' | ⟨_, _, _, killed⟩
    · rcases step.waiting writable second with second' | ⟨frame, now, sent'⟩ | ⟨_, _, _, killed⟩
      · have sent'' := sent.of_cons later
        exact (ih (step.writable writable) unbroken.tail first' second' order' sent'').cons deed
      · exact absurd sent' (later frame now)
      · exact absurd killed (kept _ _ _)
    · exact absurd sent' sends
    · exact absurd killed (kept _ _ _)

/-- **A command is sent before another if the search for an item to send meets it first.** A run has
a history that accounts for its trace. In any history of it, let one command be queued, later
another, and nothing be failed since. If the first has not been sent by the time the second is
queued, both wait in different slots, and from then on the one whose slot lies closer behind the
send pointer is sent first. This need not be the first: the second takes the first slot that is free
behind the write pointer. -/
theorem Run.sends_by_lead {start s : Scheduler τ} {trace : Trace τ} (fresh : start.Fresh)
    (run : Run start trace s) :
    (∃ deeds : List Deed, Steps start deeds s ∧ Accounts trace deeds) ∧
      ∀ ⦃before between after : List Deed⦄ ⦃i j : Nat⦄ ⦃a b : QueueItem⦄ ⦃s' : Scheduler τ⦄,
        Steps start (before ++ .queued i a :: (between ++ [.queued j b])) s' → Steps s' after s →
        Unbroken (between ++ after) →
        Sent i a between ∨
          s'.Waiting i a ∧ s'.Waiting j b ∧
            (s'.queue.lead i < s'.queue.lead j ∧ (Sent j b after → Sent i a after) ∨
              s'.queue.lead j < s'.queue.lead i ∧ (Sent i a after → Sent j b after)) := by
  refine ⟨run.steps, ?_⟩
  intro before between after i j a b s' steps rest unbroken
  obtain ⟨s₁, steps₁, steps⟩ := steps.of_append
  obtain ⟨s₂, queuedA, steps⟩ := steps.of_cons
  obtain ⟨s₃, steps₃, steps⟩ := steps.of_append
  obtain ⟨s₄, queuedB, none⟩ := steps.of_cons
  cases none
  have writable₂ := queuedA.writable (steps₁.keep Step.writable fresh.writable)
  have writable₃ := steps₃.keep Step.writable writable₂
  have writable := queuedB.writable writable₃
  obtain ⟨-, heldA, stateA⟩ := queuedA.queueStep.get?_of_queued
  obtain ⟨freeB, heldB, stateB⟩ := queuedB.queueStep.get?_of_queued
  rcases steps₃.waiting writable₂ unbroken.left ⟨heldA, stateA⟩ with waiting | sent
  · right
    have second : s'.Waiting j b := ⟨heldB, stateB⟩
    rcases queuedB.waiting writable₃ waiting with first | ⟨_, _, sent⟩ | ⟨_, _, _, killed⟩
    · refine ⟨first, second, ?_⟩
      -- The slot of the second was free when the first was in its own.
      have ne : s'.queue.lead i ≠ s'.queue.lead j := by
        intro same
        cases SendQueue.lead_inj (SendQueue.lt_of_get? first.held)
          (SendQueue.lt_of_get? second.held) same
        cases freeB.symm.trans waiting.held
      rcases Nat.lt_or_gt_of_ne ne with order | order
      · exact .inl ⟨order, rest.sent_of_lead_lt writable unbroken.right first second order⟩
      · exact .inr ⟨order, rest.sent_of_lead_lt writable unbroken.right second first order⟩
    · cases sent
    · cases killed
  · exact .inl sent

/-! ### Histories -/

/-- A command is queued by the call that accepts it. -/
theorem Step.of_enqueue {command : Command} {callback : Option Callback} {handle : ItemHandle}
    (accepted : (s.enqueue command callback).1 = .ok handle) :
    Step s (.queued handle.slot (handle.item command (.caller callback)))
      (s.enqueue command callback).2 := by
  unfold enqueue at accepted ⊢
  by_cases off : s.connection = .off
  · rw [if_pos off] at accepted
    cases accepted
  · rw [if_neg off] at accepted ⊢
    cases inserted : s.insert command (.caller callback) with
    | mk result s' =>
      rw [inserted] at accepted
      cases result with
      | ok handle' =>
        cases accepted
        obtain ⟨_, _, _, -, -, -, -, rfl⟩ := insert_eq_ok inserted
        exact .queueCaller off inserted
      | error fault => cases fault <;> cases accepted

/-- Commands flow, and nothing is queued. -/
def justConnected : Trace SimulatedTransport × Scheduler SimulatedTransport :=
  performAll { transport := { autoConnect := true } } [.openSession, .handleEvent ⟨1, .connected⟩ 0]

theorem Run.sends_by_lead_of_twoQueued :
    ∃ (trace : Trace SimulatedTransport) (s : Scheduler SimulatedTransport) (before : List Deed)
      (a b : QueueItem),
      Fresh ({ transport := { autoConnect := true } } : Scheduler SimulatedTransport) ∧
      Run { transport := { autoConnect := true } } trace s ∧
      Steps { transport := { autoConnect := true } }
        (before ++ .queued 0 a :: ([] ++ [.queued 1 b])) s ∧
      s.Waiting 0 a ∧ s.Waiting 1 b ∧ s.queue.lead 0 < s.queue.lead 1 := by
  let version : Command := { id := Command.version, values := [.u32 0] }
  let s₁ := (justConnected.2.enqueue version (some ⟨1⟩)).2
  let s₂ := (s₁.enqueue version (some ⟨2⟩)).2
  have fresh : Fresh ({ transport := { autoConnect := true } } : Scheduler SimulatedTransport) :=
    .mk _ _ _ _ _
  have connecting : Run { transport := { autoConnect := true } } justConnected.1 justConnected.2 :=
    run_performAll _ _
  have run : Run { transport := { autoConnect := true } } _ s₂ :=
    (connecting.snoc (.enqueue version (some ⟨1⟩))).snoc (.enqueue version (some ⟨2⟩))
  obtain ⟨before, steps, -⟩ := connecting.steps
  have first := Step.of_enqueue
    (show (justConnected.2.enqueue version (some ⟨1⟩)).1 = .ok ⟨0, 1⟩ by decide +kernel)
  have second := Step.of_enqueue
    (show (s₁.enqueue version (some ⟨2⟩)).1 = .ok ⟨1, 2⟩ by decide +kernel)
  have steps : Steps _ (before ++ .queued 0 _ :: ([] ++ [.queued 1 _])) s₂ :=
    steps.append (.cons first (.cons second (.nil s₂)))
  have order : s₂.queue.lead 0 < s₂.queue.lead 1 := by decide +kernel
  refine ⟨_, s₂, before, _, _, fresh, run, steps, ?_⟩
  rcases (sends_by_lead fresh run).2 steps (.nil s₂) (show Unbroken ([] ++ []) from nofun) with
    ⟨_, _, mem⟩ | ⟨waits, waits', -⟩
  · cases mem
  · exact ⟨waits, waits', order⟩

/-- All slots are filled and all items but the last are sent. Then the second and the first are
confirmed, and a command is queued each time. -/
def refilledSlots : Trace SimulatedTransport × Scheduler SimulatedTransport :=
  let version : Command := { id := Command.version, values := [.u32 0] }
  performAll { transport := { autoConnect := true }, settings := { window := 31 } }
    ([.openSession, .handleEvent ⟨1, .connected⟩ 0] ++ List.replicate 32 (.enqueue version none) ++
      [.tick 0, .changeTransport fun t => t.arriveCommand { version with seq := 2 },
        .processInbound 1, .enqueue version none,
        .changeTransport fun t => t.arriveCommand { version with seq := 1 },
        .processInbound 1, .enqueue version none, .tick 2])

/-- Commands are not always sent in the order in which they were submitted. Of the last two, which
were submitted in the same session, the first takes slot 1 and the second takes slot 0, to which the
search comes first: it is sent, and the first still waits. -/
theorem Run.later_first_of_refilledSlots :
    Fresh ({ transport := { autoConnect := true }, settings := { window := 31 } } :
        Scheduler SimulatedTransport) ∧
      SchedulerSettings.Valid { window := 31 } ∧
      Run { transport := { autoConnect := true }, settings := { window := 31 } } refilledSlots.1
        refilledSlots.2 ∧
      (refilledSlots.1.filterMap fun
        | (.enqueue _ _, .queued (.ok handle)) => some handle
        | _ => none).drop 32 = [⟨1, 33⟩, ⟨0, 34⟩] ∧
      (refilledSlots.2.queue.get? 1).map (fun item => (item.command.seq, item.state)) =
        some (33, .waitSend) ∧
      Frame.encode [13, 34, 0, 9, 0, 0, 0, 0, 0] ∈ refilledSlots.2.transport.frames ∧
      Frame.encode [13, 33, 0, 9, 0, 0, 0, 0, 0] ∉ refilledSlots.2.transport.frames := by
  exact ⟨.mk _ _ _ _ _, ⟨by decide, by decide, by decide⟩, run_performAll _ _, by decide +kernel⟩

end Scheduler

end SerialLink
