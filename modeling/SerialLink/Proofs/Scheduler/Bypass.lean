import SerialLink.Proofs.Scheduler.Order
import SerialLink.Proofs.Scheduler.Tick

/-!
How many commands can be sent before one that waits. The search for an item to send goes round the
slots, and its pointer is moved behind what was sent. So the lead of a waiting item, the number of
slots that the search passes before it, falls with everything else that is sent
(`Step.bypassed`); insertions, retries and confirms do not move the pointer. At first it is less
than the number of slots, which bounds how often the item is passed over (`Run.bypassed_at_most`).
-/

namespace SerialLink

namespace SendQueue

theorem lead_lt (q : SendQueue) (slot : Nat) : q.lead slot < capacity := by
  unfold lead
  exact Nat.mod_lt _ (by decide)

/-- What is sent, and all that the search passed before it, is no longer in front of those behind
it. -/
theorem lead_markSent_of_lt {q : SendQueue} {slot i : Nat} (behind : q.lead slot < q.lead i) :
    (q.markSent slot).lead i + q.lead slot + 1 = q.lead i := by
  unfold lead markSent at *
  simp only [capacity] at *
  omega

end SendQueue

namespace Scheduler

variable {τ : Type} [Transport τ] {s s' : Scheduler τ} {slot : Nat} {item : QueueItem}

/-- An item begins to wait when it is queued, or when it is put back. -/
theorem Step.begins_to_wait {deed : Deed} (step : Step s deed s') (before : ¬ s.Waiting slot item)
    (waiting : s'.Waiting slot item) :
    deed = .queued slot item ∨
      ∃ old now, deed = .retried slot old now ∧ s.queue.get? slot = some old ∧
        old.state = .waitConfirm ∧ item = old.again := by
  obtain ⟨held, waits⟩ := waiting
  rcases step.queueStep.held held with
    ⟨kept, -⟩ | ⟨queued, -⟩ | ⟨old, frame, now, -, -, rfl⟩ | ⟨old, now, rfl, kept, rfl⟩
  · exact absurd ⟨kept, waits⟩ before
  · exact .inl queued
  · cases waits
  · right
    refine ⟨old, now, rfl, kept, ?_, rfl⟩
    cases step with
    | retry _ _ overdue =>
      simp only [Scheduler.overdue, Bool.and_eq_true, decide_eq_true_eq] at overdue
      exact overdue.1

/-- With everything else that is sent, an item that waits comes closer to its turn. -/
theorem Step.bypassed {deed : Deed} (step : Step s deed s') (writable : s.Writable)
    (waiting : s.Waiting slot item) (unsent : ∀ frame now, deed ≠ .sent slot item frame now)
    (unbroken : ∀ items ids status, deed ≠ .killed items ids status) :
    s'.Waiting slot item ∧
      deed.taken?.toList.length + s'.queue.lead slot ≤ s.queue.lead slot := by
  constructor
  · rcases step.waiting writable waiting with
      waiting | ⟨frame, now, sent⟩ | ⟨items, ids, status, killed⟩
    · exact waiting
    · exact absurd sent (unsent frame now)
    · exact absurd killed (unbroken items ids status)
  by_cases sends : ∃ slot' item' frame now, deed = .sent slot' item' frame now
  · obtain ⟨slot', item', frame, now, rfl⟩ := sends
    have other : slot' = slot → item' ≠ item := by
      rintro rfl rfl
      exact unsent frame now rfl
    obtain ⟨behind, moved⟩ := step.lead_lt_of_sent waiting other
    have closer := SendQueue.lead_markSent_of_lt behind
    rw [moved]
    simp only [Deed.taken?, Option.toList_some, List.length_singleton]
    omega
  · have none : deed.taken? = none := by
      cases deed with
      | sent slot' item' frame now => exact absurd ⟨slot', item', frame, now, rfl⟩ sends
      | _ => rfl
    rw [step.queueStep.lead_eq (fun _ _ _ _ eq => sends ⟨_, _, _, _, eq⟩) unbroken, none]
    simp

theorem Steps.bypassed {deeds : List Deed} (steps : Steps s deeds s') (writable : s.Writable)
    (waiting : s.Waiting slot item) (unbroken : Unbroken deeds) (unsent : ¬ Sent slot item deeds) :
    s'.Waiting slot item ∧
      (deeds.filterMap Deed.taken?).length + s'.queue.lead slot ≤ s.queue.lead slot := by
  induction steps with
  | nil => exact ⟨waiting, by simp⟩
  | @cons s s' s'' deed deeds step rest ih =>
    have unsentNow : ∀ frame now, deed ≠ .sent slot item frame now := by
      rintro frame now rfl
      exact unsent ⟨frame, now, List.mem_cons_self⟩
    have unbrokenNow : ∀ items ids status, deed ≠ .killed items ids status := by
      rintro items ids status rfl
      exact unbroken items ids status List.mem_cons_self
    obtain ⟨waiting', first⟩ := step.bypassed writable waiting unsentNow unbrokenNow
    obtain ⟨waiting'', later⟩ := ih (step.writable writable) waiting' unbroken.tail
      fun sent => unsent (sent.cons deed)
    refine ⟨waiting'', ?_⟩
    have split : ((deed :: deeds).filterMap Deed.taken?).length =
        deed.taken?.toList.length + (deeds.filterMap Deed.taken?).length := by
      rw [List.filterMap_cons]
      cases deed.taken? with
      | none => simp
      | some frame => simp [Nat.add_comm]
    omega

/-- **No waiting command is passed over for long.** A run has a history that accounts for its trace,
and for the frames that the transport has taken if nothing else changes their log. In any history of
it, let an item begin to wait, because it is queued or because it is put back. As long as it is not
sent and nothing is failed, it waits in its slot, and whatever is queued, confirmed, put back or
refused meanwhile, the transport takes at most 31 frames, all of them of other items. -/
theorem Run.bypassed_at_most {start s : Scheduler (LoggedTransport τ)}
    {trace : Trace (LoggedTransport τ)} (fresh : start.Fresh) (run : Run start trace s) :
    (∃ deeds : List Deed, Steps start deeds s ∧ Accounts trace deeds ∧
      ((∀ act ∈ trace.map Prod.fst, act.KeepsFrames) →
        s.transport.frames = start.transport.frames ++ deeds.filterMap Deed.taken?)) ∧
      ∀ ⦃before between after : List Deed⦄ ⦃deed : Deed⦄ ⦃slot : Nat⦄ ⦃item : QueueItem⦄
        ⦃s₀ s₁ s₂ : Scheduler (LoggedTransport τ)⦄,
        Steps start before s₀ → Step s₀ deed s₁ → Steps s₁ between s₂ → Steps s₂ after s →
        ¬ s₀.Waiting slot item → s₁.Waiting slot item →
        (deed = .queued slot item ∨
          ∃ old now, deed = .retried slot old now ∧ s₀.queue.get? slot = some old ∧
            old.state = .waitConfirm ∧ item = old.again) ∧
        (Unbroken between → ¬ Sent slot item between →
          s₂.Waiting slot item ∧ (between.filterMap Deed.taken?).length ≤ 31) := by
  constructor
  · by_cases kept : ∀ act ∈ trace.map Prod.fst, act.KeepsFrames
    · obtain ⟨deeds, steps, accounts, frames, -⟩ := run.history kept
      exact ⟨deeds, steps, accounts, fun _ => frames⟩
    · obtain ⟨deeds, steps, accounts⟩ := run.steps
      exact ⟨deeds, steps, accounts, fun kept' => absurd kept' kept⟩
  intro before between after deed slot item s₀ s₁ s₂ steps step steps' _ idle waiting
  refine ⟨step.begins_to_wait idle waiting, fun unbroken unsent => ?_⟩
  have writable := step.writable (steps.keep Step.writable fresh.writable)
  obtain ⟨still, closer⟩ := steps'.bypassed writable waiting unbroken unsent
  have inside := s₁.queue.lead_lt slot
  exact ⟨still, by simp only [SendQueue.capacity] at inside; omega⟩

/-- One command is queued, and only one may be in flight. -/
def oneQueued : Trace (LoggedTransport SimulatedTransport) ×
    Scheduler (LoggedTransport SimulatedTransport) :=
  performAll { transport := { transport := { autoConnect := true } }, settings := { window := 1 } }
    [.openSession, .handleEvent ⟨1, .connected⟩ 0,
      .enqueue { id := Command.deviceStatus, values := [.u8 0, .u8 0] } none]

theorem Run.bypassed_at_most_of_oneQueued :
    let start : Scheduler (LoggedTransport SimulatedTransport) :=
      { transport := { transport := { autoConnect := true } }, settings := { window := 1 } }
    let s₁ := (oneQueued.2.enqueue { id := Command.version, values := [.u32 0] } none).2
    ∃ (trace : Trace (LoggedTransport SimulatedTransport)) (before between after : List Deed)
      (item : QueueItem) (s₂ : Scheduler (LoggedTransport SimulatedTransport)),
      start.Fresh ∧ Run start trace (s₁.tick 0).2 ∧
      Steps start before oneQueued.2 ∧ Step oneQueued.2 (.queued 1 item) s₁ ∧
      Steps s₁ between s₂ ∧ Steps s₂ after (s₁.tick 0).2 ∧
      (between.filterMap Deed.taken?).length = 1 ∧ s₂.Waiting 1 item := by
  intro start s₁
  have fresh : start.Fresh := .mk _ _ _ _ _
  have queued : Run start oneQueued.1 oneQueued.2 := run_performAll _ _
  have ticked (s : Scheduler (LoggedTransport SimulatedTransport)) :
      (s.perform (.tick 0)).2 = (s.tick 0).2 := rfl
  have run := (queued.snoc (.enqueue { id := Command.version, values := [.u32 0] } none)).snoc
    (.tick 0)
  rw [ticked] at run
  obtain ⟨before, steps, -⟩ := queued.steps
  have accepted : (oneQueued.2.enqueue { id := Command.version, values := [.u32 0] } none).1 =
      .ok ⟨1, 2⟩ := by decide +kernel
  have entered := Step.of_enqueue accepted
  obtain ⟨first, payload, transport, held, written, taken⟩ :
      ∃ first payload transport, s₁.queue.get? 0 = some first ∧
        s₁.table.encode first.command Command.maxLength = .ok payload ∧
        Transport.send (Frame.encode payload) s₁.transport = (.ok (), transport) :=
    ⟨_, _, _, rfl, rfl, rfl⟩
  have timely : s₁.Timely 0 := timely_iff.mpr (by decide +kernel)
  have next : s₁.queue.nextToSend? = some 0 := by decide +kernel
  have full : (s₁.noteSent 0 Command.deviceStatus 0).hasCredit = false := by decide +kernel
  obtain ⟨s₂, between, after⟩ := Steps.of_tick_of_one (by decide +kernel) timely
    (by decide +kernel) (.inr (by decide +kernel)) (by decide +kernel) next held written taken full
  obtain ⟨free, enters, waits⟩ := entered.queueStep.get?_of_queued
  have idle (item : QueueItem) : ¬ oneQueued.2.Waiting 1 item := by
    intro waiting
    cases free.symm.trans waiting.held
  obtain ⟨-, few⟩ := (bypassed_at_most fresh run).2 steps entered between after
    (idle _) ⟨enters, waits⟩
  have unbroken : Unbroken [.quiet, .quiet, .sent 0 first (Frame.encode payload) 0] := by
    simp [Unbroken]
  obtain ⟨waiting, -⟩ := few unbroken (by simp [Sent])
  exact ⟨_, before, _, _, _, s₂, fresh, run, steps, entered, between, after, rfl, waiting⟩

end Scheduler

end SerialLink
