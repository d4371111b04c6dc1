import Mathlib.Data.List.Forall2
import SerialLink.Proofs.Scheduler.History
import SerialLink.Proofs.Scheduler.InFlight

/-!
How often a command is sent. An item is sent, put back when its confirm is overdue, and sent again,
until it has been put back as often as allowed. Both happen in different places: what keeps them in
step is that an item waits for its confirm exactly if it was sent once more than it was put back
(`Attempts.Fits`). So each item has been sent as often as its count of retries says, always in the
same bytes, and one that is given up has been sent as often as may be (`Run.within_budget`).
-/

namespace SerialLink

namespace Scheduler

/-! ### What was done with an item -/

/-- What has been done with the item in a slot since it was queued. -/
structure Attempts where
  /-- The frames that the transport has taken, each with the time, oldest first. -/
  sent : List (Bytes × Nat) := []
  /-- The times at which the item was put back, oldest first. -/
  lapsed : List Nat := []

namespace Attempts

/-- The attempts after one more deed. -/
def after (slot : Nat) (attempts : Attempts) : Deed → Attempts
  | .queued other _ => if other = slot then {} else attempts
  | .sent other _ frame now =>
    if other = slot then { attempts with sent := attempts.sent ++ [(frame, now)] } else attempts
  | .retried other _ now =>
    if other = slot then { attempts with lapsed := attempts.lapsed ++ [now] } else attempts
  | _ => attempts

variable {slot : Nat} {attempts : Attempts} {timeout : Nat} {frame : Bytes} {item : QueueItem}

theorem after_of_ne {deed : Deed} (apart : deed.slot? ≠ some slot) :
    attempts.after slot deed = attempts := by
  have ne {other : Nat} (apart : some other ≠ some slot) : other ≠ slot :=
    fun same => apart (congrArg some same)
  cases deed with
  | queued | sent | retried => exact if_neg (ne apart)
  | _ => rfl

theorem mem_lapsed_after {deed : Deed} {time : Nat}
    (lapsed : time ∈ (attempts.after slot deed).lapsed) :
    time ∈ attempts.lapsed ∨ deed.time? = some time := by
  by_cases about : deed.slot? = some slot
  · cases deed with
    | queued =>
      rw [after, if_pos (Option.some.inj about)] at lapsed
      cases lapsed
    | sent =>
      rw [after, if_pos (Option.some.inj about)] at lapsed
      exact .inl lapsed
    | retried other item now =>
      rw [after, if_pos (Option.some.inj about)] at lapsed
      rcases List.mem_append.mp lapsed with before | last
      · exact .inl before
      · exact .inr (congrArg some (List.mem_singleton.mp last).symm)
    | ended => exact .inl lapsed
    | _ => cases about
  · rw [after_of_ne about] at lapsed
    exact .inl lapsed

/-- A frame was taken so long before this time that its confirm is overdue. A clock that has gone
back counts as one that stands still. -/
def Lapsed (timeout : Nat) (sending : Bytes × Nat) (now : Nat) : Prop :=
  timeout ≤ now - sending.2

/-- The attempts are those of this item, whose frame this is: it was put back as often as it says,
each time because the confirm of the last frame was overdue, and was sent once for each time, and
once more if it waits for its confirm now. -/
structure Fits (attempts : Attempts) (timeout : Nat) (frame : Bytes) (item : QueueItem) : Prop where
  same : ∀ sending ∈ attempts.sent, sending.1 = frame
  retries : attempts.lapsed.length = item.retries
  waiting : item.state = .waitSend → List.Forall₂ (Lapsed timeout) attempts.sent attempts.lapsed
  awaiting : item.state = .waitConfirm → ∃ earlier time, item.sentAt = some time ∧
    attempts.sent = earlier ++ [(frame, time)] ∧
    List.Forall₂ (Lapsed timeout) earlier attempts.lapsed

theorem Fits.of_new (new : item = { command := item.command, origin := item.origin }) :
    Fits {} timeout frame item := by
  rw [new]
  exact ⟨nofun, rfl, fun _ => .nil, nofun⟩

theorem Fits.sending (fits : attempts.Fits timeout frame item) (waits : item.state = .waitSend)
    (now : Nat) :
    Fits { attempts with sent := attempts.sent ++ [(frame, now)] } timeout frame
      (item.sending now) where
  same sending mem := by
    rcases List.mem_append.mp mem with mem | mem
    · exact fits.same sending mem
    · rw [List.mem_singleton.mp mem]
  retries := fits.retries
  waiting := nofun
  awaiting _ := ⟨attempts.sent, now, rfl, rfl, fits.waiting waits⟩

/-- The frames of an item whose confirm is overdue were all waited for long enough. -/
theorem Fits.forall₂_of_overdue {now : Nat} (fits : attempts.Fits timeout frame item)
    (awaits : item.state = .waitConfirm)
    (overdue : ∀ time, item.sentAt = some time → timeout ≤ now - time) :
    List.Forall₂ (Lapsed timeout) attempts.sent (attempts.lapsed ++ [now]) := by
  obtain ⟨earlier, time, sentAt, sent, lapsed⟩ := fits.awaiting awaits
  rw [sent]
  exact List.rel_append lapsed (.cons (overdue time sentAt) .nil)

theorem Fits.again {now : Nat} (fits : attempts.Fits timeout frame item)
    (awaits : item.state = .waitConfirm)
    (overdue : ∀ time, item.sentAt = some time → timeout ≤ now - time) :
    Fits { attempts with lapsed := attempts.lapsed ++ [now] } timeout frame item.again where
  same := fits.same
  retries := by
    rw [List.length_append, fits.retries]
    rfl
  waiting _ := fits.forall₂_of_overdue awaits overdue
  awaiting := nofun

theorem Fits.length_sent (fits : attempts.Fits timeout frame item)
    (waits : item.state = .waitSend ∨ item.state = .waitConfirm) :
    attempts.sent.length = item.retries + if item.state = .waitConfirm then 1 else 0 := by
  rcases waits with waits | awaits
  · rw [(fits.waiting waits).length_eq, fits.retries, waits]
    rfl
  · obtain ⟨earlier, time, -, sent, lapsed⟩ := fits.awaiting awaits
    rw [sent, List.length_append, lapsed.length_eq, fits.retries, if_pos awaits]
    rfl

end Attempts

/-- The attempts for the item in a slot when these deeds have been done. -/
def attempts (slot : Nat) (deeds : List Deed) : Attempts :=
  deeds.foldl (Attempts.after slot) {}

@[simp] theorem attempts_snoc (slot : Nat) (deeds : List Deed) (deed : Deed) :
    attempts slot (deeds ++ [deed]) = (attempts slot deeds).after slot deed := by
  simp [attempts]

/-- An item is put back at the time of a deed. -/
theorem time_mem_of_lapsed {slot time : Nat} {deeds : List Deed}
    (lapsed : time ∈ (attempts slot deeds).lapsed) : time ∈ deeds.filterMap Deed.time? := by
  induction deeds using List.reverseRecOn with
  | nil => cases lapsed
  | append_singleton deeds deed ih =>
    rw [attempts_snoc] at lapsed
    rw [List.filterMap_append, List.mem_append]
    rcases Attempts.mem_lapsed_after lapsed with before | last
    · exact .inl (ih before)
    · exact .inr (List.mem_filterMap.mpr ⟨deed, List.mem_singleton_self _, last⟩)

variable {τ : Type}

theorem of_overdue {s : Scheduler τ} {now : Nat} {item : QueueItem}
    (overdue : s.overdue now item = true) :
    item.state = .waitConfirm ∧
      ∀ time, item.sentAt = some time → s.settings.confirmTimeout ≤ now - time := by
  unfold Scheduler.overdue at overdue
  rw [Bool.and_eq_true] at overdue
  obtain ⟨awaits, late⟩ := overdue
  refine ⟨of_decide_eq_true awaits, fun time sentAt => ?_⟩
  rw [sentAt] at late
  exact of_decide_eq_true late

/-- Each queued item has been sent and put back as its state says. -/
def Attempted (deeds : List Deed) (s : Scheduler τ) : Prop :=
  ∀ ⦃slot : Nat⦄ ⦃item : QueueItem⦄, s.queue.get? slot = some item →
    ∃ payload, s.table.encode item.command Command.maxLength = .ok payload ∧
      (attempts slot deeds).Fits s.settings.confirmTimeout (Frame.encode payload) item

variable [Transport τ] {s s' : Scheduler τ}

theorem Step.held_of_ended {slot now : Nat} {item : QueueItem} {status : CompletionStatus}
    {response : Option Command} (step : Step s (.ended slot item status response now) s') :
    s.queue.get? slot = some item := by
  cases step with
  | discard _ _ held | giveUp _ held | confirm _ held => exact held

theorem Step.attempted {deeds : List Deed} {deed : Deed} (step : Step s deed s')
    (writable : s.Writable) (before : Attempted deeds s) : Attempted (deeds ++ [deed]) s' := by
  obtain ⟨settings, table⟩ := step.made_eq
  intro slot item held
  rw [attempts_snoc]
  rcases step.queueStep.held held with
    ⟨kept, apart⟩ | ⟨rfl, new⟩ | ⟨old, frame, now, rfl, held', rfl⟩ | ⟨old, now, rfl, held', rfl⟩
  · rw [settings, table, Attempts.after_of_ne apart]
    exact before kept
  · obtain ⟨payload, written⟩ := step.writable writable held
    refine ⟨payload, written, ?_⟩
    rw [Attempts.after, if_pos rfl]
    exact .of_new new
  · obtain ⟨payload, written, fits⟩ := before held'
    rw [settings, table, Attempts.after, if_pos rfl]
    -- Only an item that waits to be sent has its turn, and its frame is that of its command.
    cases step with
    | send _ _ _ next _ written' =>
      obtain ⟨item, held'', waits⟩ := SendQueue.waitSend_of_nextToSend? next
      cases held'.symm.trans held''
      cases written.symm.trans written'
      exact ⟨payload, written, fits.sending waits now⟩
  · obtain ⟨payload, written, fits⟩ := before held'
    rw [settings, table, Attempts.after, if_pos rfl]
    cases step with
    | retry _ _ overdue =>
      obtain ⟨awaits, late⟩ := of_overdue overdue
      exact ⟨payload, written, fits.again awaits late⟩

theorem Steps.attempted {start s : Scheduler τ} {deeds : List Deed} (fresh : start.Fresh)
    (steps : Steps start deeds s) : Attempted deeds s := by
  refine (Steps.along (fun deeds s => s.Writable ∧ Attempted deeds s) ?_ ?_ steps).2
  · refine ⟨fresh.writable, fun slot item held => ?_⟩
    cases fresh with
    | mk =>
      rw [SendQueue.get?_empty] at held
      cases held
  · rintro deeds s s' deed - ⟨writable, before⟩ step
    exact ⟨step.writable writable, step.attempted writable before⟩

/-! ### Runs -/

/-- The transport has taken the frame of the item once for each time that it was put back, and once
more if it waits for its confirm, in the same bytes each time, and no more often than it may be put
back and once more. -/
def WithinBudget (s : Scheduler τ) (item : QueueItem) (attempts : Attempts) : Prop :=
  ∃ payload, s.table.encode item.command Command.maxLength = .ok payload ∧
    attempts.sent.map Prod.fst =
      List.replicate (item.retries + if item.state = .waitConfirm then 1 else 0)
        (Frame.encode payload) ∧
    attempts.sent.length ≤ s.settings.maxRetries + 1

theorem Steps.withinBudget {start s : Scheduler τ} {deeds : List Deed} (fresh : start.Fresh)
    (steps : Steps start deeds s) {slot : Nat} {item : QueueItem}
    (held : s.queue.get? slot = some item) : start.WithinBudget item (attempts slot deeds) := by
  obtain ⟨settings, table⟩ := steps.made_eq
  obtain ⟨payload, written, fits⟩ := steps.attempted fresh held
  have sound := (steps.keep Step.sound fresh.sound).items held
  have length := fits.length_sent sound.waits
  rw [table] at written
  refine ⟨payload, written, ?_, ?_⟩
  · refine List.eq_replicate_iff.mpr ⟨(List.length_map _).trans length, fun frame mem => ?_⟩
    obtain ⟨sending, listed, rfl⟩ := List.mem_map.mp mem
    exact fits.same sending listed
  · have retries := sound.retries
    rw [settings] at retries
    rw [length]
    split <;> omega

/-- An item is given up when its frame has been taken as often as it may be, and has been waited for
long enough each time. -/
theorem Steps.spent_of_timeout {start s s' : Scheduler τ} {deeds : List Deed} {slot now : Nat}
    {item : QueueItem} {response : Option Command} (fresh : start.Fresh)
    (steps : Steps start deeds s) (ended : Step s (.ended slot item .timeout response now) s') :
    (attempts slot deeds).sent.length = start.settings.maxRetries + 1 ∧
      List.Forall₂ (Attempts.Lapsed start.settings.confirmTimeout) (attempts slot deeds).sent
        ((attempts slot deeds).lapsed ++ [now]) := by
  obtain ⟨settings, -⟩ := steps.made_eq
  cases ended with
  | giveUp _ held overdue spent =>
    obtain ⟨payload, -, fits⟩ := steps.attempted fresh held
    have sound := (steps.keep Step.sound fresh.sound).items held
    have retries := sound.retries
    obtain ⟨awaits, late⟩ := of_overdue overdue
    rw [settings] at fits late retries spent
    refine ⟨?_, fits.forall₂_of_overdue awaits late⟩
    rw [fits.length_sent (.inr awaits), if_pos awaits]
    omega

/-- If the clock does not go back, what was overdue at some time is overdue later. -/
theorem lapsed_of_ordered {timeout now : Nat} {sent : List (Bytes × Nat)} {lapsed : List Nat}
    (waited : List.Forall₂ (Attempts.Lapsed timeout) sent (lapsed ++ [now]))
    (ordered : ∀ time ∈ lapsed, time ≤ now) :
    ∀ sending ∈ sent, Attempts.Lapsed timeout sending now := by
  intro sending mem
  obtain ⟨i, inside, rfl⟩ := List.mem_iff_getElem.mp mem
  have inside' := waited.length_eq ▸ inside
  have late : Attempts.Lapsed timeout sent[i] (lapsed ++ [now])[i] :=
    (List.forall₂_iff_get.mp waited).2 i inside inside'
  have last : (lapsed ++ [now])[i] ≤ now := by
    rcases List.mem_append.mp (List.getElem_mem inside') with before | last
    · exact ordered _ before
    · exact Nat.le_of_eq (List.mem_singleton.mp last)
  exact Nat.le_trans late (Nat.sub_le_sub_right last _)

/-- **Commands are sent again as often as allowed.** A run has a history that accounts for its trace
and whose frames are those that the transport has taken. In it, each item that is queued, and each
that has ended, had its frame taken once for each time that it was put back, and once more while it
waits for its confirm, in the same bytes each time. One that was given up had its frame taken as
often as it may be put back, and once more. Each of these frames had been waited for long enough in
the sweep in which the item was put back, or given up; and in the sweep in which it was given up all
of them had, if the clock does not go back. -/
theorem Run.within_budget {start s : Scheduler (LoggedTransport τ)}
    {trace : Trace (LoggedTransport τ)} (fresh : start.Fresh)
    (unsent : start.transport.frames = []) (run : Run start trace s)
    (kept : ∀ act ∈ trace.map Prod.fst, act.KeepsFrames) :
    ∃ deeds : List Deed, Steps start deeds s ∧ Accounts trace deeds ∧
      s.transport.frames = deeds.filterMap Deed.taken? ∧
      (∀ slot item, s.queue.get? slot = some item →
        start.WithinBudget item (attempts slot deeds)) ∧
      ∀ before slot item status response now after,
        deeds = before ++ .ended slot item status response now :: after →
        start.WithinBudget item (attempts slot before) ∧
          (status = .timeout →
            (attempts slot before).sent.length = start.settings.maxRetries + 1 ∧
            List.Forall₂ (Attempts.Lapsed start.settings.confirmTimeout)
              (attempts slot before).sent ((attempts slot before).lapsed ++ [now]) ∧
            (trace.times.Pairwise (· ≤ ·) → ∀ sending ∈ (attempts slot before).sent,
              Attempts.Lapsed start.settings.confirmTimeout sending now)) := by
  obtain ⟨deeds, steps, accounts, frames, clock⟩ := run.history kept
  rw [unsent, List.nil_append] at frames
  refine ⟨deeds, steps, accounts, frames, fun slot item held => steps.withinBudget fresh held, ?_⟩
  rintro before slot item status response now after rfl
  obtain ⟨s₁, first, rest⟩ := steps.of_append
  obtain ⟨s₂, ended, -⟩ := rest.of_cons
  refine ⟨first.withinBudget fresh ended.held_of_ended, ?_⟩
  rintro rfl
  obtain ⟨length, waited⟩ := first.spent_of_timeout fresh ended
  refine ⟨length, waited, fun ordered => lapsed_of_ordered waited fun time lapsed => ?_⟩
  have order := clock ordered
  rw [List.filterMap_append, List.pairwise_append] at order
  exact order.2.2 time (time_mem_of_lapsed lapsed) now
    (List.mem_filterMap.mpr ⟨_, List.mem_cons_self, rfl⟩)

/-- A callback is told of a timeout when its item is given up, or everything is failed so. -/
theorem Deed.of_told_timeout {deed : Deed} {callback : Callback} {response : Option Command}
    (told : .command callback .timeout response ∈ deed.completions) :
    (∃ slot item now, deed = .ended slot item .timeout response now) ∨
      ∃ items ids, deed = .killed items ids .timeout := by
  have same {origin : Origin} {status : CompletionStatus} {response' : Option Command}
      (outcome : origin.outcome status response' = some (.command callback .timeout response)) :
      status = .timeout ∧ response' = response := by
    cases origin with
    | scheduler | request => cases outcome
    | caller callback =>
      cases callback <;> cases outcome
      exact ⟨rfl, rfl⟩
  cases deed with
  | ended slot item status response' now =>
    obtain ⟨rfl, rfl⟩ := same (Option.mem_toList.mp told)
    exact .inl ⟨slot, item, now, rfl⟩
  | killed items ids status =>
    rcases List.mem_append.mp told with queued | waiting
    · obtain ⟨item, -, outcome⟩ := List.mem_filterMap.mp queued
      obtain ⟨rfl, -⟩ := same outcome
      exact .inr ⟨items, ids, rfl⟩
    · obtain ⟨id, -, eq⟩ := List.mem_map.mp waiting
      cases eq
  | dropped | refused | told | connected => cases List.mem_singleton.mp told
  | _ => cases told

/-- A scheduler that sends again only once. -/
def onceAgain : Scheduler (LoggedTransport SimulatedTransport) :=
  { transport := { transport := { autoConnect := true } }, settings := { maxRetries := 1 } }

/-- A command is sent, sent again, and given up. -/
def givenUpActs : List (Act (LoggedTransport SimulatedTransport)) :=
  [.openSession, .handleEvent ⟨1, .connected⟩ 0,
    .enqueue { id := Command.deviceStatus, values := [.u8 0, .u8 0] } (some ⟨1⟩), .tick 0,
    .tick 1000, .tick 2000]

theorem Run.within_budget_of_givenUp :
    ∃ (deeds before after : List Deed) (slot : Nat) (item : QueueItem) (now : Nat),
      onceAgain.Fresh ∧
      Run onceAgain (onceAgain.performAll givenUpActs).1 (onceAgain.performAll givenUpActs).2 ∧
      Steps onceAgain deeds (onceAgain.performAll givenUpActs).2 ∧
      deeds = before ++ .ended slot item .timeout none now :: after ∧
      (attempts slot before).sent.length = 2 ∧
      ∀ sending ∈ (attempts slot before).sent, Attempts.Lapsed 1000 sending now := by
  have fresh : onceAgain.Fresh := .mk _ _ _ _ _
  have run := run_performAll onceAgain givenUpActs
  have acts := performAll_acts onceAgain givenUpActs
  have times : (onceAgain.performAll givenUpActs).1.times = [0, 0, 1000, 2000] := by
    decide +kernel
  have told : Completion.command ⟨1⟩ .timeout none ∈
      Trace.told (onceAgain.performAll givenUpActs).1 (onceAgain.performAll givenUpActs).2 := by
    decide +kernel
  generalize onceAgain.performAll givenUpActs = outcome at run acts times told ⊢
  obtain ⟨trace, s⟩ := outcome
  have kept : ∀ act ∈ trace.map Prod.fst, act.KeepsFrames := by
    rw [acts]
    simp [givenUpActs, Act.KeepsFrames]
  obtain ⟨deeds, steps, accounts, -, -, ended⟩ := within_budget fresh rfl run kept
  rw [accounts.told_eq fresh steps] at told
  obtain ⟨deed, listed, told⟩ := List.mem_flatMap.mp told
  rcases Deed.of_told_timeout told with ⟨slot, item, now, rfl⟩ | ⟨items, ids, rfl⟩
  · obtain ⟨before, after, rfl⟩ := List.append_of_mem listed
    obtain ⟨length, -, late⟩ := (ended before slot item .timeout none now after rfl).2 rfl
    refine ⟨_, before, after, slot, item, now, fresh, run, steps, rfl, length, late ?_⟩
    rw [times]
    decide
  · -- Nobody has failed everything.
    obtain ⟨entry, mem, ends | kills⟩ := accounts.permitted _ listed
    · cases ends
    · have act := List.mem_map_of_mem (f := Prod.fst) mem
      rw [acts, kills] at act
      simp [givenUpActs] at act

end Scheduler

end SerialLink
