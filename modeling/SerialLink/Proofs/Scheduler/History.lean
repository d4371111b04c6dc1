import Mathlib.Data.List.Induction
import SerialLink.Proofs.Scheduler.Calls
import SerialLink.Transport.Logged

/-!
Following a history. The deeds of a run can be cut anywhere (`Steps.of_append`) and followed from
the first to the last (`Steps.along`). They are done at the times of their calls, in the same order,
and the frames that the transport has taken are those of the deeds (`Run.history`).
-/

namespace SerialLink.Scheduler

/-- A deed of two histories, one after the other, is in the first or in the second. -/
theorem cut_append {first second before after : List Deed} {deed : Deed}
    (cut : first ++ second = before ++ deed :: after) :
    (∃ rest, first = before ++ deed :: rest) ∨
      ∃ between, before = first ++ between ∧ second = between ++ deed :: after := by
  rcases List.append_eq_append_iff.mp cut with ⟨between, eq, behind⟩ | ⟨rest, eq, behind⟩
  · exact .inr ⟨between, eq, behind⟩
  · rcases List.cons_eq_append_iff.mp behind with ⟨rfl, second⟩ | ⟨rest, rfl, -⟩
    · rw [List.append_nil] at eq
      exact .inr ⟨[], by rw [eq, List.append_nil], second⟩
    · exact .inl ⟨rest, eq⟩

section Following

variable {τ : Type} [Transport τ]

theorem Steps.of_append {s s'' : Scheduler τ} {first second : List Deed}
    (steps : Steps s (first ++ second) s'') :
    ∃ s' : Scheduler τ, Steps s first s' ∧ Steps s' second s'' := by
  induction first generalizing s with
  | nil => exact ⟨s, .nil s, steps⟩
  | cons deed first ih =>
    cases steps with
    | cons step rest =>
      obtain ⟨s', before, after⟩ := ih rest
      exact ⟨s', .cons step before, after⟩

theorem Steps.of_cons {s s'' : Scheduler τ} {deed : Deed} {deeds : List Deed}
    (steps : Steps s (deed :: deeds) s'') :
    ∃ s' : Scheduler τ, Step s deed s' ∧ Steps s' deeds s'' := by
  cases steps with
  | cons step rest => exact ⟨_, step, rest⟩

/-- Induction from the first deed on, with the state that the deeds so far have led to. -/
theorem Steps.along {start : Scheduler τ} (holds : List Deed → Scheduler τ → Prop)
    (nil : holds [] start)
    (snoc : ∀ {deeds : List Deed} {s s' : Scheduler τ} {deed : Deed}, Steps start deeds s →
      holds deeds s → Step s deed s' → holds (deeds ++ [deed]) s')
    {deeds : List Deed} {s : Scheduler τ} (steps : Steps start deeds s) : holds deeds s := by
  induction deeds using List.reverseRecOn generalizing s with
  | nil =>
    cases steps
    exact nil
  | append_singleton deeds deed ih =>
    obtain ⟨s', before, last⟩ := steps.of_append
    obtain ⟨s'', step, none⟩ := last.of_cons
    cases none
    exact snoc before (ih before) step

end Following

/-! ### Times -/

variable {τ : Type}

/-- What is done at some time is done in a call at that time. -/
theorem Accounts.time_mem {trace : Trace τ} {deeds : List Deed} (accounts : Accounts trace deeds)
    {time : Nat} (timed : time ∈ deeds.filterMap Deed.time?) : time ∈ trace.times := by
  obtain ⟨deed, mem, done⟩ := List.mem_filterMap.mp timed
  obtain ⟨entry, listed, permits⟩ := accounts.permitted deed mem
  exact List.mem_filterMap.mpr ⟨entry, listed, permits.time_eq done⟩

/-- If the clock of the calls does not go back, neither does that of the deeds. -/
theorem Accounts.times_snoc {trace : Trace τ} {act : Act τ} {outcome : Outcome}
    {deeds later : List Deed} (before : Accounts trace deeds)
    (last : Accounts [(act, outcome)] later)
    (ordered : trace.times.Pairwise (· ≤ ·) → (deeds.filterMap Deed.time?).Pairwise (· ≤ ·))
    (clock : (Trace.times (trace ++ [(act, outcome)])).Pairwise (· ≤ ·)) :
    ((deeds ++ later).filterMap Deed.time?).Pairwise (· ≤ ·) := by
  have split : Trace.times (trace ++ [(act, outcome)]) =
      trace.times ++ Trace.times [(act, outcome)] := List.filterMap_append
  rw [split, List.pairwise_append] at clock
  obtain ⟨first, -, between⟩ := clock
  -- All deeds of one call are done at its time.
  have same : ∀ time ∈ later.filterMap Deed.time?, act.time? = some time := by
    intro time mem
    obtain ⟨deed, listed, done⟩ := List.mem_filterMap.mp mem
    exact (last.permits listed).time_eq done
  rw [List.filterMap_append, List.pairwise_append]
  refine ⟨ordered first, ?_, ?_⟩
  · refine List.pairwise_of_forall_mem_list fun a memA b memB => ?_
    have eq := (same a memA).symm.trans (same b memB)
    exact Nat.le_of_eq (Option.some.inj eq)
  · intro a memA b memB
    exact between a (before.time_mem memA) b (last.time_mem memB)

/-! ### Frames -/

/-- The frame that the transport takes. -/
def Deed.taken? : Deed → Option Bytes
  | .sent _ _ frame _ => some frame
  | _ => none

/-- If the transport changes on its own, it does not forget or make up frames that it was given. -/
def Act.KeepsFrames : Act (LoggedTransport τ) → Prop
  | .changeTransport change => ∀ t : LoggedTransport τ, (change t).frames = t.frames
  | _ => True

variable [Transport τ]

theorem frames_of_send {t t' : LoggedTransport τ} {frame : Bytes}
    (taken : Transport.send frame t = (.ok (), t')) : t'.frames = t.frames ++ [frame] := by
  change LoggedTransport.send frame t = (.ok (), t') at taken
  unfold LoggedTransport.send at taken
  dsimp only at taken
  split at taken <;> cases taken
  rfl

theorem frames_of_refused {t t' : LoggedTransport τ} {frame : Bytes} {fault : TransportFault}
    (refused : Transport.send frame t = (.error fault, t')) : t'.frames = t.frames := by
  change LoggedTransport.send frame t = (.error fault, t') at refused
  unfold LoggedTransport.send at refused
  dsimp only at refused
  split at refused <;> cases refused
  rfl

theorem frames_of_start {t t' : LoggedTransport τ} {result : Except TransportFault Unit}
    (started : Transport.start t = (result, t')) : t'.frames = t.frames := by
  cases started
  rfl

/-- A step has the transport take the frame of its deed, and no other. -/
theorem Step.frames_eq {s s' : Scheduler (LoggedTransport τ)} {deed : Deed} (step : Step s deed s')
    (kept : deed ≠ .changed) :
    s'.transport.frames = s.transport.frames ++ deed.taken?.toList := by
  cases step with
  | quiet aside => cases aside <;> exact (List.append_nil _).symm
  | send now _ _ _ _ _ taken => exact frames_of_send taken
  | turnBack _ refused => exact (frames_of_refused refused).trans (List.append_nil _).symm
  | start _ started => exact (frames_of_start started).trans (List.append_nil _).symm
  | startFailed _ failed => exact (frames_of_start failed).trans (List.append_nil _).symm
  | change => exact absurd rfl kept
  | _ => exact (List.append_nil _).symm

theorem Steps.frames_eq {s s' : Scheduler (LoggedTransport τ)} {deeds : List Deed}
    (steps : Steps s deeds s') (kept : ∀ deed ∈ deeds, deed ≠ .changed) :
    s'.transport.frames = s.transport.frames ++ deeds.filterMap Deed.taken? :=
  Steps.log_eq (fun s => s.transport.frames) Deed.taken? Step.frames_eq steps kept

/-- The frames that a call has the transport take are those of its deeds. -/
theorem frames_perform {s : Scheduler (LoggedTransport τ)} {act : Act (LoggedTransport τ)}
    {outcome : Outcome} {deeds : List Deed} (steps : Steps s deeds (s.perform act).2)
    (accounts : Accounts [(act, outcome)] deeds) (kept : act.KeepsFrames) :
    (s.perform act).2.transport.frames = s.transport.frames ++ deeds.filterMap Deed.taken? := by
  by_cases changes : ∃ change, act = .changeTransport change
  · obtain ⟨change, rfl⟩ := changes
    have none : deeds.filterMap Deed.taken? = [] := by
      refine List.filterMap_eq_nil_iff.mpr fun deed mem => ?_
      have permits := accounts.permits mem
      cases deed with
      | sent => cases permits
      | _ => rfl
    rw [none, List.append_nil]
    exact kept s.transport
  · refine steps.frames_eq ?_
    rintro deed mem rfl
    exact changes (accounts.permits mem)

/-- A run has a history: deeds that account for its trace, in the order of its times, and whose
frames are those that the transport has taken. -/
theorem Run.history {start s : Scheduler (LoggedTransport τ)} {trace : Trace (LoggedTransport τ)}
    (run : Run start trace s) (kept : ∀ act ∈ trace.map Prod.fst, act.KeepsFrames) :
    ∃ deeds : List Deed, Steps start deeds s ∧ Accounts trace deeds ∧
      s.transport.frames = start.transport.frames ++ deeds.filterMap Deed.taken? ∧
      (trace.times.Pairwise (· ≤ ·) → (deeds.filterMap Deed.time?).Pairwise (· ≤ ·)) := by
  induction run with
  | nil =>
    exact ⟨[], .nil start, .nothing rfl rfl rfl rfl, (List.append_nil _).symm, fun _ => .nil⟩
  | @snoc trace s run act ih =>
    rw [List.map_append] at kept
    have last : act.KeepsFrames := kept act (by simp)
    obtain ⟨deeds, steps, accounts, frames, ordered⟩ :=
      ih fun act mem => kept act (List.mem_append_left _ mem)
    obtain ⟨later, steps', accounts'⟩ := perform_steps s act
    refine ⟨deeds ++ later, steps.append steps', accounts.append accounts', ?_,
      accounts.times_snoc accounts' ordered⟩
    rw [frames_perform steps' accounts' last, frames, List.filterMap_append, List.append_assoc]

theorem performAll_acts (s : Scheduler τ) (acts : List (Act τ)) :
    (s.performAll acts).1.map Prod.fst = acts := by
  induction acts generalizing s with
  | nil => rfl
  | cons act acts ih => exact congrArg (act :: ·) (ih _)

end SerialLink.Scheduler
