import SerialLink.Link.Shared
import SerialLink.Proofs.Event.Subscribers
import SerialLink.Proofs.Scheduler.Lifecycle

/-!
In which order users are told. What the parties have taken stands in the order in which the
scheduler collected it. What they have fired need not: a party that works while another one still
has something to fire may be done first (`SharedLink.disconnected_before_connected`). In no other
way do the two orders come to differ (`SharedLink.Steps.heard_in_order`), so each party's own
completions are fired in their order, and where nobody works while something waits, all are
(`Taken.Orderly.eq_of_alone`).

The invariant is `Taken.Orderly`. A completion that waits behind another one is of the same party,
which then fires it later, or was taken beside the other one.
-/
namespace SerialLink

/-! ### What is taken -/

namespace Taken

/-- The first one may be fired before the second one: it was taken before it, or else by another
party, and while the second one waited to be fired. -/
def MayPrecede (first second : Taken) : Prop :=
  first.place < second.place ∨ first.party ≠ second.party ∧ second.place ∈ first.beside

/-- The second one was taken later, and if not by the same party, then while the first one waited to
be fired. -/
def Follows (first second : Taken) : Prop :=
  first.place < second.place ∧ (first.party = second.party ∨ first.place ∈ second.beside)

theorem Follows.mayPrecede {first second : Taken} (follows : Follows first second) :
    MayPrecede first second := .inl follows.1

/-- Only its own party fires something first. -/
theorem Follows.overtakes {first second : Taken} (follows : Follows first second)
    (apart : first.party ≠ second.party) : MayPrecede second first :=
  .inr ⟨apart.symm, follows.2.resolve_left apart⟩

theorem length_together (party : Party) (place : Nat) (beside : List Nat)
    (completions : List Completion) :
    (together party place beside completions).length = completions.length := List.length_mapIdx

theorem map_place_together (party : Party) (place : Nat) (beside : List Nat)
    (completions : List Completion) :
    (together party place beside completions).map Taken.place =
      (List.range completions.length).map (place + ·) := by
  refine List.ext_getElem ?_ fun i _ _ => ?_
  · rw [List.length_map, length_together, List.length_map, List.length_range]
  · simp only [together, List.getElem_map, List.getElem_mapIdx, List.getElem_range]

theorem map_completion_together (party : Party) (place : Nat) (beside : List Nat)
    (completions : List Completion) :
    (together party place beside completions).map Taken.completion = completions := by
  refine List.ext_getElem ?_ fun i _ _ => ?_
  · rw [List.length_map, length_together]
  · simp only [together, List.getElem_map, List.getElem_mapIdx]

theorem of_mem_together {party : Party} {place : Nat} {beside : List Nat}
    {completions : List Completion} {taken : Taken}
    (mem : taken ∈ together party place beside completions) :
    taken.party = party ∧ place ≤ taken.place ∧ taken.beside = beside := by
  obtain ⟨i, _, rfl⟩ := List.mem_mapIdx.mp mem
  exact ⟨rfl, Nat.le_add_right place i, rfl⟩

/-- What a party takes together follows one another. -/
theorem pairwise_together (party : Party) (place : Nat) (beside : List Nat)
    (completions : List Completion) :
    (together party place beside completions).Pairwise Follows := by
  have increasing : (together party place beside completions).Pairwise
      fun first second => first.place < second.place := by
    refine List.pairwise_map.mp ?_
    rw [map_place_together, List.pairwise_map]
    exact List.pairwise_lt_range.imp fun less => Nat.add_lt_add_left less place
  refine increasing.imp_of_mem fun first second less => ⟨less, .inl ?_⟩
  rw [(of_mem_together first).1, (of_mem_together second).1]

end Taken

/-! ### What is fired -/

/-- What has been taken has been fired or waits, once each, in an order that is the one of taking
but where a party overtakes another one. -/
structure Taken.Orderly (taken fired waiting : List Taken) : Prop where
  places : taken.map place = List.range taken.length
  perm : (fired ++ waiting).Perm taken
  follows : waiting.Pairwise Follows
  precede : (fired ++ waiting).Pairwise MayPrecede

namespace Taken.Orderly

variable {taken fired waiting : List Taken}

theorem place_lt (orderly : Orderly taken fired waiting) {one : Taken}
    (mem : one ∈ fired ++ waiting) : one.place < taken.length := by
  have place := List.mem_map_of_mem (f := Taken.place) (orderly.perm.mem_iff.mp mem)
  rw [orderly.places] at place
  exact List.mem_range.mp place

/-- A party takes what has been collected. -/
theorem work (orderly : Orderly taken fired waiting) (party : Party)
    (completions : List Completion) :
    Orderly (taken ++ together party taken.length (waiting.map place) completions) fired
      (waiting ++ together party taken.length (waiting.map place) completions) where
  places := by
    rw [List.map_append, orderly.places, map_place_together, List.length_append,
      length_together, List.range_add]
  perm := by
    rw [← List.append_assoc]
    exact orderly.perm.append_right _
  follows := by
    refine List.pairwise_append.mpr ⟨orderly.follows, pairwise_together .., ?_⟩
    intro old mem new mem'
    obtain ⟨-, place, beside⟩ := of_mem_together mem'
    refine ⟨Nat.lt_of_lt_of_le (orderly.place_lt (List.mem_append_right _ mem)) place, .inr ?_⟩
    rw [beside]
    exact List.mem_map_of_mem mem
  precede := by
    rw [← List.append_assoc]
    refine List.pairwise_append.mpr
      ⟨orderly.precede, (pairwise_together ..).imp Follows.mayPrecede, ?_⟩
    intro old mem new mem'
    exact .inl (Nat.lt_of_lt_of_le (orderly.place_lt mem) (of_mem_together mem').2.1)

/-- A party fires the first that it has taken. It overtakes those that wait before it. -/
theorem fire {next : Taken} {before after : List Taken}
    (orderly : Orderly taken fired (before ++ next :: after))
    (apart : ∀ other ∈ before, other.party ≠ next.party) :
    Orderly taken (fired ++ [next]) (before ++ after) where
  places := orderly.places
  perm := by
    rw [List.append_assoc, List.singleton_append]
    exact (List.perm_middle.symm.append_left fired).trans orderly.perm
  follows := orderly.follows.sublist ((List.sublist_cons_self next after).append_left before)
  precede := by
    obtain ⟨done, -, across⟩ := List.pairwise_append.mp orderly.precede
    obtain ⟨-, ahead, behind⟩ := List.pairwise_append.mp orderly.follows
    have rest : (before ++ after).Pairwise Follows :=
      orderly.follows.sublist ((List.sublist_cons_self next after).append_left before)
    rw [List.append_assoc, List.singleton_append]
    refine List.pairwise_append.mpr
      ⟨done, List.pairwise_cons.mpr ⟨?_, rest.imp Follows.mayPrecede⟩, ?_⟩
    · intro other mem
      rcases List.mem_append.mp mem with mem | mem
      · exact (behind other mem next (List.mem_cons_self ..)).overtakes (apart other mem)
      · exact ((List.pairwise_cons.mp ahead).1 other mem).mayPrecede
    · intro early mem other mem'
      exact across early mem other (List.perm_middle.mem_iff.mpr mem')

/-- When nothing is taken while something waits, everything is fired in the order of taking. -/
theorem eq_of_alone (orderly : Orderly taken fired waiting)
    (alone : ∀ one ∈ taken, one.beside = []) : fired ++ waiting = taken := by
  have sorted : (fired ++ waiting).Pairwise fun first second => first.place < second.place := by
    refine orderly.precede.imp_of_mem fun mem _ precede => ?_
    rcases precede with less | ⟨-, beside⟩
    · exact less
    · rw [alone _ (orderly.perm.mem_iff.mp mem)] at beside
      exact absurd beside List.not_mem_nil
  have increasing : taken.Pairwise fun first second => first.place < second.place := by
    refine List.pairwise_map.mp ?_
    rw [orderly.places]
    exact List.pairwise_lt_range
  refine orderly.perm.eq_of_pairwise ?_ sorted increasing
  intro first second _ _ less more
  exact absurd more (Nat.lt_asymm less)

end Taken.Orderly

namespace SharedLink

variable {τ : Type}

/-- A link to which nothing has happened yet. -/
def new (scheduler : Scheduler τ) : SharedLink τ := { link := { scheduler := scheduler } }

theorem orderly_new (scheduler : Scheduler τ) :
    Taken.Orderly (new scheduler).taken (new scheduler).fired (new scheduler).waiting :=
  ⟨rfl, .nil, .nil, .nil⟩

/-- What is fired next is the first that its party has taken. -/
theorem split_of_find? {waiting : List Taken} {next : Taken}
    (first : waiting.find? (·.party = next.party) = some next) :
    ∃ before after : List Taken, waiting = before ++ next :: after ∧
      (∀ other ∈ before, other.party ≠ next.party) ∧ waiting.erase next = before ++ after := by
  obtain ⟨-, before, after, rfl, others⟩ := List.find?_eq_some_iff_append.mp first
  have apart : ∀ other ∈ before, other.party ≠ next.party := by
    intro other mem
    simpa using others other mem
  have fresh : next ∉ before := fun mem => apart next mem rfl
  refine ⟨before, after, rfl, apart, ?_⟩
  rw [List.erase_append_right _ fresh, List.erase_cons_head]

variable [Transport τ]

theorem Step.orderly {s t : SharedLink τ} (step : Step s t)
    (orderly : Taken.Orderly s.taken s.fired s.waiting) :
    Taken.Orderly t.taken t.fired t.waiting := by
  cases step with
  | work => exact orderly.work _ _
  | @fire next first =>
    obtain ⟨before, after, split, apart, rest⟩ := split_of_find? first
    rw [split] at orderly
    change Taken.Orderly s.taken (s.fired ++ [next]) (s.waiting.erase next)
    rw [rest]
    exact orderly.fire apart
  | subscribe | leave | setResolver | changeTransport => exact orderly

theorem Steps.trans {s t u : SharedLink τ} (early : Steps s t) (late : Steps t u) : Steps s u := by
  induction late with
  | refl => exact early
  | tail _ step ih => exact .tail ih step

theorem Steps.orderly {s t : SharedLink τ} (steps : Steps s t)
    (orderly : Taken.Orderly s.taken s.fired s.waiting) :
    Taken.Orderly t.taken t.fired t.waiting := by
  induction steps with
  | refl => exact orderly
  | tail _ step ih => exact step.orderly ih

/-! ### Calls that are not interrupted -/

/-- A party that nobody interrupts fires all it has taken. -/
theorem steps_fire {s : SharedLink τ} {party : Party}
    (own : ∀ taken ∈ s.waiting, taken.party = party) :
    ∃ t : SharedLink τ, Steps s t ∧ t.waiting = [] ∧ t.taken = s.taken ∧
      t.fired = s.fired ++ s.waiting ∧
      t.link = (s.waiting.map Taken.completion).foldl Link.fire s.link := by
  induction waits : s.waiting generalizing s with
  | nil => exact ⟨s, .refl, waits, rfl, (List.append_nil _).symm, rfl⟩
  | cons next rest ih =>
    have first : s.waiting.find? (·.party = next.party) = some next := by
      rw [waits, List.find?_cons_of_pos (by simp)]
    have remain : (s.fire next).waiting = rest := by
      change s.waiting.erase next = rest
      rw [waits, List.erase_cons_head]
    have others : ∀ taken ∈ (s.fire next).waiting, taken.party = party := by
      intro taken mem
      rw [remain] at mem
      exact own taken (waits ▸ List.mem_cons_of_mem next mem)
    obtain ⟨t, steps, empty, taken, fired, link⟩ := ih others remain
    refine ⟨t, (Steps.tail .refl (.fire first)).trans steps, empty, taken, ?_, link⟩
    rw [fired]
    exact List.append_assoc s.fired [next] rest

/-- A call of the link, with all that it fires, is one way for the parties to proceed. -/
theorem steps_perform {s : SharedLink τ} {party : Party} {act : Scheduler.Act τ}
    (does : party.does act) (quiet : s.waiting = []) :
    ∃ t : SharedLink τ, Steps s t ∧ t.waiting = [] ∧
      t.link = (s.link.perform fun scheduler => scheduler.perform act).2 := by
  have idle : ∀ taken ∈ s.waiting, taken.party ≠ party := by
    rw [quiet]
    exact nofun
  have waits : (s.work party act).waiting =
      Taken.together party s.taken.length [] (s.link.scheduler.perform act).2.completions := by
    change s.waiting ++ Taken.together party s.taken.length (s.waiting.map Taken.place) _ = _
    rw [quiet]
    rfl
  have own : ∀ taken ∈ (s.work party act).waiting, taken.party = party := by
    rw [waits]
    exact fun taken mem => (Taken.of_mem_together mem).1
  obtain ⟨t, steps, empty, -, -, link⟩ := steps_fire own
  refine ⟨t, (Steps.tail .refl (.work party act does idle)).trans steps, empty, ?_⟩
  rw [link, waits, Taken.map_completion_together]
  rfl

/-! ### What is heard -/

/-- Whatever happens to the link, a subscription hears of what is fired. -/
theorem Step.heard {s t : SharedLink τ} (step : Step s t) {index : Nat} {filter : EventFilter}
    {events : List LinkEvent} (heard : s.link.subscribers.Heard index filter events) :
    ∃ fired : List Taken, t.fired = s.fired ++ fired ∧
      t.link.subscribers.Heard index filter
        (events ++ fired.filterMap fun taken => taken.completion.event?) := by
  have silent {subscribers : Subscribers} (heard : subscribers.Heard index filter events) :
      ∃ fired : List Taken, s.fired = s.fired ++ fired ∧
        subscribers.Heard index filter
          (events ++ fired.filterMap fun taken => taken.completion.event?) := by
    refine ⟨[], (List.append_nil _).symm, ?_⟩
    rw [List.filterMap_nil, List.append_nil]
    exact heard
  cases step with
  | @fire next =>
    refine ⟨[next], rfl, ?_⟩
    have fired := heard.fire next.completion
    rw [List.filterMap_cons, List.filterMap_nil]
    cases told : next.completion.event? <;> exact told ▸ fired
  | subscribe other => exact silent (heard.subscribe other)
  | leave gone => exact silent (heard.drop gone)
  | work | setResolver | changeTransport => exact silent heard

theorem Steps.heard {s t : SharedLink τ} (steps : Steps s t) {index : Nat} {filter : EventFilter}
    (heard : s.link.subscribers.Heard index filter []) :
    ∃ fired : List Taken, t.fired = s.fired ++ fired ∧
      t.link.subscribers.Heard index filter
        (fired.filterMap fun taken => taken.completion.event?) := by
  induction steps with
  | refl => exact ⟨[], (List.append_nil _).symm, heard⟩
  | tail _ step ih =>
    obtain ⟨early, fired, heard⟩ := ih
    obtain ⟨late, fired', heard'⟩ := step.heard heard
    refine ⟨early ++ late, ?_, ?_⟩
    · rw [fired', fired, List.append_assoc]
    · rw [List.filterMap_append]
      exact heard'

/-- **Users are told in order, but for overtaking.** Let any parties work on a new link, in any
interleaving, and let somebody subscribe at some time. As long as the receiver is there, it has been
delivered exactly the events that were fired since and pass its filter, each once and in the order
of firing; and all that was taken from the scheduler has been fired or waits to be, once. Of two
completions the one fired first was also taken first, unless the other one was taken by another
party that had not fired it yet when the one was taken. -/
theorem Steps.heard_in_order {scheduler : Scheduler τ} {s t : SharedLink τ} {filter : EventFilter}
    (before : Steps (new scheduler) s) (after : Steps (s.subscribe filter) t) :
    ∃ fired : List Taken, t.fired = s.fired ++ fired ∧
      t.link.subscribers.Heard s.link.subscribers.subscriptions.length filter
        (fired.filterMap fun taken => taken.completion.event?) ∧
      t.taken.map Taken.place = List.range t.taken.length ∧
      (t.fired ++ t.waiting).Perm t.taken ∧ fired.Pairwise Taken.MayPrecede := by
  obtain ⟨fired, eq, heard⟩ := after.heard (s.link.subscribers.heard_subscribe filter)
  have orderly : Taken.Orderly t.taken t.fired t.waiting :=
    after.orderly (before.orderly (orderly_new scheduler))
  have precede := orderly.precede
  rw [eq] at precede
  refine ⟨fired, eq, heard, orderly.places, orderly.perm, ?_⟩
  exact (List.pairwise_append.mp (List.pairwise_append.mp precede).1).2.1

/-! ### A session closed while it is reported -/

open Scheduler (selfConnecting)

/-- One caller has opened a session. The runtime has heard that it is operational, and another
caller has closed it. Neither has fired anything yet. -/
def closing : SharedLink SimulatedTransport :=
  let opened := ((new selfConnecting).subscribe .connection).work (.caller 0) .openSession
  let reported := { opened with link := opened.link.mapTransport fun t => { t with events := [] } }
  (reported.work .runtime (.handleEvent ⟨1, .connected⟩ 0)).work (.caller 1) .closeSession

/-- What the runtime has taken. -/
def connectedTaken : Taken := ⟨.runtime, .event .connected, 0, []⟩

/-- What the caller has taken. -/
def disconnectedTaken : Taken := ⟨.caller 1, .event (.disconnected .normal), 1, [0]⟩

theorem steps_closing : Steps ((new selfConnecting).subscribe .connection) closing := by
  have opened : Steps ((new selfConnecting).subscribe .connection) _ :=
    .tail .refl (.work (.caller 0) .openSession rfl nofun)
  have reported := Steps.tail opened (.changeTransport fun t => { t with events := [] })
  have heard := Steps.tail reported
    (.work .runtime (.handleEvent ⟨1, .connected⟩ 0) rfl (by decide +kernel))
  exact Steps.tail heard (.work (.caller 1) .closeSession rfl (by decide +kernel))

/-- **A subscriber may hear the end of a session before its start.** The caller is done with firing
before the runtime begins. -/
theorem disconnected_before_connected :
    ∃ t : SharedLink SimulatedTransport,
      Steps ((new selfConnecting).subscribe .connection) t ∧ t.waiting = [] ∧
        t.taken.map Taken.completion = [.event .connected, .event (.disconnected .normal)] ∧
        t.link.subscribers.inbox 0 = [.disconnected .normal, .connected] := by
  refine ⟨(closing.fire disconnectedTaken).fire connectedTaken, ?_, ?_, ?_, ?_⟩
  · refine .tail (.tail steps_closing (.fire ?_)) (.fire ?_)
    · decide +kernel
    · decide +kernel
  · decide +kernel
  · decide +kernel
  · decide +kernel

/-- The runtime is done first, and the subscriber hears both in order. -/
theorem Steps.heard_in_order_of_closing :
    let t := (closing.fire connectedTaken).fire disconnectedTaken
    Steps (new selfConnecting) (new selfConnecting) ∧
      Steps ((new selfConnecting).subscribe .connection) t ∧
      t.link.subscribers.Heard 0 .connection [.connected, .disconnected .normal] ∧
      t.fired = [connectedTaken, disconnectedTaken] ∧ t.fired.Pairwise Taken.MayPrecede := by
  intro t
  have before : Steps (new selfConnecting) (new selfConnecting) := .refl
  have after : Steps ((new selfConnecting).subscribe .connection) t :=
    .tail (.tail steps_closing (.fire (by decide +kernel))) (.fire (by decide +kernel))
  have all : t.fired = [connectedTaken, disconnectedTaken] := by decide +kernel
  obtain ⟨fired, eq, heard, -, -, precede⟩ := heard_in_order before after
  have since : t.fired = fired := eq
  rw [← since] at heard precede
  rw [all] at heard
  exact ⟨before, after, heard, all, precede⟩

end SharedLink

end SerialLink
