import Mathlib.Data.List.TakeWhile
import SerialLink.Event.Subscribers

/-!
Delivery over any acts. What becomes of a subscription is told by what is done after it was made,
and of that only by the events published and by its own receiver being dropped
(`subscriptions_foldl_act`). So each can be looked at apart from the others (`Made.seen`), and over
any acts an inbox holds, of the events published since the subscription was made, those that pass
its filter, and a subscription is struck off the list once such an event was published after its
receiver was dropped (`delivered`). A publication is one pass over the list (`listing_publish`).
-/

namespace SerialLink

namespace Subscribers

/-! ### Acts -/

/-- What is done to subscribers. -/
inductive Act where
  | subscribe (filter : EventFilter)
  /-- The receiver of the subscription with this number is dropped. -/
  | drop (number : Nat)
  | publish (event : LinkEvent)
  deriving DecidableEq, Repr

/-- The subscribers after an act. -/
def act (s : Subscribers) : Act → Subscribers
  | .subscribe filter => s.subscribe filter
  | .drop number => s.drop number
  | .publish event => s.publish event

/-- The events published, in order. -/
def published (acts : List Act) : List LinkEvent :=
  acts.filterMap fun
    | .publish event => some event
    | _ => none

@[simp] theorem published_nil : published [] = [] := rfl

@[simp] theorem published_subscribe_cons (filter : EventFilter) (acts : List Act) :
    published (.subscribe filter :: acts) = published acts := rfl

@[simp] theorem published_drop_cons (number : Nat) (acts : List Act) :
    published (.drop number :: acts) = published acts := rfl

@[simp] theorem published_publish_cons (event : LinkEvent) (acts : List Act) :
    published (.publish event :: acts) = event :: published acts := rfl

/-- A subscription that was made: its number, its filter, and what was done after it. -/
structure Made where
  number : Nat
  filter : EventFilter
  later : List Act
  deriving DecidableEq, Repr

/-- The subscriptions made by the acts, numbered from the given one on. -/
def madeFrom (number : Nat) : List Act → List Made
  | [] => []
  | .subscribe filter :: later => ⟨number, filter, later⟩ :: madeFrom (number + 1) later
  | .drop _ :: later => madeFrom number later
  | .publish _ :: later => madeFrom number later

namespace Made

/-- Its receiver was dropped. -/
def Dropped (m : Made) : Prop := .drop m.number ∈ m.later

/-- An event that passes its filter was published after its receiver was dropped. -/
def Struck (m : Made) : Prop :=
  ∃ event ∈ published (m.later.dropWhile (· ≠ .drop m.number)), m.filter.passes event = true

/-- The events published since it was made that pass its filter. -/
def wanted (m : Made) : List LinkEvent := (published m.later).filter m.filter.passes

instance : DecidablePred Dropped := fun m => inferInstanceAs (Decidable (_ ∈ m.later))

instance : DecidablePred Struck := fun m =>
  inferInstanceAs (Decidable (∃ event ∈ published _, m.filter.passes event = true))

variable {number : Nat} {filter : EventFilter} {a : Act} {later : List Act}

theorem not_dropped_nil : ¬ Dropped ⟨number, filter, []⟩ := List.not_mem_nil

theorem dropped_drop_cons : Dropped ⟨number, filter, .drop number :: later⟩ :=
  List.mem_cons_self

theorem struck_drop_cons : Struck ⟨number, filter, .drop number :: later⟩ ↔
    ∃ event ∈ published later, filter.passes event = true := by
  simp [Struck]

/-- What happens before its receiver is dropped does not matter for that. -/
theorem dropped_cons (other : a ≠ .drop number) :
    Dropped ⟨number, filter, a :: later⟩ ↔ Dropped ⟨number, filter, later⟩ := by
  simp [Dropped, other.symm]

theorem struck_cons (other : a ≠ .drop number) :
    Struck ⟨number, filter, a :: later⟩ ↔ Struck ⟨number, filter, later⟩ := by
  simp [Struck, other]

theorem dropped_of_struck {m : Made} (struck : m.Struck) : m.Dropped := by
  obtain ⟨event, mem, -⟩ := struck
  by_contra kept
  have nothing : m.later.dropWhile (· ≠ .drop m.number) = [] := by
    rw [List.dropWhile_eq_nil_iff]
    intro a done
    have other : a ≠ .drop m.number := by
      rintro rfl
      exact kept done
    exact decide_eq_true other
  rw [nothing] at mem
  cases mem

end Made

end Subscribers

/-! ### One subscription -/

namespace Subscription

open Subscribers (Act Made published)

/-- What an act does to the subscription with this number. -/
def see (number : Nat) (sub : Subscription) : Act → Subscription
  | .subscribe _ => sub
  | .drop gone => if gone = number then { sub with live := false, inbox := [] } else sub
  | .publish event => sub.deliver event

variable {number : Nat} {filter : EventFilter} {event : LinkEvent} {later : List Act}

theorem deliver_of_live (inbox : List LinkEvent) :
    deliver event ⟨filter, true, true, inbox⟩ =
      ⟨filter, true, true, inbox ++ [event].filter filter.passes⟩ := by
  cases passes : filter.passes event <;> simp [deliver, passes]

theorem deliver_of_gone (listed : Bool) :
    deliver event ⟨filter, false, listed, []⟩ =
      ⟨filter, false, listed && !filter.passes event, []⟩ := by
  cases listed <;> cases passes : filter.passes event <;> simp [deliver, passes]

/-- Once its receiver was dropped, a subscription stays on the list until an event passes its
filter. -/
theorem foldl_see_of_gone (listed : Bool) :
    later.foldl (see number) ⟨filter, false, listed, []⟩ =
      ⟨filter, false, listed && !(published later).any filter.passes, []⟩ := by
  induction later generalizing listed with
  | nil => simp
  | cons act later ih =>
    cases act with
    | subscribe => exact ih listed
    | drop gone =>
      rw [List.foldl_cons, see, ite_id]
      exact ih listed
    | publish event =>
      rw [List.foldl_cons, see, deliver_of_gone, ih]
      simp [Bool.and_assoc]

/-- Up to then, what passes its filter is delivered. -/
theorem foldl_see (inbox : List LinkEvent) :
    later.foldl (see number) ⟨filter, true, true, inbox⟩ =
      let m : Made := ⟨number, filter, later⟩
      if m.Dropped then ⟨filter, false, decide ¬ m.Struck, []⟩
      else ⟨filter, true, true, inbox ++ m.wanted⟩ := by
  induction later generalizing inbox with
  | nil => simp [Made.not_dropped_nil, Made.wanted]
  | cons act later ih =>
    by_cases own : act = .drop number
    · subst own
      have gone : see number ⟨filter, true, true, inbox⟩ (.drop number) =
          ⟨filter, false, true, []⟩ := if_pos rfl
      have struck : decide (Made.Struck ⟨number, filter, .drop number :: later⟩) =
          (published later).any filter.passes := by
        rw [Bool.eq_iff_iff, decide_eq_true_iff, Made.struck_drop_cons, List.any_eq_true]
      rw [List.foldl_cons, gone, foldl_see_of_gone]
      simp only [if_pos Made.dropped_drop_cons, decide_not, struck, Bool.true_and]
    · have seen : see number ⟨filter, true, true, inbox⟩ act =
          ⟨filter, true, true, inbox ++ (published [act]).filter filter.passes⟩ := by
        cases act with
        | subscribe => simp [see]
        | drop gone =>
          have other : gone ≠ number := fun same => own (same ▸ rfl)
          simp [see, other]
        | publish event => exact deliver_of_live inbox
      have joined : published (act :: later) = published [act] ++ published later := by
        cases act <;> simp
      rw [List.foldl_cons, seen, ih]
      simp only [Made.dropped_cons own, Made.struck_cons own, Made.wanted, joined,
        List.filter_append, List.append_assoc]

end Subscription

namespace Subscribers

/-! ### All of them -/

theorem mapIdx_itself (subs : List Subscription) : subs.mapIdx (fun _ sub => sub) = subs :=
  List.ext_getElem? fun number => by simp

/-- An act does to each subscription what it does to that one alone. -/
theorem subscriptions_act (s : Subscribers) (a : Act) :
    (s.act a).subscriptions =
      s.subscriptions.mapIdx (fun number sub => sub.see number a) ++
        (madeFrom s.subscriptions.length [a]).map fun m => { filter := m.filter } := by
  cases a with
  | subscribe filter => exact congrArg (· ++ [_]) (mapIdx_itself s.subscriptions).symm
  | drop gone =>
    simp only [act, drop, madeFrom, List.map_nil, List.append_nil]
    refine List.ext_getElem? fun number => ?_
    rw [List.getElem?_modify, List.getElem?_mapIdx]
    cases s.subscriptions[number]? with
    | none => rfl
    | some sub => simp [Subscription.see]
  | publish event =>
    simp only [act, publish, madeFrom, List.map_nil, List.append_nil]
    refine List.ext_getElem? fun number => ?_
    rw [List.getElem?_map, List.getElem?_mapIdx]
    rfl

/-- What becomes of a subscription. -/
def Made.subscription (m : Made) : Subscription :=
  m.later.foldl (Subscription.see m.number) { filter := m.filter }

theorem subscriptions_foldl_act (s : Subscribers) (acts : List Act) :
    (acts.foldl act s).subscriptions =
      s.subscriptions.mapIdx (fun number sub => acts.foldl (Subscription.see number) sub) ++
        (madeFrom s.subscriptions.length acts).map Made.subscription := by
  induction acts generalizing s with
  | nil => simp [madeFrom, mapIdx_itself]
  | cons a acts ih =>
    rw [List.foldl_cons, ih, subscriptions_act, List.mapIdx_append, List.append_assoc,
      List.mapIdx_mapIdx]
    cases a with
    | subscribe filter => simp [madeFrom, Made.subscription, Function.comp_def]
    | drop gone => simp [madeFrom, Function.comp_def]
    | publish event => simp [madeFrom, Function.comp_def]

theorem Made.subscription_eq (m : Made) : m.subscription =
    if m.Dropped then ⟨m.filter, false, decide ¬ m.Struck, []⟩
    else ⟨m.filter, true, true, m.wanted⟩ :=
  Subscription.foldl_see []

theorem Made.live_subscription (m : Made) :
    (if m.subscription.live then some m.subscription.inbox else none) =
      if m.Dropped then none else some m.wanted := by
  rw [m.subscription_eq]
  split <;> rfl

theorem Made.listed_subscription (m : Made) : m.subscription.listed = !decide m.Struck := by
  rw [m.subscription_eq]
  split
  case isTrue => exact decide_not
  case isFalse kept =>
    have unstruck : ¬ m.Struck := fun struck => kept (dropped_of_struck struck)
    rw [decide_eq_false unstruck]
    rfl

/-- The subscriptions on the list, in order. -/
def listing (s : Subscribers) : List Subscription := s.subscriptions.filter Subscription.listed

/-- A publication is one pass over the list. What does not want the event stays, and what wants it
stays if it can be given it. -/
theorem listing_publish (s : Subscribers) (event : LinkEvent) :
    (s.publish event).listing =
      (s.listing.filter fun sub => !sub.filter.passes event || sub.live).map
        (Subscription.deliver event) := by
  unfold listing publish
  rw [List.filter_map, List.filter_filter]
  congr 1
  refine List.filter_congr fun sub _ => ?_
  obtain ⟨filter, live, listed, inbox⟩ := sub
  cases live <;> cases listed <;> cases passes : filter.passes event <;>
    simp [Subscription.deliver, passes]

/-- **Subscribers hear what they asked for.** After any acts, a subscription whose receiver is there
has been delivered, of the events published since it was made, those that pass its filter, each once
and in order, whatever became of other subscriptions. On the list are all that were made, less those
for which such an event was published after their receiver was dropped. -/
theorem delivered (acts : List Act) :
    let s : Subscribers := acts.foldl act {}
    let made := madeFrom 0 acts
    s.inboxes = made.map (fun m => if m.Dropped then none else some m.wanted) ∧
      s.count + made.countP (fun m => m.Struck) = made.length := by
  intro s made
  have all : s.subscriptions = made.map Made.subscription := subscriptions_foldl_act {} acts
  constructor
  · rw [inboxes, all, List.map_map]
    exact List.map_congr_left fun m _ => m.live_subscription
  · have kept : s.count = made.countP fun m => !decide m.Struck := by
      rw [count, all, List.countP_map]
      exact List.countP_congr fun m _ => by simp [m.listed_subscription]
    rw [kept, Nat.add_comm, List.length_eq_countP_add_countP fun m : Made => decide m.Struck]
    simp

/-- One receiver is dropped before an event that it wants and one after; of the events, the last is
wanted by the third subscription alone. -/
example : let acts : List Act := [.subscribe .all, .subscribe .connection, .publish .connected,
      .drop 0, .subscribe .requests, .publish .bootloaderActive, .drop 1,
      .publish (.requestCompleted ⟨7⟩ .success)]
    let s : Subscribers := acts.foldl act {}
    s.inboxes = [none, none, some [.requestCompleted ⟨7⟩ .success]] ∧ s.count = 2 := by
  decide

end Subscribers

end SerialLink
