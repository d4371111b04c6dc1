import SerialLink.Event.Subscribers

/-!
What subscribers hear. A subscription whose receiver is there stays on the list, and an event that
passes its filter goes behind those that are in its inbox, whatever becomes of other subscriptions
(`Subscription.Heard.deliver`). So what it has heard is what was published since it was made
(`Subscribers.Heard`).
-/
namespace SerialLink

/-- The event that subscribers are told of. The outcome of a command is told to nobody else. -/
def Completion.event? : Completion → Option LinkEvent
  | .command .. => none
  | .request id status => some (.requestCompleted id status)
  | .event e => some e

/-- While its receiver is there, the subscription has been delivered, of these events, those that
pass the filter, each once and in order. -/
structure Subscription.Heard (sub : Subscription) (filter : EventFilter) (events : List LinkEvent) :
    Prop where
  filter_eq : sub.filter = filter
  of_live : sub.live = true → sub.listed = true ∧ sub.inbox = events.filter filter.passes

theorem Subscription.Heard.deliver {sub : Subscription} {filter : EventFilter}
    {events : List LinkEvent} (heard : sub.Heard filter events) (event : LinkEvent) :
    (sub.deliver event).Heard filter (events ++ [event]) := by
  obtain ⟨rfl, of_live⟩ := heard
  unfold Subscription.deliver
  split
  case isTrue wanted =>
    split
    case isTrue live =>
      obtain ⟨listed, inbox⟩ := of_live live
      refine ⟨rfl, fun _ => ⟨listed, ?_⟩⟩
      rw [List.filter_append, List.filter_cons_of_pos wanted.2, ← inbox]
      rfl
    case isFalse gone => exact ⟨rfl, fun live => absurd live gone⟩
  case isFalse unwanted =>
    refine ⟨rfl, fun live => ?_⟩
    obtain ⟨listed, inbox⟩ := of_live live
    have stopped : ¬ sub.filter.passes event = true := fun passes => unwanted ⟨listed, passes⟩
    rw [List.filter_append, List.filter_cons_of_neg stopped, List.filter_nil, List.append_nil]
    exact ⟨listed, inbox⟩

namespace Subscribers

/-- There is a subscription of this number, and these are the events that it has been told of, or
not, depending on its filter. -/
def Heard (s : Subscribers) (index : Nat) (filter : EventFilter) (events : List LinkEvent) : Prop :=
  ∃ sub, s.subscriptions[index]? = some sub ∧ sub.Heard filter events

/-- A new subscription has heard nothing. -/
theorem heard_subscribe (s : Subscribers) (filter : EventFilter) :
    (s.subscribe filter).Heard s.subscriptions.length filter [] := by
  refine ⟨{ filter := filter }, ?_, rfl, fun _ => ⟨rfl, rfl⟩⟩
  unfold subscribe
  rw [List.getElem?_append_right (Nat.le_refl _), Nat.sub_self]
  rfl

namespace Heard

variable {s : Subscribers} {index : Nat} {filter : EventFilter} {events : List LinkEvent}

theorem subscribe (heard : s.Heard index filter events) (other : EventFilter) :
    (s.subscribe other).Heard index filter events := by
  obtain ⟨sub, found, heard⟩ := heard
  refine ⟨sub, ?_, heard⟩
  unfold Subscribers.subscribe
  rw [List.getElem?_append_left (List.getElem?_eq_some_iff.mp found).1, found]

/-- Nothing is said of a subscription whose receiver is gone. -/
theorem drop (heard : s.Heard index filter events) (gone : Nat) :
    (s.drop gone).Heard index filter events := by
  obtain ⟨sub, found, heard⟩ := heard
  unfold Heard Subscribers.drop
  rw [List.getElem?_modify, found]
  refine ⟨_, rfl, ?_⟩
  dsimp only
  split
  case isTrue => exact ⟨heard.filter_eq, nofun⟩
  case isFalse => exact heard

theorem publish (heard : s.Heard index filter events) (event : LinkEvent) :
    (s.publish event).Heard index filter (events ++ [event]) := by
  obtain ⟨sub, found, heard⟩ := heard
  refine ⟨sub.deliver event, ?_, heard.deliver event⟩
  unfold Subscribers.publish
  rw [List.getElem?_map, found]
  rfl

theorem fire (heard : s.Heard index filter events) (completion : Completion) :
    (completion.fire s).2.Heard index filter (events ++ completion.event?.toList) := by
  cases completion with
  | command =>
    rw [Completion.event?, Option.toList_none, List.append_nil]
    exact heard
  | request | event => exact heard.publish _

end Heard

end Subscribers

end SerialLink
