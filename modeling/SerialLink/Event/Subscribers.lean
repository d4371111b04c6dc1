import SerialLink.Event

/-!
Subscribers. Each subscription has an inbox of its own; an event goes into the inbox of every
subscription whose filter it passes.

A subscription whose receiver is gone stays on the list until an event would have gone to it.
-/
namespace SerialLink

/-- One subscription. -/
structure Subscription where
  filter : EventFilter
  /-- The receiver still takes events. -/
  live : Bool := true
  /-- It has not been struck off the list. -/
  listed : Bool := true
  /-- Events delivered and not taken yet. -/
  inbox : List LinkEvent := []
  deriving DecidableEq, Repr

namespace Subscription

/-- Delivers an event, or strikes the subscription off if nobody receives. -/
def deliver (event : LinkEvent) (s : Subscription) : Subscription :=
  if s.listed ∧ s.filter.passes event then
    if s.live then { s with inbox := s.inbox ++ [event] } else { s with listed := false }
  else s

end Subscription

/-- All subscriptions ever made, in the order of their making. -/
structure Subscribers where
  subscriptions : List Subscription := []
  deriving DecidableEq, Repr

namespace Subscribers

/-- Adds a subscription, behind the others. -/
def subscribe (s : Subscribers) (filter : EventFilter) : Subscribers :=
  ⟨s.subscriptions ++ [{ filter := filter }]⟩

/-- Drops the receiver of a subscription with what it has not taken. -/
def drop (s : Subscribers) (index : Nat) : Subscribers :=
  ⟨s.subscriptions.modify index fun sub => { sub with live := false, inbox := [] }⟩

/-- Delivers an event. -/
def publish (s : Subscribers) (event : LinkEvent) : Subscribers :=
  ⟨s.subscriptions.map (Subscription.deliver event)⟩

/-- Subscriptions on the list. -/
def count (s : Subscribers) : Nat := s.subscriptions.countP Subscription.listed

/-- What the inboxes hold; `none` for a receiver that is gone. -/
def inboxes (s : Subscribers) : List (Option (List LinkEvent)) :=
  s.subscriptions.map fun sub => if sub.live then some sub.inbox else none

/-- What the inbox of one subscription holds. -/
def inbox (s : Subscribers) (index : Nat) : List LinkEvent :=
  (s.subscriptions[index]?.map Subscription.inbox).getD []

/-- Empties every inbox. -/
def takeAll (s : Subscribers) : Subscribers :=
  ⟨s.subscriptions.map fun sub => { sub with inbox := [] }⟩

end Subscribers

/-- A callback that was called. -/
structure Answer where
  callback : Callback
  status : CompletionStatus
  response : Option Command
  deriving DecidableEq, Repr

/-- Tells those concerned: gives the callback called, if one is, and the subscribers afterwards. -/
def Completion.fire (subscribers : Subscribers) : Completion → Option Answer × Subscribers
  | .command callback status response => (some ⟨callback, status, response⟩, subscribers)
  | .request id status => (none, subscribers.publish (.requestCompleted id status))
  | .event e => (none, subscribers.publish e)

end SerialLink
