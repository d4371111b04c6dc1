import SerialLink.Link
import SerialLink.Scheduler.Run

/-!
A link that several parties work on at once: its runtime, and any number of callers. A section of
work on the scheduler is not interrupted, and ends with the party taking everything that was
collected. The party then fires what it has taken, one completion at a time. Meanwhile others may
work, take and fire, and nothing makes them wait for it.
-/
namespace SerialLink

/-- Who works on a link. A call made from within a callback counts as one of another caller. -/
inductive Party where
  | runtime
  | caller (number : Nat)
  deriving DecidableEq, Repr

/-- What a party does to the scheduler. -/
def Party.does {τ : Type} : Party → Scheduler.Act τ → Bool
  | .runtime, .handleEvent .. | .runtime, .tick _ | .runtime, .closeSession
  | .caller _, .openSession | .caller _, .closeSession
  | .caller _, .enqueue .. | .caller _, .submitRequest _ => true
  | _, _ => false

/-- A completion that a party has taken from the scheduler. -/
structure Taken where
  party : Party
  completion : Completion
  /-- So many were taken before it. -/
  place : Nat
  /-- The places of those that had not been fired yet when it was taken. -/
  beside : List Nat
  deriving DecidableEq, Repr

/-- Completions that a party takes together, in their order. -/
def Taken.together (party : Party) (place : Nat) (beside : List Nat)
    (completions : List Completion) : List Taken :=
  completions.mapIdx fun i completion => ⟨party, completion, place + i, beside⟩

/-- A link with what has become of the completions of its scheduler. What a receiver takes out of
its inbox is left there, so that an inbox holds all that was ever delivered to it. -/
structure SharedLink (τ : Type) where
  link : Link τ
  /-- All that was taken, in the order in which the scheduler collected it. -/
  taken : List Taken := []
  /-- What was taken and is still to be fired. -/
  waiting : List Taken := []
  /-- What was fired, in the order of firing. -/
  fired : List Taken := []

namespace SharedLink

variable {τ : Type}

/-- Fires a completion. -/
def fire (s : SharedLink τ) (next : Taken) : SharedLink τ :=
  { s with
    link := s.link.fire next.completion
    waiting := s.waiting.erase next
    fired := s.fired ++ [next] }

/-- Adds a subscriber, behind the others. -/
def subscribe (s : SharedLink τ) (filter : EventFilter) : SharedLink τ :=
  { s with link := s.link.subscribe filter }

/-- Drops the receiver of a subscription. -/
def leave (s : SharedLink τ) (index : Nat) : SharedLink τ :=
  { s with link := { s.link with subscribers := s.link.subscribers.drop index } }

variable [Transport τ]

/-- A section of work by the party. -/
def work (s : SharedLink τ) (party : Party) (act : Scheduler.Act τ) : SharedLink τ :=
  let (_, completions, link) := s.link.work fun scheduler => scheduler.perform act
  let taken := Taken.together party s.taken.length (s.waiting.map Taken.place) completions
  { s with link, taken := s.taken ++ taken, waiting := s.waiting ++ taken }

/-- What can happen next. A party works when it has fired all it has taken, and fires that in its
order. Calls that only read change nothing and are left out; a call that waits is the calls that it
makes before and after. -/
inductive Step (s : SharedLink τ) : SharedLink τ → Prop where
  | work (party : Party) (act : Scheduler.Act τ) (does : party.does act)
    (idle : ∀ taken ∈ s.waiting, taken.party ≠ party) : Step s (s.work party act)
  | fire {next : Taken} (first : s.waiting.find? (·.party = next.party) = some next) :
    Step s (s.fire next)
  | subscribe (filter : EventFilter) : Step s (s.subscribe filter)
  | leave (index : Nat) : Step s (s.leave index)
  | setResolver (resolve : RequestId → Option Command) :
    Step s { s with link := s.link.setResolver resolve }
  | changeTransport (change : τ → τ) : Step s { s with link := s.link.mapTransport change }

/-- Any number of steps. -/
inductive Steps (start : SharedLink τ) : SharedLink τ → Prop where
  | refl : Steps start start
  | tail {s t : SharedLink τ} (steps : Steps start s) (step : Step s t) : Steps start t

end SharedLink

end SerialLink
