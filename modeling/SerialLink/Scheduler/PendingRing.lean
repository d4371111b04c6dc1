import SerialLink.Event

/-! A ring of bulk requests that wait for the device to have room for one, oldest first. -/
namespace SerialLink

/-- Number of places. -/
abbrev PendingRing.capacity : Nat := 16

/-- The ring: `length` ids from place `head` on, in a circle. -/
structure PendingRing where
  ids : Vector (Option RequestId) PendingRing.capacity := Vector.replicate _ none
  head : Nat := 0
  length : Nat := 0
  deriving DecidableEq, Repr

namespace PendingRing

def isEmpty (r : PendingRing) : Bool := r.length = 0

def isFull (r : PendingRing) : Bool := r.length = capacity

/-- The ids, oldest first. -/
def toList (r : PendingRing) : List RequestId :=
  (List.range r.length).filterMap fun step => r.ids[(r.head + step) % capacity]?.join

/-- Adds an id behind the others, if there is room. -/
def push? (r : PendingRing) (id : RequestId) : Option PendingRing :=
  if r.isFull then none
  else
    some
      { r with
        ids := r.ids.setIfInBounds ((r.head + r.length) % capacity) (some id)
        length := r.length + 1 }

/-- Takes the oldest id. -/
def pop (r : PendingRing) : Option RequestId × PendingRing :=
  if r.isEmpty then (none, r)
  else
    (r.ids[r.head]?.join,
      { ids := r.ids.setIfInBounds r.head none
        head := (r.head + 1) % capacity
        length := r.length - 1 })

theorem length_pop_lt {r r' : PendingRing} {id : RequestId} (h : r.pop = (some id, r')) :
    r'.length < r.length := by
  unfold pop at h
  split at h
  · simp at h
  · rename_i nonempty
    simp only [Prod.mk.injEq] at h
    have : r.length ≠ 0 := by simpa [isEmpty] using nonempty
    rw [← h.2]
    exact Nat.pred_lt this

/-- Takes ids, oldest first, until there is none. -/
def drain (r : PendingRing) : List RequestId × PendingRing :=
  match _taken : r.pop with
  | (none, r') => ([], r')
  | (some id, r') =>
    let (ids, r'') := drain r'
    (id :: ids, r'')
termination_by r.length
decreasing_by exact length_pop_lt _taken

end PendingRing

end SerialLink
