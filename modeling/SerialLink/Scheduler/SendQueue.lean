import SerialLink.Event

/-!
The send queue: a fixed number of slots, filled and scanned in circles. An item keeps its slot from
its submission to its end, while it waits to be sent and while it waits for its confirm.
-/
namespace SerialLink

/-- What an item waits for. -/
inductive ItemState where
  /-- Nothing yet. -/
  | idle
  /-- Room among the commands in flight. -/
  | waitSend
  /-- Its confirm. -/
  | waitConfirm
  deriving DecidableEq, Repr

/-- Who is told how an item ended. -/
inductive Origin where
  /-- Nobody: the scheduler made it. -/
  | scheduler
  /-- The one who submitted it, if a callback was given. -/
  | caller (callback : Option Callback)
  /-- Everyone: it carries a bulk request. -/
  | request (id : RequestId)
  deriving DecidableEq, Repr

/-- What is to be told when an item of this origin ends. -/
def Origin.outcome (status : CompletionStatus) (response : Option Command) :
    Origin → Option Completion
  | .scheduler => none
  | .caller none => none
  | .caller (some callback) => some (.command callback status response)
  | .request id => some (.request id status)

/-- A queued command. Times are in milliseconds. -/
structure QueueItem where
  command : Command
  state : ItemState := .waitSend
  /-- Times it was sent again. -/
  retries : Nat := 0
  sentAt : Option Nat := none
  firstSentAt : Option Nat := none
  origin : Origin := .scheduler
  deriving DecidableEq, Repr

/-- The item waits for the confirm with this id and sequence number. -/
def QueueItem.awaits (item : QueueItem) (id seq : UInt8) : Bool :=
  item.state = .waitConfirm ∧ item.command.id = id ∧ item.command.seq = seq

/-- Where a command was queued, and under which sequence number. -/
structure ItemHandle where
  slot : Nat
  seq : UInt8
  deriving DecidableEq, Repr

/-- Number of slots. -/
abbrev SendQueue.capacity : Nat := 32

/-- The send queue. -/
structure SendQueue where
  slots : Vector (Option QueueItem) SendQueue.capacity := Vector.replicate _ none
  /-- Where the search for a free slot starts. -/
  write : Nat := 0
  /-- Where the search for an item to send starts. -/
  send : Nat := 0
  deriving DecidableEq, Repr

namespace SendQueue

/-- The item in a slot. -/
def get? (q : SendQueue) (slot : Nat) : Option QueueItem := q.slots[slot]?.join

/-- The same queue with a slot changed. -/
def set (q : SendQueue) (slot : Nat) (item : Option QueueItem) : SendQueue :=
  { q with slots := q.slots.setIfInBounds slot item }

/-- The occupied slots with their items, by slot. -/
def entries (q : SendQueue) : List (Nat × QueueItem) :=
  (List.range capacity).filterMap fun slot => (q.get? slot).map (slot, ·)

/-- The items, by slot. -/
def items (q : SendQueue) : List QueueItem := (List.range capacity).filterMap q.get?

/-- Number of items. -/
def size (q : SendQueue) : Nat := q.items.length

def isEmpty (q : SendQueue) : Bool := q.items.isEmpty

def isFull (q : SendQueue) : Bool := (List.range capacity).all fun slot => (q.get? slot).isSome

/-- Some item carries this sequence number. -/
def usesSeq (q : SendQueue) (seq : UInt8) : Bool := q.items.any fun item => item.command.seq = seq

/-- Some item carries this command id. -/
def holdsId (q : SendQueue) (id : UInt8) : Bool := q.items.any fun item => item.command.id = id

/-- Number of items in a state. -/
def count (q : SendQueue) (state : ItemState) : Nat :=
  q.items.countP fun item => item.state = state

/-- All slots in circular order from `start` on. -/
def circle (start : Nat) : List Nat :=
  (List.range capacity).map fun step => (start + step) % capacity

/-- Puts an item into the first free slot from the write pointer on, and gives the slot. -/
def insert? (q : SendQueue) (item : QueueItem) : Option (Nat × SendQueue) :=
  ((circle q.write).find? fun slot => (q.get? slot).isNone).map fun slot =>
    (slot, { q.set slot (some item) with write := (slot + 1) % capacity })

/-- Frees a slot. -/
def remove (q : SendQueue) (slot : Nat) : Option QueueItem × SendQueue :=
  (q.get? slot, q.set slot none)

/-- Changes the item in a slot, if there is one. -/
def modify (q : SendQueue) (slot : Nat) (change : QueueItem → QueueItem) : SendQueue :=
  q.set slot ((q.get? slot).map change)

/-- The first slot from the send pointer on whose item waits to be sent. -/
def nextToSend? (q : SendQueue) : Option Nat :=
  (circle q.send).find? fun slot => (q.get? slot).any fun item => item.state = .waitSend

/-- Moves the send pointer behind a slot. -/
def markSent (q : SendQueue) (slot : Nat) : SendQueue :=
  { q with send := (slot + 1) % capacity }

/-- The first slot whose item waits for the confirm with this id and sequence number. -/
def findConfirm? (q : SendQueue) (id seq : UInt8) : Option Nat :=
  (q.entries.find? fun entry => entry.2.awaits id seq).map Prod.fst

/-- Frees all slots, and gives the items by slot. -/
def drain (q : SendQueue) : List QueueItem × SendQueue := (q.items, {})

/-- The first of the `tries` sequence numbers after `seq` that no item carries, else the last. -/
def seqAfter (q : SendQueue) (seq : UInt8) : (tries : Nat) → UInt8
  | 0 => seq
  | tries + 1 => if q.usesSeq (seq + 1) then q.seqAfter (seq + 1) tries else seq + 1

/-- The first sequence number after `seq`, in a circle, that no item carries. Among one more numbers
than there are items there is one. -/
def freeSeq (q : SendQueue) (seq : UInt8) : UInt8 := q.seqAfter seq (q.size + 1)

end SendQueue

end SerialLink
