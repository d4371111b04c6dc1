import Mathlib.Data.List.Basic
import SerialLink.Proofs.Calling
import SerialLink.Proofs.Scheduler.Slots

/-!
The send queue over any calls. An insertion goes round the slots for a free one and is refused by a
full queue only (`inserts_call`). The items that a call puts in are held then, and those that it
takes out were held before (`balanced_call`). So over any calls what has been inserted has left or
is held (`balanced`). `slots_accounted` tells this together with what each call does.
-/

namespace SerialLink.SendQueue

variable {q : SendQueue}

/-! ### Calls -/

inductive Call where
  | insert (item : QueueItem)
  | remove (slot : Nat)
  /-- The item in a slot is changed, if there is one. -/
  | modify (slot : Nat) (change : QueueItem → QueueItem)
  | markSent (slot : Nat)
  | drain

inductive Answer where
  | inserted (slot : Nat)
  /-- There is no room, and the item is given back. -/
  | refused (item : QueueItem)
  /-- What the slot held. -/
  | removed (item : Option QueueItem)
  | done
  | drained (items : List QueueItem)
  deriving DecidableEq, Repr

def call (q : SendQueue) : Call → Answer × SendQueue
  | .insert item =>
    match q.insert? item with
    | some (slot, q') => (.inserted slot, q')
    | none => (.refused item, q)
  | .remove slot => (.removed (q.remove slot).1, (q.remove slot).2)
  | .modify slot change => (.done, q.modify slot change)
  | .markSent slot => (.done, q.markSent slot)
  | .drain => (.drained q.drain.1, q.drain.2)

theorem call_insert_of_some {item : QueueItem} {slot : Nat} {q' : SendQueue}
    (inserted : q.insert? item = some (slot, q')) :
    q.call (.insert item) = (.inserted slot, q') := by
  rw [call, inserted]

theorem call_insert_of_none {item : QueueItem} (refused : q.insert? item = none) :
    q.call (.insert item) = (.refused item, q) := by
  rw [call, refused]

/-- What an insertion does: a full queue gives the item back, any other puts it into the first free
slot from the write pointer on, and changes no other slot. -/
inductive Inserts (q : SendQueue) (item : QueueItem) : Answer × SendQueue → Prop where
  | refused (full : ∀ slot < capacity, (q.get? slot).isSome = true) :
    Inserts q item (.refused item, q)
  | inserted {slot : Nat} {q' : SendQueue}
    (first : FirstFrom q.write (fun slot => q.get? slot = none) slot)
    (held : q'.get? slot = some item)
    (others : ∀ other, other ≠ slot → q'.get? other = q.get? other)
    (write : q'.write = (slot + 1) % capacity) (send : q'.send = q.send) :
    Inserts q item (.inserted slot, q')

theorem inserts_call (q : SendQueue) (item : QueueItem) :
    Inserts q item (q.call (.insert item)) := by
  cases inserted : q.insert? item with
  | none =>
    have full := find?_circle_eq_none_iff.mp (Option.map_eq_none_iff.mp inserted)
    rw [call_insert_of_none inserted]
    refine .refused fun slot inside => ?_
    simpa [Option.isSome_iff_ne_none] using full slot inside
  | some place =>
    obtain ⟨slot, q'⟩ := place
    rw [call_insert_of_some inserted]
    obtain ⟨found, free, eq⟩ := Option.map_eq_some_iff.mp inserted
    obtain ⟨inside, -, rfl⟩ := insert?_eq_some inserted
    obtain rfl : found = slot := congrArg Prod.fst eq
    refine .inserted ?_ (get?_set_self inside _) (fun other ne => get?_set_of_ne ne _) rfl rfl
    simpa [Option.isNone_iff_eq_none] using find?_circle_eq_some_iff.mp free

/-- What a drain does: it gives back all that is held, by slot, frees every slot, and takes both
pointers back to the first one. -/
structure Drains (q : SendQueue) (after : Answer × SendQueue) : Prop where
  given : after.1 = .drained ((List.range capacity).filterMap q.get?)
  freed : ∀ slot, after.2.get? slot = none
  write : after.2.write = 0
  send : after.2.send = 0

theorem drains_call (q : SendQueue) : Drains q (q.call .drain) where
  given := rfl
  freed := get?_empty
  write := rfl
  send := rfl

/-- Both pointers are places of the queue. -/
structure Pointed (q : SendQueue) : Prop where
  write : q.write < capacity
  send : q.send < capacity

theorem pointed_empty : Pointed {} := ⟨Nat.zero_lt_succ _, Nat.zero_lt_succ _⟩

theorem Pointed.call (pointed : q.Pointed) (k : Call) : (q.call k).2.Pointed := by
  have wraps (slot : Nat) : (slot + 1) % capacity < capacity := Nat.mod_lt _ (by decide)
  cases k with
  | insert item =>
    cases inserted : q.insert? item with
    | none =>
      rw [call_insert_of_none inserted]
      exact pointed
    | some place =>
      obtain ⟨slot, q'⟩ := place
      rw [call_insert_of_some inserted, (insert?_eq_some inserted).2.2]
      exact ⟨wraps slot, pointed.send⟩
  | remove slot => exact ⟨pointed.write, pointed.send⟩
  | modify slot change => exact ⟨pointed.write, pointed.send⟩
  | markSent slot => exact ⟨pointed.write, wraps slot⟩
  | drain => exact pointed_empty

/-! ### What was inserted -/

/-- The items that were inserted. -/
def entered (log : List (Call × Answer)) : List QueueItem :=
  log.filterMap fun
    | (.insert item, .inserted _) => some item
    | _ => none

/-- The items that were removed or drained. -/
def left (log : List (Call × Answer)) : List QueueItem :=
  log.flatMap fun
    | (_, .removed item) => item.toList
    | (_, .drained items) => items
    | _ => []

theorem entered_append (log later : List (Call × Answer)) :
    entered (log ++ later) = entered log ++ entered later :=
  List.filterMap_append

theorem left_append (log later : List (Call × Answer)) :
    left (log ++ later) = left log ++ left later :=
  List.flatMap_append

/-- The call changes nothing that is read of an item. -/
def Call.Keeps {α : Type} (read : QueueItem → α) : Call → Prop
  | .modify _ change => ∀ item, read (change item) = read item
  | _ => True

theorem set_get? (q : SendQueue) (slot : Nat) : q.set slot (q.get? slot) = q := by
  have same : q.slots.setIfInBounds slot (q.get? slot) = q.slots := by
    refine Vector.ext fun i inside => ?_
    rw [Vector.getElem_setIfInBounds inside]
    split
    case isTrue here =>
      subst here
      simp [get?, inside]
    case isFalse => rfl
  exact congrArg (fun slots => { q with slots }) same

/-- A slot that holds nothing stays as it is. -/
theorem set_none {slot : Nat} (free : q.get? slot = none) : q.set slot none = q := by
  rw [← free, set_get?]

/-- What a call puts in is held then, and what it takes out was held before. A change leaves what it
does not touch. -/
theorem balanced_call {α : Type} {read : QueueItem → α} {k : Call} (keeps : k.Keeps read) :
    ((entered [(k, (q.call k).1)] ++ q.items).map read).Perm
      ((left [(k, (q.call k).1)] ++ (q.call k).2.items).map read) := by
  cases k with
  | insert item =>
    cases inserted : q.insert? item with
    | none =>
      rw [call_insert_of_none inserted]
      exact .refl _
    | some place =>
      obtain ⟨slot, q'⟩ := place
      rw [call_insert_of_some inserted]
      exact ((perm_items_insert? inserted).map read).symm
  | remove slot =>
    cases held : q.get? slot with
    | none =>
      have same : q.call (.remove slot) = (.removed none, q) := by
        rw [call, remove, set_none held, held]
      rw [same]
      exact .refl _
    | some item =>
      have gone : (q.call (.remove slot)).1 = .removed (some item) := by rw [call, remove, held]
      rw [gone]
      exact (perm_items_remove held).map read
  | modify slot change =>
    cases held : q.get? slot with
    | none =>
      have same : q.call (.modify slot change) = (.done, q) := by
        rw [call, modify, held, Option.map_none, set_none held]
      rw [same]
      exact .refl _
    | some item =>
      obtain ⟨before, after⟩ := perm_items_modify held change
      refine (before.map read).trans (.trans ?_ (after.map read).symm)
      rw [List.map_cons, List.map_cons, keeps item]
  | markSent slot => exact .refl _
  | drain =>
    have all : left [(.drain, (q.call .drain).1)] = q.items := List.flatMap_singleton ..
    have freed : (q.call .drain).2.items = [] := items_empty
    rw [all, freed, List.append_nil]
    exact .refl _

/-- What has been inserted has left or is held. -/
theorem balanced {α : Type} {read : QueueItem → α} {calls : List Call}
    (keeps : ∀ k ∈ calls, k.Keeps read) :
    ((entered (callAll call {} calls).1).map read).Perm
      ((left (callAll call {} calls).1 ++ (callAll call {} calls).2.items).map read) := by
  refine callAll_keeps (P := fun past (q : SendQueue) =>
    ((entered past).map read).Perm ((left past ++ q.items).map read)) ?_ [] ?_
  · intro past q k mem account
    have once := balanced_call (q := q) (keeps k mem)
    rw [entered_append, left_append, List.append_assoc, List.map_append, List.map_append]
    rw [List.map_append] at account once
    refine (account.append_right _).trans ?_
    rw [List.append_assoc]
    exact (List.perm_append_comm.trans once).append_left _
  · rw [items_empty]
    exact .refl _

/-- **Slots over any calls.** Both pointers are places of the queue. An item is refused just if all
slots are taken, and else goes into the first free one from the write pointer on; no other slot
changes. There is a next item to send just if one waits to be sent, and it is the first such from
the send pointer on. A drain gives back all that is held, frees every slot, and takes both pointers
back. The items that were inserted are those that were removed or drained or are held, each once.
Since items may be changed meanwhile, they are compared by anything that these
changes leave alone, as changes of the state leave all but the state. -/
theorem slots_accounted (calls : List Call) :
    let q := (callAll call {} calls).2
    let log := (callAll call {} calls).1
    q.write < capacity ∧ q.send < capacity ∧
      (∀ item, Inserts q item (q.call (.insert item))) ∧
      (q.nextToSend?.isSome = true ↔ ∃ item ∈ q.items, item.state = .waitSend) ∧
      (∀ slot, q.nextToSend? = some slot ↔ FirstFrom q.send
        (fun slot => ∃ item, q.get? slot = some item ∧ item.state = .waitSend) slot) ∧
      Drains q (q.call .drain) ∧
      ∀ {α : Type} (read : QueueItem → α), (∀ k ∈ calls, k.Keeps read) →
        ((entered log).map read).Perm ((left log ++ q.items).map read) := by
  intro q log
  have pointed : q.Pointed := callAll_keeps (P := fun _ q => Pointed q)
    (fun _ _ k _ pointed => pointed.call k) [] pointed_empty
  refine ⟨pointed.write, pointed.send, inserts_call q, nextToSend?_isSome_iff,
    fun slot => nextToSend?_eq_some_iff, drains_call q, fun read keeps => balanced keeps⟩

/-- An item that waits to be sent, under this sequence number. -/
def waiting (seq : UInt8) : QueueItem := { command := { id := Command.version, seq } }

/-- The first item is sent and confirmed while the second waits, and its slot is refilled after all
behind it. One more item finds no room, and the second is removed. -/
def refilled : List Call :=
  [.insert (waiting 1), .insert (waiting 2),
    .modify 0 fun item => { item with state := .waitConfirm }, .markSent 0, .remove 0] ++
    (List.range 31).map (fun n => .insert (waiting (.ofNat (n + 3)))) ++
    [.insert (waiting 34), .remove 1]

theorem slots_accounted_of_refilled :
    let q := (callAll call {} refilled).2
    let log := (callAll call {} refilled).1
    let read : QueueItem → QueueItem := fun item => { item with state := .idle }
    (∀ k ∈ refilled, k.Keeps read) ∧ q.write = 1 ∧ q.send = 1 ∧ q.nextToSend? = some 2 ∧
      (entered log).map (fun item => item.command.seq) =
        (List.range 33).map (fun n => .ofNat (n + 1)) ∧
      (left log).map (fun item => item.command.seq) = [1, 2] ∧
      q.size = 31 ∧ Drains q (q.call .drain) ∧
      ((entered log).map read).Perm ((left log ++ q.items).map read) := by
  intro q log read
  have keeps : ∀ k ∈ refilled, k.Keeps read := by
    intro k mem
    simp only [refilled, List.mem_append, List.mem_map, List.mem_cons, List.not_mem_nil,
      or_false] at mem
    rcases mem with ((rfl | rfl | rfl | rfl | rfl) | ⟨n, -, rfl⟩) | rfl | rfl <;>
      simp [Call.Keeps, read]
  obtain ⟨-, -, -, -, -, drains, account⟩ := slots_accounted refilled
  refine ⟨keeps, ?_, ?_, ?_, ?_, ?_, ?_, drains, account read keeps⟩ <;> decide +kernel

end SerialLink.SendQueue
