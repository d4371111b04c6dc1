import Mathlib.Data.List.Basic
import SerialLink.Proofs.Calling
import SerialLink.Transport.ByteRing

/-!
A buffer of bytes over any calls. All that a call can do is said once (`does_call`): data goes in as
a whole or not at all, or as far as there is room, and all bytes come out together. So the buffer
stays within its room, and what has gone in has come out or is held (`Does.accounted`), over any
calls (`bytes_accounted`).
-/

namespace SerialLink.ByteRing

variable {r r' : ByteRing} {capacity : Nat}

/-! ### Calls -/

inductive Call where
  | pushAll (data : Bytes)
  | pushLossy (data : Bytes)
  | drain
  | clear
  deriving DecidableEq, Repr

inductive Answer where
  | pushed
  /-- There is no room for all of the data, and none of it is added. -/
  | refused
  /-- So many bytes of the data are added. -/
  | pushedFirst (count : Nat)
  | drained (bytes : Bytes)
  /-- The bytes that are gone. The caller is not told them. -/
  | cleared (bytes : Bytes)
  deriving DecidableEq, Repr

def call (r : ByteRing) : Call → Answer × ByteRing
  | .pushAll data =>
    match r.pushAll? data with
    | some r' => (.pushed, r')
    | none => (.refused, r)
  | .pushLossy data =>
    let r' := r.pushLossy data
    (.pushedFirst (r'.bytes.length - r.bytes.length), r')
  | .drain => (.drained r.drain.1, r.drain.2)
  | .clear => (.cleared r.bytes, r.clear)

/-- The longest beginning of the data that there is so much room for. -/
structure FillsUp (room : Nat) (data kept : Bytes) : Prop where
  start : kept <+: data
  fits : kept.length ≤ room
  longest : ∀ other : Bytes, other <+: data → other.length ≤ room → other <+: kept

theorem fillsUp_take (room : Nat) (data : Bytes) : FillsUp room data (data.take room) := by
  constructor
  · exact List.take_prefix room data
  · exact List.length_take_le room data
  · intro other start fits
    exact List.prefix_take_iff.mpr ⟨start, fits⟩

/-- What a call does. -/
inductive Does (r : ByteRing) : Call → Answer × ByteRing → Prop where
  | pushed {data : Bytes} (room : data.length ≤ r.free) :
    Does r (.pushAll data) (.pushed, { r with bytes := r.bytes ++ data })
  | refused {data : Bytes} (short : r.free < data.length) : Does r (.pushAll data) (.refused, r)
  | pushedFirst {data kept : Bytes} (fillsUp : FillsUp r.free data kept) :
    Does r (.pushLossy data)
      (.pushedFirst kept.length,
        { r with
          bytes := r.bytes ++ kept
          dropped := r.dropped + (data.length - kept.length) })
  | drained : Does r .drain (.drained r.bytes, { r with bytes := [] })
  | cleared : Does r .clear (.cleared r.bytes, { r with bytes := [] })

theorem does_call (r : ByteRing) (k : Call) : Does r k (r.call k) := by
  cases k with
  | pushAll data =>
    rcases Nat.lt_or_ge r.free data.length with short | room
    · rw [call, pushAll?_of_short short]
      exact .refused short
    · rw [call, pushAll?_of_room room]
      exact .pushed room
  | pushLossy data =>
    have did := Does.pushedFirst (fillsUp_take r.free data)
    have count : (r.pushLossy data).bytes.length - r.bytes.length =
        (data.take r.free).length := by
      simp [pushLossy]
    have dropped : data.length - (data.take r.free).length = data.length - r.free := by
      rw [List.length_take]
      omega
    rw [dropped] at did
    rw [call, count]
    exact did
  | drain => exact .drained
  | clear => exact .cleared

/-! ### What went in and came out -/

/-- The bytes that a call added. -/
def accepted : Call × Answer → Bytes
  | (.pushAll data, .pushed) => data
  | (.pushLossy data, .pushedFirst count) => data.take count
  | _ => []

/-- The bytes that a call drained or cleared. -/
def gone : Call × Answer → Bytes
  | (_, .drained bytes) | (_, .cleared bytes) => bytes
  | _ => []

/-- The bytes of a lossy call that were not added. -/
def turnedAway : Call × Answer → Bytes
  | (.pushLossy data, .pushedFirst count) => data.drop count
  | _ => []

section Calling

variable {k : Call} {answer : Answer}

/-- What a call adds goes behind what was held, and what it takes out is in front of what is held
then. -/
theorem Does.bytes_eq (does : Does r k (answer, r')) :
    gone (k, answer) ++ r'.bytes = r.bytes ++ accepted (k, answer) := by
  cases does with
  | pushed | refused | drained | cleared => simp [gone, accepted]
  | pushedFirst fillsUp =>
    have first := List.prefix_iff_eq_take.mp fillsUp.start
    simp [gone, accepted, ← first]

theorem Does.dropped_eq (does : Does r k (answer, r')) :
    r'.dropped = r.dropped + (turnedAway (k, answer)).length := by
  cases does with
  | pushed | refused | pushedFirst | drained | cleared => simp [turnedAway]

theorem Does.capacity_eq (does : Does r k (answer, r')) : r'.capacity = r.capacity := by
  cases does <;> rfl

theorem Does.within (does : Does r k (answer, r')) (within : r.bytes.length ≤ r.capacity) :
    r'.bytes.length ≤ r'.capacity := by
  cases does with
  | pushed room =>
    simp only [free, List.length_append] at room ⊢
    omega
  | refused => exact within
  | pushedFirst fillsUp =>
    have room := fillsUp.fits
    simp only [free, List.length_append] at room ⊢
    omega
  | drained | cleared => exact Nat.zero_le _

/-- The buffer holds, within its room, what was added and has not gone, and counts what was turned
away. -/
structure Accounted (capacity : Nat) (log : List (Call × Answer)) (r : ByteRing) : Prop where
  capacity_eq : r.capacity = capacity
  within : r.bytes.length ≤ r.capacity
  bytes : log.flatMap gone ++ r.bytes = log.flatMap accepted
  dropped : r.dropped = (log.flatMap turnedAway).length

theorem accounted_new (capacity : Nat) : Accounted capacity [] { capacity := capacity } where
  capacity_eq := rfl
  within := Nat.zero_le capacity
  bytes := rfl
  dropped := rfl

theorem Does.accounted {log : List (Call × Answer)} (does : Does r k (answer, r'))
    (acc : Accounted capacity log r) : Accounted capacity (log ++ [(k, answer)]) r' := by
  constructor
  · exact does.capacity_eq.trans acc.capacity_eq
  · exact does.within acc.within
  · rw [List.flatMap_append, List.flatMap_append, List.flatMap_singleton, List.flatMap_singleton]
    calc log.flatMap gone ++ gone (k, answer) ++ r'.bytes
        = log.flatMap gone ++ (r.bytes ++ accepted (k, answer)) := by
          rw [List.append_assoc, does.bytes_eq]
      _ = log.flatMap accepted ++ accepted (k, answer) := by rw [← List.append_assoc, acc.bytes]
  · rw [List.flatMap_append, List.flatMap_singleton, List.length_append, does.dropped_eq,
      acc.dropped]

end Calling

/-- **Bytes over any calls.** The buffer never holds more than its capacity, so what it holds and
what is free make up the capacity. Data that is to be added as a whole is added if there is room for
all of it, and else nothing changes; of data that may be cut off, the longest beginning is added
that there is room for. What was drained and cleared, in order, and what is held are together what
was added. What is counted as dropped are the bytes that were cut off, and no others. -/
theorem bytes_accounted (capacity : Nat) (calls : List Call) :
    let r := (callAll call { capacity := capacity } calls).2
    let log := (callAll call { capacity := capacity } calls).1
    r.capacity = capacity ∧ r.bytes.length ≤ capacity ∧ r.bytes.length + r.free = capacity ∧
      (∀ k, Does r k (r.call k)) ∧
      log.flatMap gone ++ r.bytes = log.flatMap accepted ∧
      r.dropped = (log.flatMap turnedAway).length := by
  intro r log
  have acc : Accounted capacity log r := by
    apply callAll_keeps _ [] (accounted_new capacity)
    intro past r k _ acc
    exact (does_call r k).accounted acc
  have within : r.bytes.length ≤ capacity := acc.capacity_eq ▸ acc.within
  have room : r.bytes.length + r.free = capacity := by
    rw [free, acc.capacity_eq]
    exact Nat.add_sub_cancel' within
  exact ⟨acc.capacity_eq, within, room, does_call r, acc.bytes, acc.dropped⟩

/-- When there is room for one more byte, two are refused, and of three the first is taken. -/
example : callAll call { capacity := 4 }
      [.pushAll [1, 2, 3], .pushAll [4, 5], .pushLossy [4, 5, 6], .drain] =
    ([(.pushAll [1, 2, 3], .pushed), (.pushAll [4, 5], .refused),
      (.pushLossy [4, 5, 6], .pushedFirst 1), (.drain, .drained [1, 2, 3, 4])],
      { capacity := 4, dropped := 2 }) := by
  decide

end SerialLink.ByteRing
