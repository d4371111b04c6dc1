import SerialLink.Proofs.Frame.Receiving

/-!
Streams of frames behind noise. The opening delimiter of the first frame ends whatever the noise has
left in the receiver, which may come out as one payload of its own; from there on the payloads come
out as they were sent (`feedChunks_encodes_of_noise`).
-/

namespace SerialLink

/-! ### Where the delimiters of a frame are -/

/-- Between its delimiters a frame holds none. -/
theorem Frame.encode_eq (payload : Bytes) :
    ∃ inner : Bytes, Frame.encode payload = Frame.delimiter :: (inner ++ [Frame.delimiter]) ∧
      Frame.delimiter ∉ inner :=
  ⟨Frame.stuff (Frame.body payload), rfl, Frame.delimiter_notMem_stuff _⟩

/-- A delimiter stands at the first and the last place of a frame and nowhere else. -/
theorem Frame.getElem?_encode_eq_delimiter_iff (payload : Bytes) (i : Nat) :
    (Frame.encode payload)[i]? = some Frame.delimiter ↔
      i = 0 ∨ i + 1 = (Frame.encode payload).length := by
  obtain ⟨inner, shape, absent⟩ := Frame.encode_eq payload
  rw [shape]
  cases i with
  | zero => simp
  | succ i =>
    simp only [List.getElem?_cons_succ, List.length_cons, List.length_append, List.length_nil]
    rcases Nat.lt_trichotomy i inner.length with before | last | behind
    · rw [List.getElem?_append_left before]
      constructor
      · intro found
        exact absurd (List.mem_of_getElem? found) absent
      · intro position
        omega
    · subst last
      simp
    · rw [List.getElem?_eq_none (by simp only [List.length_append, List.length_singleton]; omega)]
      constructor
      · intro found
        cases found
      · intro position
        omega

/-! ### Frames behind noise -/

namespace Receiver

@[simp] theorem capacity_append (r : Receiver) (b : UInt8) :
    (r.append b).capacity = r.capacity := by
  unfold append
  split <;> rfl

@[simp] theorem capacity_feed (r : Receiver) (b : UInt8) : (r.feed b).2.capacity = r.capacity := by
  unfold feed
  split
  · split
    · rfl
    · obtain ⟨counts, after⟩ := finish_snd r
      rw [after]
      rfl
  · split
    · dsimp only
      split
      · exact capacity_append _ _
      · split
        · exact capacity_append _ _
        · rfl
    · split
      · rfl
      · exact capacity_append _ _

@[simp] theorem capacity_feedAll (r : Receiver) (bytes : Bytes) :
    (r.feedAll bytes).2.capacity = r.capacity := by
  induction bytes generalizing r with
  | nil => rfl
  | cons b bytes ih => rw [feedAll_cons, ih, capacity_feed]

/-- A new receiver after some noise. -/
def heard (capacity : Nat) (noise : Bytes) : Receiver :=
  (({ capacity } : Receiver).feedAll noise).2

@[simp] theorem capacity_heard (capacity : Nat) (noise : Bytes) :
    (heard capacity noise).capacity = capacity :=
  capacity_feedAll _ _

/-- Frames behind any receiver state: at most one payload comes before theirs, and it is the one
that the opening delimiter of the first frame completes. -/
theorem feedAll_encodes {r : Receiver} {payload : Bytes} {payloads : List Bytes}
    (room : ∀ p ∈ payload :: payloads, p.length + Frame.trailerLength ≤ r.capacity) :
    r.feedAll ((payload :: payloads).flatMap Frame.encode) =
      ((r.feed Frame.delimiter).1.toList ++ payload :: payloads,
        (r.feed Frame.delimiter).2.handedOut (payloads.length + 1)) := by
  obtain ⟨first, others⟩ := List.forall_mem_cons.mp room
  have idle := (idle_feed_delimiter r).handedOut 1
  have others : ∀ p ∈ payloads,
      p.length + Frame.trailerLength ≤ ((r.feed Frame.delimiter).2.handedOut 1).capacity := by
    simpa using others
  have rest := idle.feedAll_encodes others
  rw [List.flatMap_cons, feedAll_append, feedAll_encode first, rest]
  simp only [handedOut, List.append_assoc, List.singleton_append, Nat.add_assoc,
    Nat.add_comm payloads.length]

/-- **Resynchronisation.** Frames that reach a receiver behind any noise, in chunks cut anywhere,
give exactly their payloads, in order and behind at most one more. That one is what the opening
delimiter of the first frame completes: there is none if there is no frame, if the noise ended in an
escape marker, or if it left fewer bytes than a checksum has. After the last frame the receiver is
idle. Each frame holds delimiters at its ends only. -/
theorem feedChunks_encodes_of_noise {capacity : Nat} {payloads chunks : List Bytes} (noise : Bytes)
    (trailer : 2 ≤ capacity) (room : ∀ p ∈ payloads, p.length ≤ capacity - 2)
    (cut : chunks.flatten = payloads.flatMap Frame.encode) :
    (∃ first : Option Bytes,
      ((heard capacity noise).feedChunks chunks).1 = first.toList ++ payloads ∧
      (payloads = [] → first = none) ∧
      (payloads ≠ [] → first = ((heard capacity noise).feed Frame.delimiter).1) ∧
      ((heard capacity noise).escaped = true ∨ (heard capacity noise).buffer.size < 2 →
        first = none)) ∧
    (payloads ≠ [] → ((heard capacity noise).feedChunks chunks).2.Idle) ∧
    ∀ (p : Bytes) (i : Nat),
      (Frame.encode p)[i]? = some Frame.delimiter ↔ i = 0 ∨ i + 1 = (Frame.encode p).length := by
  have whole : ∀ p ∈ payloads,
      p.length + Frame.trailerLength ≤ (heard capacity noise).capacity := by
    intro p mem
    have short := room p mem
    simp only [capacity_heard, Frame.trailerLength]
    omega
  rw [feedChunks_eq_feedAll, cut]
  refine ⟨?_, ?_, Frame.getElem?_encode_eq_delimiter_iff⟩
  · cases payloads with
    | nil => exact ⟨none, rfl, fun _ => rfl, fun some => absurd rfl some, fun _ => rfl⟩
    | cons payload payloads =>
      refine ⟨_, congrArg Prod.fst (feedAll_encodes whole), ?_, fun _ => rfl, feed_delimiter_none⟩
      intro none
      cases none
  · intro some
    cases payloads with
    | nil => exact absurd rfl some
    | cons payload payloads =>
      rw [feedAll_encodes whole]
      exact (idle_feed_delimiter _).handedOut _

/-- Noise that ends in a whole body without its closing delimiter is completed by the next frame,
here one whose payload and trailer are stuffed, cut within an escape sequence. -/
theorem feedChunks_encodes_of_unclosed_body :
    2 ≤ 4 ∧ (∀ p ∈ ([[0xC0, 0xDB]] : List Bytes), p.length ≤ 4 - 2) ∧
      [[0xC0, 0xDB], [0xDC, 0xDB, 0xDD], [0x65, 0xFE, 0xC0]].flatten =
        [[0xC0, 0xDB]].flatMap Frame.encode ∧
      ((heard 4 [0x07, 0xF9, 0xFF]).feedChunks
        [[0xC0, 0xDB], [0xDC, 0xDB, 0xDD], [0x65, 0xFE, 0xC0]]).1 = [[0x07], [0xC0, 0xDB]] := by
  have room : ∀ p ∈ ([[0xC0, 0xDB]] : List Bytes), p.length ≤ 4 - 2 := by decide
  have cut : [[0xC0, 0xDB], [0xDC, 0xDB, 0xDD], [0x65, 0xFE, 0xC0]].flatten =
      [[0xC0, 0xDB]].flatMap Frame.encode := by decide
  obtain ⟨⟨first, out, -, completed, -⟩, -, -⟩ :=
    feedChunks_encodes_of_noise [0x07, 0xF9, 0xFF] (by decide) room cut
  refine ⟨by decide, room, cut, ?_⟩
  rw [out, completed (by simp)]
  rfl

end Receiver

end SerialLink
