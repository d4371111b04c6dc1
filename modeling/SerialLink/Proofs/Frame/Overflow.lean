import SerialLink.Proofs.Frame.Damage

/-!
Frames that are too long for a receiver. What there is room for goes into the buffer and the rest
is counted (`foldl_append_counted`), but at the closing delimiter what was kept is checked like any
other body. So an oversized frame is dropped, unless the last two bytes
that were kept happen to be the checksum of those before them: then the start of its payload is
handed out (`Idle.feedAll_oversized`).
-/

namespace SerialLink

/-- If the start of a body is itself a body, its payload is a start of the payload. -/
theorem Frame.eq_take_of_take_body {payload start : Bytes} {capacity : Nat}
    (long : capacity < payload.length + trailerLength)
    (whole : (body payload).take capacity = body start) :
    start = payload.take (capacity - trailerLength) := by
  have lengths := congrArg List.length whole
  simp only [List.length_take, length_body] at lengths
  have kept : start.length = capacity - trailerLength := by omega
  have short : start.length ≤ payload.length := by omega
  calc start = (body start).take start.length := List.take_left.symm
    _ = ((body payload).take capacity).take start.length := by rw [whole]
    _ = (body payload).take start.length := by rw [List.take_take, Nat.min_eq_left (by omega)]
    _ = payload.take (capacity - trailerLength) := by
      rw [kept] at short ⊢
      exact List.take_append_of_le_length short

namespace Receiver

variable {r : Receiver}

/-! ### Bytes left out -/

/-- The receiver after a byte for which there was no room. -/
def leavingOut (r : Receiver) : Receiver :=
  { r with
    exceeded := true
    counts := { r.counts with overflowBytes := r.counts.overflowBytes + 1 } }

theorem append_of_room (room : r.buffer.size < r.capacity) (b : UInt8) :
    r.append b = { r with buffer := r.buffer.push b } := by
  unfold append
  rw [if_pos room]

theorem append_of_full (full : r.buffer.size = r.capacity) (b : UInt8) :
    r.append b = r.leavingOut := by
  unfold append
  rw [if_neg (Nat.not_lt.mpr (Nat.le_of_eq full.symm))]
  rfl

/-- Once bytes have been left out, the mark stays. -/
theorem exceeded_foldl_append (mark : r.exceeded = true) (bytes : Bytes) :
    (bytes.foldl append r).exceeded = true := by
  induction bytes generalizing r with
  | nil => exact mark
  | cons b bytes ih =>
    refine ih ?_
    unfold append
    split
    · exact mark
    · rfl

/-- Bytes for which there is no room are counted, and leave a mark. -/
theorem foldl_append_counted (within : r.buffer.size ≤ r.capacity) (bytes : Bytes) :
    (bytes.foldl append r).counts.overflowBytes =
        r.counts.overflowBytes + (r.buffer.size + bytes.length - r.capacity) ∧
      (bytes.foldl append r).counts.frames = r.counts.frames ∧
      (r.capacity < r.buffer.size + bytes.length → (bytes.foldl append r).exceeded = true) := by
  induction bytes generalizing r with
  | nil =>
    rw [List.length_nil, Nat.add_zero, Nat.sub_eq_zero_of_le within]
    exact ⟨rfl, rfl, fun more => absurd within (Nat.not_le.mpr more)⟩
  | cons b bytes ih =>
    rw [List.foldl_cons, List.length_cons]
    rcases Nat.lt_or_eq_of_le within with room | full
    · rw [append_of_room room]
      have grown : (r.buffer.push b).size = r.buffer.size + 1 := Array.size_push b
      have within : (r.buffer.push b).size ≤ r.capacity := grown ▸ room
      obtain ⟨overflow, frames, mark⟩ := ih (r := { r with buffer := r.buffer.push b }) within
      rw [grown, Nat.add_right_comm, Nat.add_assoc] at overflow mark
      exact ⟨overflow, frames, mark⟩
    · rw [append_of_full full]
      obtain ⟨overflow, frames, -⟩ := ih (r := r.leavingOut) within
      refine ⟨?_, frames, fun _ => exceeded_foldl_append rfl bytes⟩
      rw [overflow]
      simp only [leavingOut]
      omega

/-- The end of a body leaves out no more bytes. -/
theorem overflowBytes_finish (r : Receiver) :
    r.finish.2.counts.overflowBytes = r.counts.overflowBytes := by
  unfold finish
  dsimp only
  split
  · rfl
  · split <;> rfl

/-- Only bodies that are handed out are counted as frames. -/
theorem frames_finish (r : Receiver) :
    r.finish.2.counts.frames = r.counts.frames + r.finish.1.toList.length := by
  unfold finish
  dsimp only
  split
  · rfl
  · split <;> rfl

/-! ### Oversized frames -/

theorem Idle.feedAll_opening (idle : r.Idle) (body : Bytes) :
    r.feedAll (Frame.delimiter :: Frame.stuff body) = ([], body.foldl append r) := by
  rw [feedAll_cons, idle.feed_delimiter, feedAll_stuff idle.escaped]
  rfl

/-- The closing delimiter ends the body that is held, whether it is whole or not. -/
theorem Idle.feedAll_enclose (idle : r.Idle) (body : Bytes) :
    r.feedAll (Frame.enclose body) =
      ((body.foldl append r).finish.1.toList, (body.foldl append r).finish.2) := by
  have plain : (body.foldl append r).escaped = false := by
    rw [escaped_foldl_append, idle.escaped]
  have ended : (body.foldl append r).feed Frame.delimiter = (body.foldl append r).finish := by
    unfold feed
    rw [if_pos rfl, plain]
    rfl
  unfold Frame.enclose
  rw [feedAll_append, idle.feedAll_opening, feedAll_cons, ended]
  simp only [feedAll_nil, List.nil_append, List.append_nil]

/-- What is held of a frame that is too long completes the start of its payload, or nothing. -/
theorem completed_of_oversized {payload : Bytes}
    (long : r.capacity < payload.length + Frame.trailerLength)
    (held : r.buffer.toList = (Frame.body payload).take r.capacity) :
    r.finish.1.toList =
      if (Frame.body payload).take r.capacity =
          Frame.body (payload.take (r.capacity - Frame.trailerLength)) then
        [payload.take (r.capacity - Frame.trailerLength)]
      else [] := by
  split
  · rename_i verifies
    rw [finish_eq_some_iff.mpr (held.trans verifies)]
    rfl
  · rename_i differs
    cases completed : r.finish.1 with
    | none => rfl
    | some start =>
      have whole := held.symm.trans (finish_eq_some_iff.mp completed)
      rw [Frame.eq_take_of_take_body long whole] at whole
      exact absurd whole differs

/-- **Oversized frames.** Let the body of a frame be longer than the capacity of an idle receiver.
Before the closing delimiter no payload is completed, what there was room for is held, and it is
known that bytes were left out. The closing delimiter completes a payload exactly if what was held
is a body with its checksum, and then it is the start of the frame's payload. In any case the
receiver is idle again, and has counted the bytes left out and the frame handed out, if any. -/
theorem Idle.feedAll_oversized {payload : Bytes} (idle : r.Idle)
    (long : r.capacity < payload.length + Frame.trailerLength) :
    (∃ held : Receiver,
      r.feedAll (Frame.delimiter :: Frame.stuff (Frame.body payload)) = ([], held) ∧
      held.buffer.toList = (Frame.body payload).take r.capacity ∧ held.exceeded = true) ∧
    (r.feedAll (Frame.encode payload)).1 =
      (if (Frame.body payload).take r.capacity =
          Frame.body (payload.take (r.capacity - Frame.trailerLength)) then
        [payload.take (r.capacity - Frame.trailerLength)]
      else []) ∧
    (r.feedAll (Frame.encode payload)).2.Idle ∧
    (r.feedAll (Frame.encode payload)).2.counts.overflowBytes =
      r.counts.overflowBytes + (payload.length + Frame.trailerLength - r.capacity) ∧
    (r.feedAll (Frame.encode payload)).2.counts.frames =
      r.counts.frames + (r.feedAll (Frame.encode payload)).1.length := by
  have within : r.buffer.size ≤ r.capacity := by
    rw [idle.buffer]
    exact Nat.zero_le _
  have total : r.buffer.size + (Frame.body payload).length =
      payload.length + Frame.trailerLength := by
    rw [idle.buffer, Frame.length_body]
    exact Nat.zero_add _
  have empty : r.buffer.toList = ([] : Bytes).take r.capacity := by
    rw [idle.buffer, List.take_nil]
  have held := buffer_foldl_append r empty (Frame.body payload)
  have capacity := capacity_foldl_append r (Frame.body payload)
  obtain ⟨overflow, frames, mark⟩ := foldl_append_counted within (Frame.body payload)
  rw [List.nil_append] at held
  rw [total] at overflow mark
  have closed : r.feedAll (Frame.encode payload) = _ := idle.feedAll_enclose (Frame.body payload)
  rw [idle.feedAll_opening, closed]
  rw [← capacity] at long held
  refine ⟨⟨_, rfl, capacity ▸ held, mark (capacity ▸ long)⟩, ?_, ?_, ?_, ?_⟩
  · rw [← capacity]
    exact completed_of_oversized long held
  · obtain ⟨after, ended⟩ := finish_snd ((Frame.body payload).foldl append r)
    rw [ended]
    exact idle_reset _
  · rw [overflowBytes_finish, overflow]
  · rw [frames_finish, frames]

/-- Two bytes too many, one of them stuffed, for a receiver that has room for eight. -/
theorem Idle.feedAll_oversized_of_tenByteBody :
    Idle { capacity := 8 } ∧
      8 < ([0x01, 0x01, 0x01, 0xC0, 0x01, 0x01, 0x01, 0x01] : Bytes).length + Frame.trailerLength ∧
      (({ capacity := 8 } : Receiver).feedAll
        (Frame.encode [0x01, 0x01, 0x01, 0xC0, 0x01, 0x01, 0x01, 0x01])).1 = [] ∧
      (({ capacity := 8 } : Receiver).feedAll
        (Frame.encode
          [0x01, 0x01, 0x01, 0xC0, 0x01, 0x01, 0x01, 0x01])).2.counts.overflowBytes = 2 := by
  have idle : Idle { capacity := 8 } := ⟨rfl, rfl, rfl⟩
  have long : 8 < ([0x01, 0x01, 0x01, 0xC0, 0x01, 0x01, 0x01, 0x01] : Bytes).length +
      Frame.trailerLength := by decide
  obtain ⟨-, completed, -, counted, -⟩ := idle.feedAll_oversized long
  refine ⟨idle, long, ?_, counted⟩
  rw [completed]
  rfl

/-- What is kept of a frame three bytes too long is its first byte and the checksum of it. -/
theorem feedAll_of_checksum_within :
    3 < ([0x07, 0xF9, 0xFF, 0x01] : Bytes).length + Frame.trailerLength ∧
      (({ capacity := 3 } : Receiver).feedAll (Frame.encode [0x07, 0xF9, 0xFF, 0x01])).1 =
        [[0x07]] :=
  ⟨by decide, by rfl⟩

end Receiver

end SerialLink
