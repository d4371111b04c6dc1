import SerialLink.Frame.Receiver

/-!
What a receiver does with stretches of the line. Feeding is a fold, so a stretch may be cut anywhere
(`feedAll_append`); a stuffed body goes into the buffer as it was before stuffing
(`feedAll_stuff`); and whatever came before, a delimiter leaves the receiver idle
(`idle_feed_delimiter`). From these follows what one frame does: an idle receiver hands out its
payload and is idle again (`feedAll_encode`).
-/

namespace SerialLink.Receiver

/-! ### Cutting the line -/

private theorem foldl_feed (payloads : List Bytes) (r : Receiver) (bytes : Bytes) :
    bytes.foldl
        (fun (payloads, r) b =>
          let (payload, r) := r.feed b
          (payloads ++ payload.toList, r))
        (payloads, r)
      = (payloads ++ (r.feedAll bytes).1, (r.feedAll bytes).2) := by
  induction bytes generalizing payloads r with
  | nil => simp [feedAll]
  | cons b bytes ih =>
    have whole := ih ((r.feed b).1.toList) (r.feed b).2
    simp only [feedAll, List.foldl_cons, List.nil_append]
    rw [ih, whole, List.append_assoc]

@[simp] theorem feedAll_nil (r : Receiver) : r.feedAll [] = ([], r) := rfl

theorem feedAll_cons (r : Receiver) (b : UInt8) (bytes : Bytes) :
    r.feedAll (b :: bytes) =
      ((r.feed b).1.toList ++ ((r.feed b).2.feedAll bytes).1,
        ((r.feed b).2.feedAll bytes).2) := by
  conv => lhs; unfold feedAll
  rw [List.foldl_cons]
  exact foldl_feed _ _ _

theorem feedAll_append (r : Receiver) (bytes later : Bytes) :
    r.feedAll (bytes ++ later) =
      ((r.feedAll bytes).1 ++ ((r.feedAll bytes).2.feedAll later).1,
        ((r.feedAll bytes).2.feedAll later).2) := by
  conv => lhs; unfold feedAll
  rw [List.foldl_append]
  exact foldl_feed _ _ _

/-- Takes chunks from the line, one after the other. -/
def feedChunks (r : Receiver) : List Bytes → List Bytes × Receiver
  | [] => ([], r)
  | chunk :: chunks =>
    let (payloads, r) := r.feedAll chunk
    let (more, r) := feedChunks r chunks
    (payloads ++ more, r)

/-- Where the line is cut makes no difference. -/
theorem feedChunks_eq_feedAll (r : Receiver) (chunks : List Bytes) :
    r.feedChunks chunks = r.feedAll chunks.flatten := by
  induction chunks generalizing r with
  | nil => rfl
  | cons chunk chunks ih =>
    rw [List.flatten_cons, feedAll_append, feedChunks]
    simp only [ih]

/-! ### Between frames -/

/-- No body is in progress. -/
structure Idle (r : Receiver) : Prop where
  buffer : r.buffer = #[]
  escaped : r.escaped = false
  exceeded : r.exceeded = false

theorem idle_reset (r : Receiver) : r.reset.Idle := ⟨rfl, rfl, rfl⟩

theorem Idle.reset {r : Receiver} (idle : r.Idle) : r.reset = r := by
  obtain ⟨capacity, buffer, escaped, exceeded, counts⟩ := r
  obtain ⟨rfl, rfl, rfl⟩ := idle
  rfl

/-- Every way in which a body ends drops it. -/
theorem finish_snd (r : Receiver) :
    ∃ counts : ReceiverCounts, r.finish.2 = reset { r with counts } := by
  unfold finish
  dsimp only
  split
  · exact ⟨r.counts, rfl⟩
  · split
    · exact ⟨_, rfl⟩
    · exact ⟨_, rfl⟩

/-- Whatever was going on, a delimiter drops it. -/
theorem feed_delimiter_snd (r : Receiver) :
    ∃ counts : ReceiverCounts, (r.feed Frame.delimiter).2 = reset { r with counts } := by
  unfold feed
  rw [if_pos rfl]
  split
  · exact ⟨_, rfl⟩
  · exact finish_snd r

theorem idle_feed_delimiter (r : Receiver) : (r.feed Frame.delimiter).2.Idle := by
  obtain ⟨counts, after⟩ := feed_delimiter_snd r
  rw [after]
  exact idle_reset _

@[simp] theorem capacity_feed_delimiter (r : Receiver) :
    (r.feed Frame.delimiter).2.capacity = r.capacity := by
  obtain ⟨counts, after⟩ := feed_delimiter_snd r
  rw [after]
  rfl

/-- Fewer bytes than a checksum has end silently. -/
theorem finish_of_short {r : Receiver} (short : r.buffer.size < Frame.trailerLength) :
    r.finish = (none, r.reset) := by
  unfold finish
  dsimp only
  rw [if_pos (by simpa using short)]

/-- A delimiter completes no payload behind an escape marker, and none when there are fewer bytes
than a checksum has. -/
theorem feed_delimiter_none {r : Receiver}
    (broken : r.escaped = true ∨ r.buffer.size < Frame.trailerLength) :
    (r.feed Frame.delimiter).1 = none := by
  unfold feed
  rw [if_pos rfl]
  split
  · rfl
  · rename_i plain
    have short := broken.resolve_left plain
    rw [finish_of_short short]

/-- Two delimiters in a row enclose nothing. -/
theorem Idle.feed_delimiter {r : Receiver} (idle : r.Idle) :
    r.feed Frame.delimiter = (none, r) := by
  have short : r.buffer.size < Frame.trailerLength := by
    rw [idle.buffer]
    decide
  have plain : ¬ r.escaped = true := by simp [idle.escaped]
  unfold feed
  rw [if_pos rfl, if_neg plain, finish_of_short short, idle.reset]

/-! ### A body -/

@[simp] theorem escaped_append (r : Receiver) (b : UInt8) : (r.append b).escaped = r.escaped := by
  unfold append
  split <;> rfl

theorem feedAll_stuffByte {r : Receiver} (plain : r.escaped = false) (b : UInt8) :
    r.feedAll (Frame.stuffByte b) = ([], r.append b) := by
  obtain ⟨capacity, buffer, escaped, exceeded, counts⟩ := r
  obtain rfl : escaped = false := plain
  unfold Frame.stuffByte
  split
  · rename_i isDelimiter
    subst isDelimiter
    rfl
  · rename_i notDelimiter
    split
    · rename_i isEscape
      subst isEscape
      rfl
    · rename_i notEscape
      simp [feedAll_cons, feed, notDelimiter, notEscape]

/-- A stuffed body goes into the buffer as it was before stuffing, and completes nothing. -/
theorem feedAll_stuff {r : Receiver} (plain : r.escaped = false) (bytes : Bytes) :
    r.feedAll (Frame.stuff bytes) = ([], bytes.foldl append r) := by
  induction bytes generalizing r with
  | nil => rfl
  | cons b bytes ih =>
    have split : Frame.stuff (b :: bytes) = Frame.stuffByte b ++ Frame.stuff bytes := rfl
    have rest := ih (r := r.append b) (by rw [escaped_append, plain])
    rw [split, feedAll_append, feedAll_stuffByte plain, rest]
    rfl

theorem foldl_append_of_room {r : Receiver} {bytes : Bytes}
    (room : r.buffer.size + bytes.length ≤ r.capacity) :
    bytes.foldl append r = { r with buffer := r.buffer ++ bytes.toArray } := by
  induction bytes generalizing r with
  | nil => simp
  | cons b bytes ih =>
    simp only [List.length_cons] at room
    have kept : r.append b = { r with buffer := r.buffer.push b } := by
      unfold append
      rw [if_pos (by omega)]
    rw [List.foldl_cons, kept, ih (by simp only [Array.size_push]; omega)]
    simp

/-- A body with its own checksum is handed out. -/
theorem finish_body {r : Receiver} (payload : Bytes)
    (held : r.buffer.toList = Frame.body payload) :
    r.finish =
      (some payload,
        reset { r with counts := { r.counts with frames := r.counts.frames + 1 } }) := by
  have kept : (Frame.body payload).take payload.length = payload := by simp [Frame.body]
  have behind : (Frame.body payload).drop payload.length = Frame.trailer payload := by
    simp [Frame.body]
  unfold finish
  simp only [held, Frame.length_body, Nat.add_sub_cancel, kept, behind]
  rw [if_neg (by omega), if_pos trivial]

/-! ### A frame -/

/-- The receiver after a frame was handed out, if it was idle before. -/
def handedOut (r : Receiver) (frames : Nat) : Receiver :=
  { r with counts := { r.counts with frames := r.counts.frames + frames } }

@[simp] theorem capacity_handedOut (r : Receiver) (frames : Nat) :
    (r.handedOut frames).capacity = r.capacity := rfl

theorem Idle.handedOut {r : Receiver} (idle : r.Idle) (frames : Nat) : (r.handedOut frames).Idle :=
  ⟨idle.buffer, idle.escaped, idle.exceeded⟩

/-- What follows the opening delimiter of a frame completes its payload. -/
theorem Idle.feedAll_closing {r : Receiver} (idle : r.Idle) {payload : Bytes}
    (room : payload.length + Frame.trailerLength ≤ r.capacity) :
    r.feedAll (Frame.stuff (Frame.body payload) ++ [Frame.delimiter]) =
      ([payload], r.handedOut 1) := by
  have fits : r.buffer.size + (Frame.body payload).length ≤ r.capacity := by
    rw [idle.buffer, Frame.length_body, Array.size_empty]
    omega
  have plain : ¬ r.escaped = true := by simp [idle.escaped]
  have closed :
      ({ r with buffer := r.buffer ++ (Frame.body payload).toArray } : Receiver).feed
          Frame.delimiter =
        (some payload, r.handedOut 1) := by
    unfold feed
    rw [if_pos rfl, if_neg plain, finish_body payload (by simp [idle.buffer])]
    exact congrArg (Prod.mk (some payload)) (idle.handedOut 1).reset
  rw [feedAll_append, feedAll_stuff idle.escaped, foldl_append_of_room fits, feedAll_cons, closed]
  rfl

/-- The opening delimiter of a frame ends what was going on before, and the rest is received. -/
theorem feedAll_encode {r : Receiver} {payload : Bytes}
    (room : payload.length + Frame.trailerLength ≤ r.capacity) :
    r.feedAll (Frame.encode payload) =
      ((r.feed Frame.delimiter).1.toList ++ [payload],
        (r.feed Frame.delimiter).2.handedOut 1) := by
  have idle := idle_feed_delimiter r
  have unfolded : Frame.encode payload =
      Frame.delimiter :: (Frame.stuff (Frame.body payload) ++ [Frame.delimiter]) := rfl
  rw [unfolded, feedAll_cons, idle.feedAll_closing (by simpa using room)]

/-- An idle receiver hands out the payload of a frame, counts it, and is idle again. -/
theorem Idle.feedAll_encode {r : Receiver} (idle : r.Idle) {payload : Bytes}
    (room : payload.length + Frame.trailerLength ≤ r.capacity) :
    r.feedAll (Frame.encode payload) = ([payload], r.handedOut 1) := by
  rw [Receiver.feedAll_encode room, idle.feed_delimiter]
  rfl

/-- An idle receiver hands out the payloads of frames in their order, counts them, and is idle
again. -/
theorem Idle.feedAll_encodes {r : Receiver} (idle : r.Idle) {payloads : List Bytes}
    (room : ∀ payload ∈ payloads, payload.length + Frame.trailerLength ≤ r.capacity) :
    r.feedAll (payloads.flatMap Frame.encode) = (payloads, r.handedOut payloads.length) := by
  induction payloads generalizing r with
  | nil => rfl
  | cons payload payloads ih =>
    obtain ⟨first, others⟩ := List.forall_mem_cons.mp room
    rw [List.flatMap_cons, feedAll_append, idle.feedAll_encode first, ih (idle.handedOut 1) others]
    simp only [Receiver.handedOut, List.length_cons, List.singleton_append, Nat.add_assoc,
      Nat.add_comm 1]

end SerialLink.Receiver
