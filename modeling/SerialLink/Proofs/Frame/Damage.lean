import Mathlib.Data.List.Induction
import SerialLink.Proofs.Frame.Stream

/-!
Frames with a broken escape sequence: an escape marker that neither a substitute nor a delimiter
follows. The receiver drops the body in progress there and takes the bytes behind it for the start
of another body, as a new receiver would (`alike_rejectEscape`). So the rest of a damaged frame is
silent up to its closing delimiter, but not always at it: it completes a payload exactly if the
bytes behind its last broken sequence hold a body with its checksum
(`feedAll_of_broken_escape`). What comes behind the delimiter is received as by a new receiver.

`Remains` tells what the bytes since a delimiter leave in progress, without a receiver; that a
receiver holds just that is `holds_heard` and `heard_of_remains`.
-/

namespace SerialLink

/-! ### Broken escape sequences -/

namespace Frame

/-- Neither a substitute nor a delimiter: behind an escape marker, this byte breaks off the body. -/
structure BreaksEscape (b : UInt8) : Prop where
  delimiter : b ≠ Frame.delimiter
  escapedDelimiter : b ≠ Frame.escapedDelimiter
  escapedEscape : b ≠ Frame.escapedEscape

/-- Stretches of stuffed bytes, each ended by a broken escape sequence. -/
inductive Skipped : Bytes → Prop where
  | nil : Skipped []
  | snoc {skipped : Bytes} {b : UInt8} (before : Skipped skipped) (kept : Bytes)
    (breaks : BreaksEscape b) : Skipped (skipped ++ stuff kept ++ [escape, b])

/-- Behind the last broken escape sequence, the bytes are the stuffed form of those that remain, and
perhaps an escape marker that waits for what follows it. -/
def Remains (bytes kept : Bytes) (escaped : Bool) : Prop :=
  ∃ skipped : Bytes, Skipped skipped ∧
    bytes = skipped ++ stuff kept ++ if escaped then [escape] else []

theorem stuff_append (bytes later : Bytes) : stuff (bytes ++ later) = stuff bytes ++ stuff later := by
  simp [stuff]

theorem stuff_singleton (b : UInt8) : stuff [b] = stuffByte b := by
  simp [stuff]

variable {bytes kept : Bytes} {b : UInt8}

theorem remains_nil : Remains [] [] false := ⟨[], .nil, rfl⟩

theorem Remains.marker (remains : Remains bytes kept false) :
    Remains (bytes ++ [escape]) kept true := by
  obtain ⟨skipped, skips, rfl⟩ := remains
  exact ⟨skipped, skips, by simp⟩

theorem Remains.plain (remains : Remains bytes kept false) (plain : stuffByte b = [b]) :
    Remains (bytes ++ [b]) (kept ++ [b]) false := by
  obtain ⟨skipped, skips, rfl⟩ := remains
  refine ⟨skipped, skips, ?_⟩
  rw [stuff_append, stuff_singleton, plain]
  simp

theorem Remains.substitute (remains : Remains bytes kept true) {original : UInt8}
    (stands : stuffByte original = [escape, b]) :
    Remains (bytes ++ [b]) (kept ++ [original]) false := by
  obtain ⟨skipped, skips, rfl⟩ := remains
  refine ⟨skipped, skips, ?_⟩
  rw [stuff_append, stuff_singleton, stands]
  simp

theorem Remains.broken (remains : Remains bytes kept true) (breaks : BreaksEscape b) :
    Remains (bytes ++ [b]) [] false := by
  obtain ⟨skipped, skips, rfl⟩ := remains
  exact ⟨_, skips.snoc kept breaks, by simp [stuff]⟩

end Frame

namespace Receiver

/-! ### Silence -/

/-- Only a delimiter completes a payload. -/
theorem feed_of_ne_delimiter (r : Receiver) {b : UInt8} (other : b ≠ Frame.delimiter) :
    (r.feed b).1 = none := by
  unfold feed
  rw [if_neg other]
  split
  · dsimp only
    split
    · rfl
    · split <;> rfl
  · split <;> rfl

theorem feedAll_of_notMem {bytes : Bytes} (r : Receiver) (absent : Frame.delimiter ∉ bytes) :
    (r.feedAll bytes).1 = [] := by
  induction bytes generalizing r with
  | nil => rfl
  | cons b bytes ih =>
    simp only [List.mem_cons, not_or] at absent
    obtain ⟨other, absent⟩ := absent
    rw [feedAll_cons, feed_of_ne_delimiter r (Ne.symm other), ih _ absent]
    rfl

/-! ### Receivers that are alike -/

/-- Two receivers with the same body in progress. They may have counted and left out different
bytes, but give the same payloads. -/
structure Alike (r r' : Receiver) : Prop where
  capacity : r.capacity = r'.capacity
  buffer : r.buffer = r'.buffer
  escaped : r.escaped = r'.escaped

variable {r r' : Receiver}

theorem Alike.append (alike : r.Alike r') (b : UInt8) : (r.append b).Alike (r'.append b) := by
  obtain ⟨capacity, buffer, escaped⟩ := alike
  unfold Receiver.append
  rw [buffer, capacity]
  split <;> exact ⟨rfl, rfl, escaped⟩

theorem Alike.finish (alike : r.Alike r') :
    r.finish.1 = r'.finish.1 ∧ r.finish.2.Alike r'.finish.2 := by
  obtain ⟨counts, after⟩ := finish_snd r
  obtain ⟨counts', after'⟩ := finish_snd r'
  constructor
  · unfold Receiver.finish
    dsimp only
    rw [alike.buffer]
    split
    · rfl
    · split <;> rfl
  · rw [after, after']
    exact ⟨alike.capacity, rfl, rfl⟩

theorem Alike.feed (alike : r.Alike r') (b : UInt8) :
    (r.feed b).1 = (r'.feed b).1 ∧ (r.feed b).2.Alike (r'.feed b).2 := by
  have reset : (r.rejectEscape).Alike r'.rejectEscape := ⟨alike.capacity, rfl, rfl⟩
  have plain : { r with escaped := false }.Alike { r' with escaped := false } :=
    ⟨alike.capacity, alike.buffer, rfl⟩
  unfold Receiver.feed
  rw [alike.escaped]
  split
  · split
    · exact ⟨rfl, reset⟩
    · exact alike.finish
  · split
    · dsimp only
      split
      · exact ⟨rfl, plain.append _⟩
      · split
        · exact ⟨rfl, plain.append _⟩
        · exact ⟨rfl, alike.capacity, rfl, rfl⟩
    · split
      · exact ⟨rfl, alike.capacity, alike.buffer, rfl⟩
      · exact ⟨rfl, alike.append b⟩

theorem Alike.feedAll (alike : r.Alike r') (bytes : Bytes) :
    (r.feedAll bytes).1 = (r'.feedAll bytes).1 ∧
      (r.feedAll bytes).2.Alike (r'.feedAll bytes).2 := by
  induction bytes generalizing r r' with
  | nil => exact ⟨rfl, alike⟩
  | cons b bytes ih =>
    obtain ⟨payload, after⟩ := alike.feed b
    obtain ⟨payloads, last⟩ := ih after
    rw [feedAll_cons, feedAll_cons, payload, payloads]
    exact ⟨rfl, last⟩

/-- Without a body in progress a receiver is like a new one. -/
theorem alike_reset (r : Receiver) : r.reset.Alike { capacity := r.capacity } := ⟨rfl, rfl, rfl⟩

theorem alike_rejectEscape (r : Receiver) : r.rejectEscape.Alike { capacity := r.capacity } :=
  ⟨rfl, rfl, rfl⟩

theorem alike_feed_delimiter (r : Receiver) :
    (r.feed Frame.delimiter).2.Alike { capacity := r.capacity } := by
  obtain ⟨counts, after⟩ := feed_delimiter_snd r
  rw [after]
  exact alike_reset _

theorem feed_of_breaksEscape (escaped : r.escaped = true) {b : UInt8}
    (breaks : Frame.BreaksEscape b) :
    r.feed b = (none, { r with escaped := false }.rejectEscape) := by
  unfold feed
  rw [if_neg breaks.delimiter, if_pos escaped]
  dsimp only
  rw [if_neg breaks.escapedDelimiter, if_neg breaks.escapedEscape]

/-! ### What completes a payload -/

/-- A body is handed out exactly if it ends in its own checksum. -/
theorem finish_eq_some_iff {payload : Bytes} :
    r.finish.1 = some payload ↔ r.buffer.toList = Frame.body payload := by
  constructor
  · intro completed
    unfold finish at completed
    dsimp only at completed
    split at completed
    · cases completed
    · split at completed
      · rename_i agrees
        cases completed
        have whole := List.take_append_drop
          (r.buffer.toList.take (r.buffer.toList.length - Frame.trailerLength)).length
          r.buffer.toList
        rw [agrees] at whole
        simp only [List.length_take, Nat.sub_le, Nat.min_eq_left] at whole
        exact whole.symm
      · cases completed
  · intro held
    rw [finish_body payload held]

theorem feed_delimiter_eq_some_iff {payload : Bytes} :
    (r.feed Frame.delimiter).1 = some payload ↔
      r.escaped = false ∧ r.buffer.toList = Frame.body payload := by
  unfold feed
  rw [if_pos rfl]
  cases escaped : r.escaped with
  | true => simp
  | false => simp [finish_eq_some_iff]

/-! ### The body in progress -/

/-- Bytes beyond the capacity are left out. -/
theorem buffer_append_of_take {kept : Bytes} (held : r.buffer.toList = kept.take r.capacity)
    (b : UInt8) : (r.append b).buffer.toList = (kept ++ [b]).take r.capacity := by
  have size : r.buffer.size = min r.capacity kept.length := by
    rw [← Array.length_toList, held, List.length_take]
  unfold append
  split
  · rename_i room
    have all : kept.length < r.capacity := by omega
    rw [Array.toList_push, held, List.take_of_length_le (Nat.le_of_lt all),
      List.take_of_length_le (by rw [List.length_append]; exact all)]
  · rename_i full
    rw [held, List.take_append_of_le_length (by omega)]

theorem buffer_foldl_append (r : Receiver) {kept : Bytes}
    (held : r.buffer.toList = kept.take r.capacity) (bytes : Bytes) :
    (bytes.foldl append r).buffer.toList = (kept ++ bytes).take r.capacity := by
  induction bytes generalizing r kept with
  | nil => simpa using held
  | cons b bytes ih =>
    have next : (r.append b).buffer.toList = (kept ++ [b]).take (r.append b).capacity := by
      rw [capacity_append]
      exact buffer_append_of_take held b
    rw [List.foldl_cons, ih (r.append b) next, capacity_append, List.append_assoc,
      List.singleton_append]

theorem heard_append (capacity : Nat) (bytes later : Bytes) :
    heard capacity (bytes ++ later) = ((heard capacity bytes).feedAll later).2 := by
  unfold heard
  rw [feedAll_append]

theorem escaped_foldl_append (r : Receiver) (bytes : Bytes) :
    (bytes.foldl append r).escaped = r.escaped := by
  induction bytes generalizing r with
  | nil => rfl
  | cons b bytes ih => rw [List.foldl_cons, ih, escaped_append]

theorem capacity_foldl_append (r : Receiver) (bytes : Bytes) :
    (bytes.foldl append r).capacity = r.capacity := by
  induction bytes generalizing r with
  | nil => rfl
  | cons b bytes ih => rw [List.foldl_cons, ih, capacity_append]

theorem feed_escape (plain : r.escaped = false) :
    r.feed Frame.escape = (none, { r with escaped := true }) := by
  unfold feed
  rw [if_neg (by decide), plain]
  rfl

/-- Stuffed bytes and a broken escape sequence behind them leave nothing. -/
theorem alike_feedAll_broken (plain : r.escaped = false) (kept : Bytes) {b : UInt8}
    (breaks : Frame.BreaksEscape b) :
    (r.feedAll (Frame.stuff kept ++ [Frame.escape, b])).2.Alike { capacity := r.capacity } := by
  have plain' : (kept.foldl append r).escaped = false := by rw [escaped_foldl_append, plain]
  rw [feedAll_append, feedAll_stuff plain, feedAll_cons, feed_escape plain', feedAll_cons,
    feed_of_breaksEscape rfl breaks, feedAll_nil]
  exact ⟨capacity_foldl_append r kept, rfl, rfl⟩

/-- Skipped bytes leave the receiver like a new one. -/
theorem alike_heard_of_skipped {capacity : Nat} {skipped : Bytes} (skips : Frame.Skipped skipped) :
    (heard capacity skipped).Alike { capacity } := by
  induction skips with
  | nil => exact ⟨rfl, rfl, rfl⟩
  | snoc before kept breaks ih =>
    have broken := alike_feedAll_broken ih.escaped kept breaks
    rw [capacity_heard] at broken
    rw [List.append_assoc, heard_append]
    exact broken

/-- Stuffed bytes stand in a new receiver as they were before stuffing, up to its capacity. -/
theorem heard_of_remains (capacity : Nat) {bytes kept : Bytes}
    (remains : Frame.Remains bytes kept false) :
    (heard capacity bytes).escaped = false ∧
      (heard capacity bytes).buffer.toList = kept.take capacity := by
  obtain ⟨skipped, skips, rfl⟩ := remains
  have fresh : (heard capacity skipped).Alike { capacity } := alike_heard_of_skipped skips
  have same := (fresh.feedAll (Frame.stuff kept)).2
  rw [feedAll_stuff (r := { capacity }) rfl] at same
  have empty : ({ capacity } : Receiver).buffer.toList = ([] : Bytes).take capacity := by simp
  simp only [Bool.false_eq_true, if_false, List.append_nil, heard_append]
  constructor
  · rw [same.escaped, escaped_foldl_append]
  · rw [same.buffer, buffer_foldl_append _ empty, List.nil_append]

/-- What is in progress is what remains of the bytes, up to the capacity. -/
def Holds (r : Receiver) (bytes : Bytes) : Prop :=
  ∃ kept : Bytes, Frame.Remains bytes kept r.escaped ∧ r.buffer.toList = kept.take r.capacity

theorem Holds.feed {bytes : Bytes} {b : UInt8} (holds : r.Holds bytes)
    (other : b ≠ Frame.delimiter) : (r.feed b).2.Holds (bytes ++ [b]) := by
  obtain ⟨kept, remains, held⟩ := holds
  unfold Receiver.feed
  rw [if_neg other]
  split
  · rename_i escaped
    rw [escaped] at remains
    have added (original : UInt8) :
        ({ r with escaped := false }.append original).buffer.toList =
          (kept ++ [original]).take r.capacity :=
      buffer_append_of_take (r := { r with escaped := false }) held original
    dsimp only
    -- A substitute stands for one byte more; anything else breaks off what was kept.
    split
    · rename_i same
      subst same
      refine ⟨kept ++ [Frame.delimiter], ?_, ?_⟩
      · rw [escaped_append]
        exact remains.substitute rfl
      · rw [capacity_append]
        exact added _
    · rename_i first
      split
      · rename_i same
        subst same
        refine ⟨kept ++ [Frame.escape], ?_, ?_⟩
        · rw [escaped_append]
          exact remains.substitute rfl
        · rw [capacity_append]
          exact added _
      · rename_i second
        exact ⟨[], remains.broken ⟨other, first, second⟩, by simp [rejectEscape, reset]⟩
  · rename_i plain
    rw [Bool.eq_false_iff.mpr plain] at remains
    split
    · rename_i same
      subst same
      exact ⟨kept, remains.marker, held⟩
    · rename_i marker
      refine ⟨kept ++ [b], ?_, ?_⟩
      · rw [escaped_append, Bool.eq_false_iff.mpr plain]
        exact remains.plain (by unfold Frame.stuffByte; rw [if_neg other, if_neg marker])
      · rw [capacity_append]
        exact buffer_append_of_take held b

theorem holds_heard (capacity : Nat) {bytes : Bytes} (absent : Frame.delimiter ∉ bytes) :
    (heard capacity bytes).Holds bytes := by
  induction bytes using List.reverseRecOn with
  | nil => exact ⟨[], Frame.remains_nil, by simp [heard]⟩
  | append_singleton bytes b ih =>
    simp only [List.mem_append, List.mem_singleton, not_or] at absent
    obtain ⟨absent, other⟩ := absent
    rw [heard_append, feedAll_cons, feedAll_nil]
    exact (ih absent).feed (Ne.symm other)

/-- A new receiver completes a payload at the next delimiter exactly if its body remains. -/
theorem heard_feed_delimiter_iff {capacity : Nat} {bytes payload : Bytes}
    (absent : Frame.delimiter ∉ bytes) :
    ((heard capacity bytes).feed Frame.delimiter).1 = some payload ↔
      ∃ kept : Bytes, Frame.Remains bytes kept false ∧ kept.take capacity = Frame.body payload := by
  rw [feed_delimiter_eq_some_iff]
  constructor
  · rintro ⟨plain, held⟩
    obtain ⟨kept, remains, taken⟩ := holds_heard capacity absent
    rw [plain] at remains
    rw [capacity_heard, held] at taken
    exact ⟨kept, remains, taken.symm⟩
  · rintro ⟨kept, remains, whole⟩
    obtain ⟨plain, held⟩ := heard_of_remains capacity remains
    exact ⟨plain, held.trans whole⟩

/-! ### Damaged frames -/

/-- **A broken escape sequence starts the body anew.** Let a receiver have taken an escape marker,
and let a byte break it off, whatever the receiver held before. Then no payload is completed up to
the next delimiter. At the delimiter one is completed exactly if what remains of the bytes since,
up to the capacity, is a body with its checksum. Whatever comes behind the delimiter completes what
it completes in a new receiver. -/
theorem feedAll_of_broken_escape {r : Receiver} {b : UInt8} {inner : Bytes}
    (escaped : r.escaped = true) (breaks : Frame.BreaksEscape b)
    (absent : Frame.delimiter ∉ inner) :
    (r.feedAll (b :: inner)).1 = [] ∧
      (∀ payload : Bytes,
        ((r.feedAll (b :: inner)).2.feed Frame.delimiter).1 = some payload ↔
          ∃ kept : Bytes, Frame.Remains inner kept false ∧
            kept.take r.capacity = Frame.body payload) ∧
      ∀ later : Bytes,
        (((r.feedAll (b :: inner)).2.feed Frame.delimiter).2.feedAll later).1 =
          (({ capacity := r.capacity } : Receiver).feedAll later).1 := by
  have silent : Frame.delimiter ∉ b :: inner := by
    simp only [List.mem_cons, not_or]
    exact ⟨Ne.symm breaks.delimiter, absent⟩
  have anew : (r.feedAll (b :: inner)).2.Alike (heard r.capacity inner) := by
    rw [feedAll_cons, feed_of_breaksEscape escaped breaks]
    have fresh : { r with escaped := false }.rejectEscape.Alike { capacity := r.capacity } :=
      alike_rejectEscape _
    exact (fresh.feedAll inner).2
  obtain ⟨completed, after⟩ := anew.feed Frame.delimiter
  refine ⟨feedAll_of_notMem r silent, fun payload => ?_, fun later => ?_⟩
  · rw [completed]
    exact heard_feed_delimiter_iff absent
  · have idle := alike_feed_delimiter (heard r.capacity inner)
    rw [capacity_heard] at idle
    rw [(after.feedAll later).1, (idle.feedAll later).1]

/-- A frame is broken off twice, and a body follows the second time. -/
theorem feedAll_of_broken_escape_twice :
    (heard 512 [0xC0, 0x55, 0xDB]).escaped = true ∧ Frame.BreaksEscape 0x01 ∧
      Frame.delimiter ∉ ([0x66, 0xDB, 0xDB, 0x07, 0xF9, 0xFF] : Bytes) ∧
      ((heard 512 [0xC0, 0x55, 0xDB]).feedAll [0x01, 0x66, 0xDB, 0xDB, 0x07, 0xF9, 0xFF]).1 = [] ∧
      ((((heard 512 [0xC0, 0x55, 0xDB]).feedAll
        [0x01, 0x66, 0xDB, 0xDB, 0x07, 0xF9, 0xFF]).2.feed Frame.delimiter).1 = some [0x07] ↔
          ∃ kept : Bytes, Frame.Remains [0x66, 0xDB, 0xDB, 0x07, 0xF9, 0xFF] kept false ∧
            kept.take 512 = Frame.body [0x07]) ∧
      Frame.Remains [0x66, 0xDB, 0xDB, 0x07, 0xF9, 0xFF] [0x07, 0xF9, 0xFF] false := by
  have escaped : (heard 512 [0xC0, 0x55, 0xDB]).escaped = true := by rfl
  have breaks : Frame.BreaksEscape 0x01 := ⟨by decide, by decide, by decide⟩
  have absent : Frame.delimiter ∉ ([0x66, 0xDB, 0xDB, 0x07, 0xF9, 0xFF] : Bytes) := by decide
  obtain ⟨silent, completed, -⟩ := feedAll_of_broken_escape escaped breaks absent
  have skips : Frame.Skipped [0x66, 0xDB, 0xDB] :=
    Frame.Skipped.nil.snoc [0x66] ⟨by decide, by decide, by decide⟩
  exact ⟨escaped, breaks, absent, silent, completed [0x07], _, skips, rfl⟩

/-- The rest of a damaged frame comes out as a payload that nobody sent. -/
theorem feedAll_of_whole_remainder :
    Frame.BreaksEscape 0x41 ∧
      (({} : Receiver).feedAll
        [Frame.delimiter, Frame.escape, 0x41, 0x07, 0xF9, 0xFF, Frame.delimiter]).1 = [[0x07]] :=
  ⟨⟨by decide, by decide, by decide⟩, by rfl⟩

end Receiver

end SerialLink
