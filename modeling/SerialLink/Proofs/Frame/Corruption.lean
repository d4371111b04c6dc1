import SerialLink.Proofs.Frame.Overflow

/-!
Frames with one wrong byte. The checksum is a sum, so the bytes of a payload count each for itself
(`checksum_append`), and bytes that differ count differently, whatever the other bytes are
(`eq_of_checksum_eq`). So a body in which one byte has been replaced, in the payload or in the
checksum, is not the body of any payload (`body_set_ne_body`), and a receiver that has room for it
drops it as one (`Idle.feedAll_corrupted`), however the byte is stuffed.
-/

namespace SerialLink

/-! ### Bodies -/

namespace Frame

private theorem foldl_sum (start : UInt16) (data : Bytes) :
    data.foldl (fun sum b => sum + b.toUInt16) start =
      start + data.foldl (fun sum b => sum + b.toUInt16) 0 := by
  induction data generalizing start with
  | nil => exact (UInt16.add_zero start).symm
  | cons b data ih =>
    rw [List.foldl_cons, List.foldl_cons, ih, ih (0 + b.toUInt16), UInt16.zero_add,
      UInt16.add_assoc]

theorem checksum_append (data later : Bytes) :
    checksum (data ++ later) = checksum data + checksum later := by
  unfold checksum
  rw [List.foldl_append, foldl_sum, UInt16.neg_add, UInt16.sub_eq_add_neg]

theorem checksum_singleton (b : UInt8) : checksum [b] = -b.toUInt16 := by
  unfold checksum
  rw [List.foldl_cons, List.foldl_nil, UInt16.zero_add]

/-- The checksum and all bytes but one determine that byte. -/
theorem eq_of_checksum_eq {before after : Bytes} {b c : UInt8}
    (same : checksum (before ++ b :: after) = checksum (before ++ c :: after)) : b = c := by
  have parts (d : UInt8) :
      checksum (before ++ d :: after) = checksum before + (-d.toUInt16 + checksum after) := by
    rw [← List.singleton_append, checksum_append, checksum_append, checksum_singleton]
  rw [parts b, parts c, UInt16.add_right_inj, UInt16.add_left_inj, UInt16.neg_inj] at same
  exact UInt8.toUInt16_inj.mp same

theorem checksum_eq_of_trailer_eq {payload other : Bytes} (same : trailer payload = trailer other) :
    checksum payload = checksum other := by
  have fits (data : Bytes) : (checksum data).toNat < wordCount trailerLength :=
    (checksum data).toNat_lt
  refine UInt16.toNat_inj.mp ?_
  calc (checksum payload).toNat
      = ofLittleEndian (trailer payload) := (ofLittleEndian_littleEndian _ _ (fits payload)).symm
    _ = ofLittleEndian (trailer other) := by rw [same]
    _ = (checksum other).toNat := ofLittleEndian_littleEndian _ _ (fits other)

/-- No body becomes the body of some payload if one of its bytes is replaced. -/
theorem body_set_ne_body {payload other : Bytes} {i : Nat} {b : UInt8}
    (inside : i < (body payload).length) (differs : (body payload)[i] ≠ b) :
    (body payload).set i b ≠ body other := by
  intro same
  rcases Nat.lt_or_ge i payload.length with within | behind
  · -- The payload has changed and its checksum has not.
    have old : (body payload)[i] = payload[i] := List.getElem_append_left within
    obtain ⟨before, after, whole, -, changed⟩ := List.exists_of_set within
    rw [body, List.set_append_left _ _ within] at same
    obtain ⟨rfl, trailers⟩ := List.append_inj' same (by simp)
    have checksums :
        checksum (before ++ payload[i] :: after) = checksum (before ++ b :: after) := by
      rw [← whole, ← changed]
      exact checksum_eq_of_trailer_eq trailers
    exact differs (old.trans (eq_of_checksum_eq checksums))
  · -- The checksum has changed and the payload has not.
    have place : i - payload.length < (trailer payload).length := by
      rw [length_body] at inside
      rw [length_trailer]
      omega
    have old : (body payload)[i] = (trailer payload)[i - payload.length] :=
      List.getElem_append_right behind
    rw [body, List.set_append_right _ _ behind] at same
    obtain ⟨rfl, trailers⟩ := List.append_inj' same (by simp)
    refine differs (old.trans ?_)
    rw [← List.getElem_of_eq trailers (by rwa [List.length_set])]
    exact List.getElem_set_self _

end Frame

/-! ### Receiving -/

namespace Receiver

variable {r : Receiver}

/-- The receiver after it has counted a body with a wrong checksum. -/
def countingChecksum (r : Receiver) : Receiver :=
  { r with counts := { r.counts with checksumErrors := r.counts.checksumErrors + 1 } }

theorem Idle.countingChecksum (idle : r.Idle) : r.countingChecksum.Idle :=
  ⟨idle.buffer, idle.escaped, idle.exceeded⟩

/-- What is not the body of any payload is dropped, and counted. -/
theorem finish_of_ne_body (long : Frame.trailerLength ≤ r.buffer.size)
    (foreign : ∀ payload : Bytes, r.buffer.toList ≠ Frame.body payload) :
    r.finish = (none, r.countingChecksum.reset) := by
  have dropped : r.finish.1 = none := by
    refine Option.eq_none_iff_forall_ne_some.mpr fun payload completed => ?_
    exact foreign payload (finish_eq_some_iff.mp completed)
  unfold finish at dropped ⊢
  dsimp only at dropped ⊢
  rw [if_neg (by rw [Array.length_toList]; omega)] at dropped ⊢
  split at dropped
  · cases dropped
  · rename_i differs
    rw [if_neg differs]
    rfl

/-- **One wrong byte.** Let the body of a frame fit into an idle receiver, and let one of its bytes
be replaced by another before the body is stuffed and enclosed, be it a byte of the payload or of
its checksum. Then no payload is completed, one wrong checksum is counted and nothing else, and the
receiver is idle again. -/
theorem Idle.feedAll_corrupted {payload : Bytes} {i : Nat} {b : UInt8} (idle : r.Idle)
    (room : payload.length + Frame.trailerLength ≤ r.capacity)
    (inside : i < (Frame.body payload).length) (differs : (Frame.body payload)[i] ≠ b) :
    r.feedAll (Frame.enclose ((Frame.body payload).set i b)) =
        ([], { r with
          counts := { r.counts with checksumErrors := r.counts.checksumErrors + 1 } }) ∧
      (r.feedAll (Frame.enclose ((Frame.body payload).set i b))).2.Idle := by
  have length : ((Frame.body payload).set i b).length = payload.length + Frame.trailerLength := by
    rw [List.length_set, Frame.length_body]
  have fits : r.buffer.size + ((Frame.body payload).set i b).length ≤ r.capacity := by
    rw [idle.buffer, length, Array.size_empty]
    omega
  have held := foldl_append_of_room fits
  rw [idle.buffer, Array.empty_append] at held
  have dropped := finish_of_ne_body
    (r := { r with buffer := ((Frame.body payload).set i b).toArray })
    (by rw [List.size_toArray, length]; omega)
    (fun other => Frame.body_set_ne_body inside differs)
  have ended : r.feedAll (Frame.enclose ((Frame.body payload).set i b)) =
      ([], r.countingChecksum) := by
    rw [idle.feedAll_enclose, held, dropped]
    exact congrArg (Prod.mk []) idle.countingChecksum.reset
  rw [ended]
  exact ⟨rfl, idle.countingChecksum⟩

/-- The delimiter in a payload is replaced by an escape marker, in a receiver that has no room for
more. -/
theorem Idle.feedAll_corrupted_of_stuffedByte :
    Idle { capacity := 4 } ∧ ([0x11, 0xC0] : Bytes).length + Frame.trailerLength ≤ 4 ∧
      (Frame.body [0x11, 0xC0])[1] ≠ 0xDB ∧
      Frame.enclose ((Frame.body [0x11, 0xC0]).set 1 0xDB) =
        [0xC0, 0x11, 0xDB, 0xDD, 0x2F, 0xFF, 0xC0] ∧
      ({ capacity := 4 } : Receiver).feedAll [0xC0, 0x11, 0xDB, 0xDD, 0x2F, 0xFF, 0xC0] =
        ([], { capacity := 4, counts := { checksumErrors := 1 } }) := by
  have idle : Idle { capacity := 4 } := ⟨rfl, rfl, rfl⟩
  have room : ([0x11, 0xC0] : Bytes).length + Frame.trailerLength ≤ 4 := by decide
  have differs : (Frame.body [0x11, 0xC0])[1] ≠ 0xDB := by decide
  have line : Frame.enclose ((Frame.body [0x11, 0xC0]).set 1 0xDB) =
      [0xC0, 0x11, 0xDB, 0xDD, 0x2F, 0xFF, 0xC0] := by decide
  have dropped := (idle.feedAll_corrupted room (by decide) differs).1
  rw [line] at dropped
  exact ⟨idle, room, differs, line, dropped⟩

end Receiver

end SerialLink
