import SerialLink.Frame.Receiver

/-!
What a receiver counts never goes back. A byte completes a payload exactly if one frame more is
counted, and what was dropped stays counted (`Receiver.counts_feed`).
-/

namespace SerialLink

/-- No more had been dropped then than has been dropped later. -/
structure ReceiverCounts.Precedes (before after : ReceiverCounts) : Prop where
  checksumErrors : before.checksumErrors ≤ after.checksumErrors
  escapeErrors : before.escapeErrors ≤ after.escapeErrors
  overflowBytes : before.overflowBytes ≤ after.overflowBytes

theorem ReceiverCounts.Precedes.refl (counts : ReceiverCounts) : counts.Precedes counts :=
  ⟨Nat.le_refl _, Nat.le_refl _, Nat.le_refl _⟩

theorem ReceiverCounts.Precedes.trans {first second third : ReceiverCounts}
    (before : first.Precedes second) (after : second.Precedes third) : first.Precedes third :=
  ⟨Nat.le_trans before.checksumErrors after.checksumErrors,
    Nat.le_trans before.escapeErrors after.escapeErrors,
    Nat.le_trans before.overflowBytes after.overflowBytes⟩

namespace Receiver

theorem counts_append (r : Receiver) (b : UInt8) :
    (r.append b).counts.frames = r.counts.frames ∧ r.counts.Precedes (r.append b).counts := by
  unfold append
  split
  · exact ⟨rfl, .refl _⟩
  · exact ⟨rfl, Nat.le_refl _, Nat.le_refl _, Nat.le_succ _⟩

theorem counts_rejectEscape (r : Receiver) :
    r.rejectEscape.counts.frames = r.counts.frames ∧ r.counts.Precedes r.rejectEscape.counts :=
  ⟨rfl, Nat.le_refl _, Nat.le_succ _, Nat.le_refl _⟩

theorem counts_finish (r : Receiver) :
    r.finish.2.counts.frames = r.counts.frames + r.finish.1.toList.length ∧
      r.counts.Precedes r.finish.2.counts := by
  unfold finish
  dsimp only
  split
  · exact ⟨rfl, .refl _⟩
  · split
    · exact ⟨rfl, Nat.le_refl _, Nat.le_refl _, Nat.le_refl _⟩
    · exact ⟨rfl, Nat.le_succ _, Nat.le_refl _, Nat.le_refl _⟩

/-- A byte completes a frame exactly if one more is counted, and what was dropped stays counted. -/
theorem counts_feed (r : Receiver) (b : UInt8) :
    (r.feed b).2.counts.frames = r.counts.frames + (r.feed b).1.toList.length ∧
      r.counts.Precedes (r.feed b).2.counts := by
  unfold feed
  split
  · split
    · exact r.counts_rejectEscape
    · exact r.counts_finish
  split
  · split
    · exact counts_append { r with escaped := false } _
    · split
      · exact counts_append { r with escaped := false } _
      · exact counts_rejectEscape { r with escaped := false }
  · split
    · exact ⟨rfl, .refl _⟩
    · exact r.counts_append b

theorem counts_of_feed {r after : Receiver} {b : UInt8} {payload : Option Bytes}
    (fed : r.feed b = (payload, after)) :
    after.counts.frames = r.counts.frames + payload.toList.length ∧
      r.counts.Precedes after.counts := by
  have counted := r.counts_feed b
  rwa [fed] at counted

end Receiver

end SerialLink
