import Mathlib.Data.List.Infix
import SerialLink.Transport.Banner

/-!
Watching for the banner is a search for a substring, whatever pieces the stream comes in. What is
kept between two pieces is the end of the stream so far, one byte less than the banner has. As long
as the stream does not contain the banner, nothing more is needed to see it in the next piece
(`Banner.occurs_keptOf_append`). So a watch is at any time what the stream alone makes of it
(`BannerWatch.feed_ofStream`), and it tells of the banner for the one piece with which the stream
comes to contain it (`BannerWatch.told_where_completed`).
-/

namespace SerialLink

namespace Banner

theorem occursIn_iff {stream : Bytes} : occursIn stream = true ↔ text <:+: stream := by
  induction stream with
  | nil => decide
  | cons b stream ih =>
    rw [occursIn, Bool.or_eq_true, List.isPrefixOf_iff_prefix, ih, List.infix_cons_iff]

/-- The end of a stream, one byte less than the banner has. -/
def keptOf (stream : Bytes) : Bytes := stream.drop (stream.length - (text.length - 1))

theorem length_keptOf_le (stream : Bytes) : (keptOf stream).length ≤ text.length - 1 := by
  unfold keptOf
  rw [List.length_drop]
  omega

/-- The end of a stream is that of its own end and what follows. -/
theorem keptOf_keptOf_append (stream piece : Bytes) :
    keptOf (keptOf stream ++ piece) = keptOf (stream ++ piece) := by
  unfold keptOf
  rw [← List.drop_append_of_le_length (Nat.sub_le _ _), List.drop_drop]
  congr 1
  simp only [List.length_drop, List.length_append]
  omega

/-- A banner that begins in the stream and is not in it begins in its end. -/
theorem occurs_keptOf_append {stream : Bytes} (missing : ¬ text <:+: stream) (piece : Bytes) :
    text <:+: keptOf stream ++ piece ↔ text <:+: stream ++ piece := by
  have cut : keptOf stream ++ piece =
      (stream ++ piece).drop (stream.length - (text.length - 1)) :=
    (List.drop_append_of_le_length (Nat.sub_le _ _)).symm
  constructor
  · intro found
    rw [cut] at found
    exact found.trans (List.drop_suffix _ _).isInfix
  · rintro ⟨before, after, whole⟩
    -- Otherwise the banner would end in the stream.
    have late : stream.length - (text.length - 1) ≤ before.length := by
      by_contra early
      refine missing ?_
      have within : before ++ text <+: stream := by
        have here : before ++ text <+: stream ++ piece := ⟨after, whole⟩
        refine List.prefix_of_prefix_length_le here (List.prefix_append _ _) ?_
        rw [List.length_append]
        omega
      exact (List.suffix_append before text).isInfix.trans within.isInfix
    rw [cut, ← whole, List.append_assoc, List.drop_append_of_le_length late]
    exact ⟨_, after, List.append_assoc _ _ _⟩

end Banner

namespace BannerWatch

open Banner

/-- The stream does not contain the banner, and does with the piece behind it. -/
def completes (stream piece : Bytes) : Bool :=
  decide (¬ text <:+: stream ∧ text <:+: stream ++ piece)

/-- The watch that has seen a stream. -/
def ofStream (stream : Bytes) : BannerWatch :=
  if text <:+: stream then { kept := [], seen := true } else { kept := keptOf stream }

theorem length_kept_ofStream_le (stream : Bytes) :
    (ofStream stream).kept.length ≤ text.length - 1 := by
  unfold ofStream
  split
  · exact Nat.zero_le _
  · exact length_keptOf_le stream

/-- A watch that has not seen the banner looks for it in what was kept and the piece. -/
theorem feed_of_unseen (kept piece : Bytes) :
    ({ kept } : BannerWatch).feed piece =
      if text <:+: kept ++ piece then (true, { kept := [], seen := true })
      else (false, { kept := keptOf (kept ++ piece) }) := by
  simp only [← occursIn_iff]
  rfl

/-- A piece is told of if the stream contains the banner with it and not without it. -/
theorem feed_ofStream (stream piece : Bytes) :
    (ofStream stream).feed piece =
      (completes stream piece, ofStream (stream ++ piece)) := by
  unfold completes
  by_cases seen : text <:+: stream
  · have still : text <:+: stream ++ piece := seen.trans (List.prefix_append _ _).isInfix
    rw [ofStream, if_pos seen, ofStream, if_pos still, decide_eq_false fun both => both.1 seen]
    rfl
  · rw [ofStream, if_neg seen, feed_of_unseen, keptOf_keptOf_append, ofStream]
    by_cases found : text <:+: stream ++ piece
    · rw [if_pos ((occurs_keptOf_append seen piece).mpr found), if_pos found,
        decide_eq_true ⟨seen, found⟩]
    · rw [if_neg fun occurs => found ((occurs_keptOf_append seen piece).mp occurs), if_neg found,
        decide_eq_false fun both => found both.2]

/-- Looks at pieces one after the other, and tells for each what `feed` tells. -/
def feedPieces (w : BannerWatch) : List Bytes → List Bool × BannerWatch
  | [] => ([], w)
  | piece :: pieces =>
    let (found, w) := w.feed piece
    let (later, w) := feedPieces w pieces
    (found :: later, w)

theorem length_feedPieces (w : BannerWatch) (pieces : List Bytes) :
    (w.feedPieces pieces).1.length = pieces.length := by
  induction pieces generalizing w with
  | nil => rfl
  | cons piece pieces ih => exact congrArg Nat.succ (ih (w.feed piece).2)

theorem feedPieces_ofStream_cons (stream piece : Bytes) (pieces : List Bytes) :
    (ofStream stream).feedPieces (piece :: pieces) =
      (completes stream piece :: ((ofStream (stream ++ piece)).feedPieces pieces).1,
        ((ofStream (stream ++ piece)).feedPieces pieces).2) := by
  rw [feedPieces, feed_ofStream]

/-- A watch is what the stream makes of it, however that was cut. -/
theorem feedPieces_ofStream (stream : Bytes) (pieces : List Bytes) :
    ((ofStream stream).feedPieces pieces).2 = ofStream (stream ++ pieces.flatten) := by
  induction pieces generalizing stream with
  | nil => rw [List.flatten_nil, List.append_nil, feedPieces]
  | cons piece pieces ih =>
    rw [feedPieces_ofStream_cons, ih, List.flatten_cons, List.append_assoc]

theorem getElem?_feedPieces (stream : Bytes) (pieces : List Bytes) (place : Nat) :
    ((ofStream stream).feedPieces pieces).1[place]? =
      pieces[place]?.map (completes (stream ++ (pieces.take place).flatten)) := by
  induction pieces generalizing stream place with
  | nil => rfl
  | cons piece pieces ih =>
    rw [feedPieces_ofStream_cons]
    cases place with
    | zero => simp
    | succ place => simp [ih]

/-- The banner comes to be in a stream once at most. -/
theorem count_feedPieces (stream : Bytes) (pieces : List Bytes) :
    ((ofStream stream).feedPieces pieces).1.count true + (if text <:+: stream then 1 else 0) =
      if text <:+: stream ++ pieces.flatten then 1 else 0 := by
  induction pieces generalizing stream with
  | nil => simp [feedPieces]
  | cons piece pieces ih =>
    have later := ih (stream ++ piece)
    rw [feedPieces_ofStream_cons, List.flatten_cons, ← List.append_assoc, ← later,
      List.count_cons, completes]
    by_cases seen : text <:+: stream
    · have still : text <:+: stream ++ piece := seen.trans (List.prefix_append _ _).isInfix
      simp [seen, still]
    · by_cases found : text <:+: stream ++ piece <;> simp [seen, found]

/-- **The banner is told of once, where it is completed.** Feed any pieces to a new watch. It tells
of the banner for the one piece with which the stream comes to contain it, so once if the stream
contains it and else never; and it never keeps as many bytes as the banner has. -/
theorem told_where_completed (pieces : List Bytes) :
    (∀ place : Nat, (feedPieces {} pieces).1[place]? = some true ↔
        ¬ text <:+: (pieces.take place).flatten ∧ text <:+: (pieces.take (place + 1)).flatten) ∧
      (feedPieces {} pieces).1.length = pieces.length ∧
      (feedPieces {} pieces).1.count true = (if text <:+: pieces.flatten then 1 else 0) ∧
      (feedPieces {} pieces).2.kept.length ≤ text.length - 1 := by
  have fresh : ({} : BannerWatch) = ofStream [] := by decide
  rw [fresh]
  refine ⟨fun place => ?_, ?_, ?_, ?_⟩
  · rw [getElem?_feedPieces, List.nil_append]
    rcases Nat.lt_or_ge place pieces.length with inside | outside
    · have later : (pieces.take (place + 1)).flatten =
          (pieces.take place).flatten ++ pieces[place] := by
        rw [List.take_succ_eq_append_getElem inside, List.flatten_append, List.flatten_singleton]
      rw [List.getElem?_eq_getElem inside, later]
      simp [completes]
    · rw [List.getElem?_eq_none outside, List.take_of_length_le outside,
        List.take_of_length_le (Nat.le_succ_of_le outside)]
      simp
  · exact length_feedPieces _ _
  · exact count_feedPieces [] pieces
  · rw [feedPieces_ofStream]
    exact length_kept_ofStream_le _

/-- In pieces, behind a false start, and once more at the end. -/
example :
    (feedPieces {} [[0x42, 0x6F], [0x42, 0x6F, 0x6F, 0x74], [], [0x6C, 0x6F, 0x61, 0x64, 0x65],
      [0x72, 0x0D], text]).1 = [false, false, false, false, true, false] := by decide

end BannerWatch

end SerialLink
