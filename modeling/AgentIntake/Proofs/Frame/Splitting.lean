import AgentIntake.Proofs.Frame.Stream

/-!
# Reading lines is splitting a stream

Whoever serves a connection asks for one line after the other.  A call reads up to the next newline,
from a stream that comes in pieces, but never more than one byte beyond what a line may have
(`readUntil`).  It passes over blank lines and gives what the first other one holds (`readFrame`);
the calls go on until one finds the end of the stream or a line that is too long (`calls`).

The stream cut after each newline (`Cuts`) is what all of that comes to: to go through the segments
in order (`walk`) gives the same, call by call, and each call takes from the stream exactly the
segments that it has gone through.  The program's reader, which takes the stream byte by byte, gives
the same as well (`readings_eq_readout`).

## Why one byte more is enough

A call that has read to its limit cannot tell whether the line goes on, and need not: it has read a
byte more than a line may have.  If that byte is the newline the line was too long by this one byte.
So a line is too long exactly if as much of it was read (`upTo_of_segments`), and what comes behind
these bytes is never looked at (`walk_cut_off`).
-/

namespace AgentIntake

namespace Frame

open Line (segments)

/-! ## 1.  Cutting -/

/-- The segments are the stream, cut after each newline.  What is left behind the last one is a
segment too, if there is anything. -/
inductive Cuts : List (List UInt8) → List UInt8 → Prop where
  | nil : Cuts [] []
  | rest {bytes : List UInt8} (body : Byte.newline ∉ bytes) (ne_nil : bytes ≠ []) :
      Cuts [bytes] bytes
  | line {body rest : List UInt8} {segs : List (List UInt8)} (body_eq : Byte.newline ∉ body)
    (further : Cuts segs rest) :
    Cuts ((body ++ [Byte.newline]) :: segs) (body ++ [Byte.newline] ++ rest)

variable {stream : List UInt8} {segs : List (List UInt8)}

/-- **The segments of a stream are the stream cut after each newline.** -/
theorem cuts_segments (stream : List UInt8) : Cuts (segments stream) stream := by
  induction stream with
  | nil => exact .nil
  | cons b rest ih =>
    rw [segments]
    split
    · rename_i hb
      subst hb
      exact .line List.not_mem_nil ih
    · rename_i hb
      have hmem : ∀ {bytes}, Byte.newline ∉ bytes → Byte.newline ∉ b :: bytes := by
        intro bytes h hm
        exact (List.mem_cons.1 hm).elim (fun he => hb he.symm) h
      generalize segments rest = segs at ih
      cases ih with
      | nil => exact .rest (hmem List.not_mem_nil) (List.cons_ne_nil _ _)
      | rest body => exact .rest (hmem body) (List.cons_ne_nil _ _)
      | line body further => exact .line (hmem body) further

/-- There is no other way to cut it. -/
theorem Cuts.eq_segments (h : Cuts segs stream) : segs = segments stream := by
  induction h with
  | nil => rfl
  | rest body ne_nil => exact (Line.segments_of_not_mem body ne_nil).symm
  | line body _ ih => rw [Line.segments_append _ _ body, ih]

/-- No byte is lost, and none is in two segments. -/
theorem Cuts.flatten_eq (h : Cuts segs stream) : segs.flatten = stream := by
  induction h with
  | nil => rfl
  | rest => exact List.append_nil _
  | line _ _ ih => rw [List.flatten_cons, ih]

theorem Cuts.ne_nil {segment : List UInt8} (h : Cuts (segment :: segs) stream) : segment ≠ [] := by
  cases h with
  | rest _ ne_nil => exact ne_nil
  | line => exact List.append_ne_nil_of_right_ne_nil _ (List.cons_ne_nil _ _)

/-- Before the last byte of a segment there is no newline. -/
theorem Cuts.not_mem_take {segment : List UInt8} (h : Cuts (segment :: segs) stream) {n : Nat}
    (hn : n < segment.length) : Byte.newline ∉ segment.take n := by
  cases h with
  | rest body => exact fun hm => body (List.mem_of_mem_take hm)
  | line body =>
    rw [List.length_append, List.length_singleton] at hn
    rw [List.take_append_of_le_length (Nat.le_of_lt_succ hn)]
    exact fun hm => body (List.mem_of_mem_take hm)

/-- A segment that is not the last one ends with its newline, whatever comes behind it. -/
theorem Cuts.segments_before {before : List (List UInt8)} {long : List UInt8}
    {after : List (List UInt8)} (h : Cuts (before ++ long :: after) stream) :
    (∃ rest, Cuts (long :: after) rest) ∧
      ∀ more, segments (before.flatten ++ more) = before ++ segments more := by
  induction before generalizing stream with
  | nil => exact ⟨⟨stream, h⟩, fun _ => rfl⟩
  | cons segment before ih =>
    cases hs : before ++ long :: after with
    | nil => exact absurd hs (List.append_ne_nil_of_right_ne_nil _ (List.cons_ne_nil _ _))
    | cons next segs =>
      rw [List.cons_append, hs] at h
      cases h with
      | line body further =>
        rw [← hs] at further
        obtain ⟨hlong, hmore⟩ := ih further
        refine ⟨hlong, fun more => ?_⟩
        rw [List.flatten_cons, List.append_assoc, Line.segments_append _ _ body, hmore]
        rfl

/-- A segment goes on at least as far as its first bytes do. -/
theorem exists_segments_append {begun : List UInt8} (h : Byte.newline ∉ begun) (b : UInt8)
    (rest : List UInt8) :
    ∃ segment more, segments (begun ++ b :: rest) = segment :: more ∧ begun ++ [b] <+: segment := by
  induction begun with
  | nil =>
    rw [List.nil_append, segments]
    split
    · exact ⟨[b], segments rest, rfl, List.prefix_rfl⟩
    · split
      · exact ⟨[b], [], rfl, List.prefix_rfl⟩
      · exact ⟨_, _, rfl, List.prefix_append [b] _⟩
  | cons a begun ih =>
    have ha : a ≠ Byte.newline := fun he => h (he ▸ List.mem_cons_self)
    obtain ⟨segment, more, hs, hp⟩ := ih fun hm => h (List.mem_cons_of_mem _ hm)
    rw [List.cons_append, segments, if_neg ha, hs]
    exact ⟨a :: segment, more, rfl, (List.prefix_cons_inj a).2 hp⟩

/-! ## 2.  One read -/

/-- The bytes up to the first newline, but no more than `limit`, and the others. -/
def upTo : Nat → List UInt8 → List UInt8 × List UInt8
  | 0, stream => ([], stream)
  | _ + 1, [] => ([], [])
  | limit + 1, b :: stream =>
    if b = Byte.newline then ([b], stream)
    else
      let (line, rest) := upTo limit stream
      (b :: line, rest)

/-- The bytes up to the first newline, but no more than `limit`, from pieces that come one after the
other, and the pieces that are left. -/
def readUntil : Nat → List (List UInt8) → List UInt8 × List (List UInt8)
  | _, [] => ([], [])
  | limit, piece :: pieces =>
    let (line, rest) := upTo limit piece
    if line.getLast? = some Byte.newline ∨ line.length = limit then (line, rest :: pieces)
    else
      let (more, pieces) := readUntil (limit - line.length) pieces
      (line ++ more, pieces)

theorem upTo_nil (limit : Nat) : upTo limit [] = ([], []) := by
  cases limit <;> rfl

theorem upTo_append_rest (limit : Nat) (stream : List UInt8) :
    (upTo limit stream).1 ++ (upTo limit stream).2 = stream := by
  induction stream generalizing limit with
  | nil => rw [upTo_nil, List.append_nil]
  | cons b stream ih =>
    cases limit with
    | zero => rfl
    | succ limit =>
      rw [upTo]
      split
      · rfl
      · exact congrArg (b :: ·) (ih limit)

/-- What is read does not depend on where a piece ends. -/
theorem upTo_append (limit : Nat) (piece stream : List UInt8) :
    upTo limit (piece ++ stream) =
      if (upTo limit piece).1.getLast? = some Byte.newline ∨
          (upTo limit piece).1.length = limit then
        ((upTo limit piece).1, (upTo limit piece).2 ++ stream)
      else
        ((upTo limit piece).1 ++ (upTo (limit - (upTo limit piece).1.length) stream).1,
          (upTo (limit - (upTo limit piece).1.length) stream).2) := by
  induction piece generalizing limit with
  | nil =>
    cases limit with
    | zero => rfl
    | succ limit => rfl
  | cons b piece ih =>
    cases limit with
    | zero => rfl
    | succ limit =>
      rw [List.cons_append, upTo, upTo]
      by_cases hb : b = Byte.newline
      · subst hb
        rw [if_pos rfl, if_pos rfl, if_pos (.inl rfl)]
      · rw [if_neg hb, if_neg hb, ih]
        have hlast : (b :: (upTo limit piece).1).getLast? = some Byte.newline ↔
            (upTo limit piece).1.getLast? = some Byte.newline := by
          cases (upTo limit piece).1 with
          | nil => exact iff_of_false (fun h => hb (Option.some.inj h)) nofun
          | cons c line => rw [List.getLast?_cons_cons]
        simp only [hlast, List.length_cons, Nat.add_right_cancel_iff, Nat.add_sub_add_right]
        split <;> rfl

/-- **What is read does not depend on the pieces.** -/
theorem readUntil_eq (limit : Nat) (pieces : List (List UInt8)) :
    (readUntil limit pieces).1 = (upTo limit pieces.flatten).1 ∧
      (readUntil limit pieces).2.flatten = (upTo limit pieces.flatten).2 := by
  induction pieces generalizing limit with
  | nil =>
    rw [List.flatten_nil, upTo_nil]
    exact ⟨rfl, rfl⟩
  | cons piece pieces ih =>
    rw [List.flatten_cons, upTo_append, readUntil]
    dsimp only
    split
    · exact ⟨rfl, rfl⟩
    · obtain ⟨hline, hrest⟩ := ih (limit - (upTo limit piece).1.length)
      exact ⟨congrArg _ hline, hrest⟩

/-- **What is read is the first segment, or as much of it as the limit allows.**  If all of it is
read, the other segments are left. -/
theorem upTo_of_segments {segment : List UInt8} (h : segments stream = segment :: segs)
    (limit : Nat) :
    (upTo limit stream).1 = segment.take limit ∧
      (segment.length ≤ limit → segments (upTo limit stream).2 = segs) := by
  induction stream generalizing segment segs limit with
  | nil => cases h
  | cons b rest ih =>
    rw [segments] at h
    split at h
    · rename_i hb
      cases h
      cases limit with
      | zero => exact ⟨rfl, fun hle => absurd hle (Nat.not_succ_le_zero _)⟩
      | succ limit =>
        rw [upTo, if_pos hb, List.take_succ_cons, List.take_nil]
        exact ⟨rfl, fun _ => rfl⟩
    · rename_i hb
      split at h
      · rename_i hs
        cases h
        have hrest : rest = [] := by
          rw [← (cuts_segments rest).flatten_eq, hs]
          rfl
        subst hrest
        cases limit with
        | zero => exact ⟨rfl, fun hle => absurd hle (Nat.not_succ_le_zero _)⟩
        | succ limit =>
          rw [upTo, if_neg hb, upTo_nil, List.take_succ_cons, List.take_nil]
          exact ⟨rfl, fun _ => rfl⟩
      · rename_i segment more hs
        cases h
        cases limit with
        | zero => exact ⟨rfl, fun hle => absurd hle (Nat.not_succ_le_zero _)⟩
        | succ limit =>
          obtain ⟨hline, hmore⟩ := ih hs limit
          rw [upTo, if_neg hb]
          exact ⟨congrArg (b :: ·) hline, fun hle => hmore (Nat.le_of_succ_le_succ hle)⟩

/-- A read finds nothing if nothing is left. -/
theorem segments_of_read_nil {pieces : List (List UInt8)}
    (h : (readUntil (lineLimit + 1) pieces).1 = []) : segments pieces.flatten = [] := by
  have hcuts := cuts_segments pieces.flatten
  rw [(readUntil_eq _ pieces).1] at h
  cases hs : segments pieces.flatten with
  | nil => rfl
  | cons segment segs =>
    rw [hs] at hcuts
    rw [(upTo_of_segments hs _).1] at h
    exact absurd h (List.take_eq_nil_iff.not.2 (not_or.2 ⟨Nat.succ_ne_zero _, hcuts.ne_nil⟩))

/-- What a read finds is the first segment up to the limit. -/
theorem exists_segments_of_read {pieces : List (List UInt8)}
    (h : (readUntil (lineLimit + 1) pieces).1 ≠ []) :
    ∃ segment segs, segments pieces.flatten = segment :: segs ∧
      (readUntil (lineLimit + 1) pieces).1 = segment.take (lineLimit + 1) ∧
      (lineLimit < (readUntil (lineLimit + 1) pieces).1.length ↔ lineLimit < segment.length) ∧
      (segment.length ≤ lineLimit →
        segments (readUntil (lineLimit + 1) pieces).2.flatten = segs) := by
  obtain ⟨hline, hrest⟩ := readUntil_eq (lineLimit + 1) pieces
  cases hs : segments pieces.flatten with
  | nil =>
    have hnil : pieces.flatten = [] := by
      rw [← (cuts_segments pieces.flatten).flatten_eq, hs]
      rfl
    rw [hline, hnil, upTo_nil] at h
    exact absurd rfl h
  | cons segment segs =>
    obtain ⟨htake, hmore⟩ := upTo_of_segments hs (lineLimit + 1)
    refine ⟨segment, segs, rfl, hline.trans htake, ?_, fun hle => ?_⟩
    · rw [hline, htake, List.length_take]
      omega
    · rw [hrest]
      exact hmore (Nat.le_succ_of_le hle)

/-- **A line that is not too long is the first segment**, and the others are left. -/
theorem segments_of_read {pieces : List (List UInt8)}
    (h : (readUntil (lineLimit + 1) pieces).1 ≠ [])
    (hfits : ¬lineLimit < (readUntil (lineLimit + 1) pieces).1.length) :
    segments pieces.flatten = (readUntil (lineLimit + 1) pieces).1 ::
      segments (readUntil (lineLimit + 1) pieces).2.flatten := by
  obtain ⟨segment, segs, hs, htake, hlong, hsegs⟩ := exists_segments_of_read h
  have hle : segment.length ≤ lineLimit := Nat.le_of_not_lt (hlong.not.1 hfits)
  rw [hs, hsegs hle, htake, List.take_of_length_le (Nat.le_succ_of_le hle)]

/-! ## 3.  One call -/

/-- What a line holds that is neither blank nor too long. -/
def held (bytes : List UInt8) : Line :=
  match parse bytes with
  | .ok parsed => .frame parsed
  | .error fault => .malformed bytes fault

theorem readUntil_append_rest (limit : Nat) (pieces : List (List UInt8)) :
    (readUntil limit pieces).1 ++ (readUntil limit pieces).2.flatten = pieces.flatten := by
  obtain ⟨hline, hrest⟩ := readUntil_eq limit pieces
  rw [hline, hrest, upTo_append_rest]

theorem length_lt_of_readUntil {limit : Nat} {pieces : List (List UInt8)}
    (h : (readUntil limit pieces).1 ≠ []) :
    (readUntil limit pieces).2.flatten.length < pieces.flatten.length := by
  have hlength := congrArg List.length (readUntil_append_rest limit pieces)
  have hpos := List.length_pos_iff.2 h
  rw [List.length_append] at hlength
  omega

/-- A call for the next line: what it gives, nothing at the end of the stream; the bytes that it
takes; and the pieces that are left. -/
def readFrame (pieces : List (List UInt8)) : Option Line × List UInt8 × List (List UInt8) :=
  let read := readUntil (lineLimit + 1) pieces
  if _h : read.1 = [] then (none, [], read.2)
  else if lineLimit < read.1.length then (some .tooLong, read.1, read.2)
  else if read.1.all Blank.isBlankByte then
    let (line, passed, rest) := readFrame read.2
    (line, read.1 ++ passed, rest)
  else (some (held read.1), read.1, read.2)
termination_by pieces.flatten.length
decreasing_by exact length_lt_of_readUntil _h

/-- After it nothing is asked for: it is the end of the stream, or a line that is too long. -/
def isLast : Option Line → Bool
  | none | some .tooLong => true
  | some (.frame _) | some (.malformed ..) => false

theorem isLast_held (bytes : List UInt8) : isLast (some (held bytes)) = false := by
  unfold held
  cases parse bytes <;> rfl

theorem length_lt_of_readFrame {pieces : List (List UInt8)}
    (h : ¬isLast (readFrame pieces).1 = true) :
    (readFrame pieces).2.2.flatten.length < pieces.flatten.length := by
  fun_induction readFrame pieces with
  | case1 | case2 => exact absurd rfl h
  | case3 pieces read hne _ _ line passed rest hrec ih =>
    rw [hrec] at ih
    exact Nat.lt_trans (ih h) (length_lt_of_readUntil hne)
  | case4 pieces read hne => exact length_lt_of_readUntil hne

/-! ## 4.  All calls -/

/-- What the calls for the next line give, up to the last one, and the bytes that each of them
takes. -/
def calls (pieces : List (List UInt8)) : List (Option Line × List UInt8) :=
  let read := readFrame pieces
  if _h : isLast read.1 = true then [(read.1, read.2.1)]
  else (read.1, read.2.1) :: calls read.2.2
termination_by pieces.flatten.length
decreasing_by exact length_lt_of_readFrame _h

/-- What one gives who goes through segments, and what each time he has gone through: the segments
in `passed` before, which were blank, and those up to the next that is not. -/
def walk (passed : List UInt8) : List (List UInt8) → List (Option Line × List UInt8)
  | [] => [(none, passed)]
  | segment :: segs =>
    if lineLimit < segment.length then
      [(some .tooLong, passed ++ segment.take (lineLimit + 1))]
    else if segment.all Blank.isBlankByte then walk (passed ++ segment) segs
    else (some (held segment), passed ++ segment) :: walk [] segs

/-- What segments hold, in order: a blank one holds nothing, and one that is too long is the
last. -/
def readout : List (List UInt8) → List (Option Line)
  | [] => [none]
  | segment :: segs =>
    if lineLimit < segment.length then [some .tooLong]
    else if segment.all Blank.isBlankByte then readout segs
    else some (held segment) :: readout segs

/-- One call goes through the segments up to the first one that is not blank. -/
theorem walk_eq (pieces : List (List UInt8)) (passed : List UInt8) :
    walk passed (segments pieces.flatten) =
      if isLast (readFrame pieces).1 = true then
        [((readFrame pieces).1, passed ++ (readFrame pieces).2.1)]
      else
        ((readFrame pieces).1, passed ++ (readFrame pieces).2.1) ::
          walk [] (segments (readFrame pieces).2.2.flatten) := by
  fun_induction readFrame pieces generalizing passed with
  | case1 pieces read hnil =>
    have hlast : isLast none = true := rfl
    rw [segments_of_read_nil hnil, walk, if_pos hlast, List.append_nil]
  | case2 pieces read hne hlong =>
    obtain ⟨segment, segs, hs, htake, hiff, -⟩ := exists_segments_of_read hne
    have hlast : isLast (some .tooLong) = true := rfl
    rw [hs, walk, if_pos (hiff.1 hlong), if_pos hlast, ← htake]
  | case3 pieces read hne hfits hblank line taken rest hrec ih =>
    rw [segments_of_read hne hfits, walk, if_neg hfits, if_pos hblank, ih, hrec]
    dsimp only
    rw [List.append_assoc]
  | case4 pieces read hne hfits hblank =>
    rw [segments_of_read hne hfits, walk, if_neg hfits, if_neg hblank, isLast_held,
      if_neg Bool.false_ne_true]

/-- **The calls go through the segments of the stream.** -/
theorem calls_eq_walk (pieces : List (List UInt8)) :
    calls pieces = walk [] (segments pieces.flatten) := by
  fun_induction calls pieces with
  | case1 pieces read hlast =>
    rw [walk_eq, if_pos hlast]
    rfl
  | case2 pieces read hlast ih =>
    rw [walk_eq, if_neg hlast, ih]
    rfl

/-! ## 5.  What the calls give and take -/

/-- What was passed before makes no difference to what is given. -/
theorem map_fst_walk (passed : List UInt8) (segs : List (List UInt8)) :
    (walk passed segs).map (·.1) = readout segs := by
  induction segs generalizing passed with
  | nil => rfl
  | cons segment segs ih =>
    rw [walk, readout]
    split
    · rfl
    · split
      · exact ih _
      · exact congrArg (some (held segment) :: ·) (ih [])

/-- Each call but the last gives a line that has a segment of its own. -/
theorem length_walk_le (passed : List UInt8) (segs : List (List UInt8)) :
    (walk passed segs).length ≤ segs.length + 1 := by
  induction segs generalizing passed with
  | nil => exact Nat.le_refl 1
  | cons segment segs ih =>
    rw [walk]
    split
    · exact Nat.le_add_left _ _
    · split
      · exact Nat.le_succ_of_le (ih _)
      · exact Nat.succ_le_succ (ih [])

/-- The bytes of segments, up to the first one that is too long and as much of that one as is
read. -/
def taken : List (List UInt8) → List UInt8
  | [] => []
  | segment :: segs =>
    if lineLimit < segment.length then segment.take (lineLimit + 1) else segment ++ taken segs

/-- These are the bytes that are taken. -/
theorem flatMap_walk (passed : List UInt8) (segs : List (List UInt8)) :
    (walk passed segs).flatMap (·.2) = passed ++ taken segs := by
  induction segs generalizing passed with
  | nil => rfl
  | cons segment segs ih =>
    rw [walk, taken]
    split
    · exact List.append_nil _
    · split
      · rw [ih, List.append_assoc]
      · rw [List.flatMap_cons, ih, List.nil_append, List.append_assoc]

theorem taken_append {before : List (List UInt8)}
    (h : ∀ segment ∈ before, segment.length ≤ lineLimit) (segs : List (List UInt8)) :
    taken (before ++ segs) = before.flatten ++ taken segs := by
  induction before with
  | nil => rfl
  | cons segment before ih =>
    obtain ⟨hle, hbefore⟩ := List.forall_mem_cons.1 h
    rw [List.cons_append, taken, if_neg (Nat.not_lt.2 hle), ih hbefore, List.flatten_cons,
      List.append_assoc]

/-- Of a segment that is too long no more matters than what is read, and nothing that comes behind
it. -/
theorem walk_cut_off {before after after' : List (List UInt8)} {long long' : List UInt8}
    (hlong : lineLimit < long.length) (hlong' : lineLimit < long'.length)
    (htake : long'.take (lineLimit + 1) = long.take (lineLimit + 1)) (passed : List UInt8) :
    walk passed (before ++ long' :: after') = walk passed (before ++ long :: after) := by
  induction before generalizing passed with
  | nil =>
    rw [List.nil_append, List.nil_append, walk, walk, if_pos hlong, if_pos hlong', htake]
  | cons segment before ih =>
    rw [List.cons_append, List.cons_append, walk, walk, ih, ih]

/-- The stream up to the limit of a segment that is too long has such a segment there, however it
goes on. -/
theorem exists_segments_cut_off {before after : List (List UInt8)} {long : List UInt8}
    (h : Cuts (before ++ long :: after) stream) (hlong : lineLimit < long.length)
    (more : List UInt8) :
    ∃ long' after', segments (before.flatten ++ long.take (lineLimit + 1) ++ more) =
        before ++ long' :: after' ∧ lineLimit < long'.length ∧
          long'.take (lineLimit + 1) = long.take (lineLimit + 1) := by
  obtain ⟨⟨rest, hrest⟩, hbefore⟩ := h.segments_before
  have hread : long.take (lineLimit + 1) = long.take lineLimit ++ [long[lineLimit]] := by
    rw [List.take_add_one, List.getElem?_eq_getElem hlong]
    rfl
  have hlength : (long.take lineLimit ++ [long[lineLimit]]).length = lineLimit + 1 := by
    rw [← hread, List.length_take_of_le hlong]
  obtain ⟨long', after', hs, hp⟩ :=
    exists_segments_append (hrest.not_mem_take hlong) long[lineLimit] more
  refine ⟨long', after', ?_, ?_, ?_⟩
  · rw [List.append_assoc, hbefore, hread, List.append_assoc]
    exact congrArg (before ++ ·) hs
  · rw [← Nat.succ_le_iff, ← Nat.add_one, ← hlength]
    exact hp.length_le
  · rw [hread, List.prefix_iff_eq_take.1 hp, hlength]

/-- The lines of segments, and the end of the stream if no line before it is too long. -/
theorem readout_eq (segs : List (List UInt8)) :
    readout segs = (Line.ofSegments segs).map some ++
      if segs.any (lineLimit < ·.length) then [] else [none] := by
  induction segs with
  | nil => rfl
  | cons segment segs ih =>
    rw [readout, Line.ofSegments, List.any_cons]
    by_cases hlong : lineLimit < segment.length
    · rw [if_pos hlong, if_pos hlong, decide_eq_true hlong]
      rfl
    · rw [if_neg hlong, if_neg hlong, decide_eq_false hlong, Bool.false_or, Line.ofBytes?, ih]
      split
      · rfl
      · unfold held
        cases parse segment <;> rfl

/-- **The program's reader gives what the segments hold.** -/
theorem readings_eq_readout (pieces : List (List UInt8)) :
    LineReader.readings pieces = readout (segments pieces.flatten) := by
  obtain ⟨hlines, hover⟩ :=
    LineReader.feed_finish pieces.flatten [] List.not_mem_nil (Nat.zero_le _)
  have hbegin : LineReader.within [] = LineReader.start := rfl
  rw [List.nil_append, hbegin] at hlines hover
  have hany : (LineReader.start.feed pieces.flatten).1.isOver =
      (segments pieces.flatten).any (lineLimit < ·.length) := by
    rw [Bool.eq_iff_iff, hover, Line.Fits, List.any_eq_true]
    simp
  rw [LineReader.readings, LineReader.feedAll_eq, readout_eq]
  dsimp only
  rw [hlines, hany]
  rfl

/-! ## 6.  Reading and splitting -/

/-- What reading a stream line by line comes to that comes in pieces and has these segments.  They
are the stream cut after each newline (`cuts`), as it can be in one way only (`unique`), and no byte
is in two of them or in none (`flatten_eq`).  The calls give what the segments hold, in order
(`results`), and so does the program's reader (`readings`).

Each call takes from the stream the segments that it goes through (`walked`); there is one call for
each segment at most, and one that finds the end (`length_le`).  If no segment is too long all bytes
are taken (`all_taken`); of the first one that is too long one byte more is taken than a line may
have, and it does not matter what follows (`cut_off`). -/
structure Refines (pieces segs : List (List UInt8)) : Prop where
  cuts : Cuts segs pieces.flatten
  unique : ∀ others, Cuts others pieces.flatten → others = segs
  flatten_eq : segs.flatten = pieces.flatten
  results : (calls pieces).map (·.1) = readout segs
  readings : LineReader.readings pieces = readout segs
  walked : calls pieces = walk [] segs
  length_le : (calls pieces).length ≤ segs.length + 1
  all_taken : (∀ segment ∈ segs, segment.length ≤ lineLimit) →
    (calls pieces).flatMap (·.2) = pieces.flatten
  cut_off : ∀ before long after, segs = before ++ long :: after →
    (∀ segment ∈ before, segment.length ≤ lineLimit) → lineLimit < long.length →
      (calls pieces).flatMap (·.2) = before.flatten ++ long.take (lineLimit + 1) ∧
        ∀ (more : List UInt8) (others : List (List UInt8)),
          others.flatten = before.flatten ++ long.take (lineLimit + 1) ++ more →
            calls others = calls pieces

/-- **Reading lines refines splitting at newlines**, for every stream and all pieces in which it may
come. -/
theorem reading_refines_splitting (pieces : List (List UInt8)) :
    Refines pieces (segments pieces.flatten) := by
  have hcuts := cuts_segments pieces.flatten
  have hwalk := calls_eq_walk pieces
  generalize hsegs : segments pieces.flatten = segs at hcuts hwalk
  have htaken : (calls pieces).flatMap (·.2) = taken segs := by
    rw [hwalk, flatMap_walk, List.nil_append]
  refine
    { cuts := hcuts
      unique := fun others h => h.eq_segments.trans hsegs
      flatten_eq := hcuts.flatten_eq
      results := by rw [hwalk, map_fst_walk]
      readings := by rw [readings_eq_readout, hsegs]
      walked := hwalk
      length_le := by
        rw [hwalk]
        exact length_walk_le [] segs
      all_taken := fun h => ?_
      cut_off := ?_ }
  · have happend := taken_append h []
    rw [List.append_nil, taken, List.append_nil] at happend
    rw [htaken, happend, hcuts.flatten_eq]
  · rintro before long after rfl hbefore hlong
    refine ⟨?_, fun more others hothers => ?_⟩
    · rw [htaken, taken_append hbefore, taken, if_pos hlong]
    · obtain ⟨long', after', hs, hlong', htake⟩ := exists_segments_cut_off hcuts hlong more
      rw [calls_eq_walk, hothers, hs, hwalk]
      exact walk_cut_off hlong hlong' htake []

end Frame

end AgentIntake
