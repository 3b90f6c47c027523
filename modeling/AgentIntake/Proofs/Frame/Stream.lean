import AgentIntake.Proofs.Frame.RoundTrip

/-!
# Streams of frames

A connection is read line by line until its stream ends.  `LineReader.readings` is what the calls
for the next line give, one after the other, with `none` where there are no more lines, on a stream
that comes in pieces of any size.

`readings_eq` says that these are the lines of the whole stream, `Frame.Line.ofStream`, so the
pieces make no difference.  What is in the middle of a line between two pieces is a part of a
segment, and the reader in the middle of a line is `LineReader.within` of that part.  This is the
only form that a reader takes before the end, and `feed_finish` goes from each byte to the next with
it.

## Frames and blank lines

`Laid frames stream` says that a stream is the lines of the frames in order, with blank lines at any
place between them.  Such a stream gives back the frames and nothing else
(`readings_of_laid`).
-/

namespace AgentIntake

namespace Frame

namespace Line

/-! ## 1.  Segments -/

/-- No line of the stream is too long. -/
def Fits (stream : List UInt8) : Prop :=
  ∀ segment ∈ segments stream, segment.length ≤ lineLimit

instance (stream : List UInt8) : Decidable (Fits stream) :=
  inferInstanceAs (Decidable (∀ segment ∈ segments stream, segment.length ≤ lineLimit))

/-- Bytes without a newline are one segment. -/
theorem segments_of_not_mem {bytes : List UInt8} (h : Byte.newline ∉ bytes) (hne : bytes ≠ []) :
    segments bytes = [bytes] := by
  induction bytes with
  | nil => exact absurd rfl hne
  | cons b bytes ih =>
    have hb : b ≠ Byte.newline := fun he => h (he ▸ List.mem_cons_self)
    rw [segments, if_neg hb]
    cases bytes with
    | nil => rfl
    | cons c bytes => rw [ih (fun hm => h (List.mem_cons_of_mem _ hm)) (List.cons_ne_nil _ _)]

/-- The first segment goes on at least to the byte behind those that end no line. -/
theorem exists_segments_cons {begun : List UInt8} (h : Byte.newline ∉ begun) (b : UInt8)
    (rest : List UInt8) :
    ∃ segment more, segments (begun ++ b :: rest) = segment :: more ∧
      begun.length < segment.length := by
  induction begun with
  | nil =>
    rw [List.nil_append, segments]
    split
    · exact ⟨[b], segments rest, rfl, Nat.one_pos⟩
    · split
      · exact ⟨[b], [], rfl, Nat.one_pos⟩
      · exact ⟨_, _, rfl, Nat.succ_pos _⟩
  | cons a begun ih =>
    have ha : a ≠ Byte.newline := fun he => h (he ▸ List.mem_cons_self)
    obtain ⟨segment, more, hs, hl⟩ := ih fun hm => h (List.mem_cons_of_mem _ hm)
    rw [List.cons_append, segments, if_neg ha, hs]
    exact ⟨a :: segment, more, rfl, Nat.succ_lt_succ hl⟩

theorem fits_append {body : List UInt8} (h : Byte.newline ∉ body)
    (hl : (body ++ [Byte.newline]).length ≤ lineLimit) (rest : List UInt8) :
    Fits (body ++ [Byte.newline] ++ rest) ↔ Fits rest := by
  rw [Fits, segments_append body rest h, List.forall_mem_cons]
  exact and_iff_right hl

/-- **The lines of a stream are its first line and those of the rest.** -/
theorem ofStream_append {body : List UInt8} (h : Byte.newline ∉ body)
    (hl : (body ++ [Byte.newline]).length ≤ lineLimit) (rest : List UInt8) :
    ofStream (body ++ [Byte.newline] ++ rest) =
      (ofBytes? (body ++ [Byte.newline])).toList ++ ofStream rest := by
  rw [ofStream, segments_append body rest h, ofSegments, if_neg (Nat.not_lt.2 hl)]
  rfl

/-- A stream without a newline is a line of its own. -/
theorem ofStream_of_not_mem {bytes : List UInt8} (h : Byte.newline ∉ bytes)
    (hl : bytes.length ≤ lineLimit) : ofStream bytes = (ofBytes? bytes).toList := by
  cases bytes with
  | nil => rfl
  | cons b bytes =>
    rw [ofStream, segments_of_not_mem h (List.cons_ne_nil _ _), ofSegments,
      if_neg (Nat.not_lt.2 hl)]
    exact List.append_nil _

theorem fits_of_not_mem {bytes : List UInt8} (h : Byte.newline ∉ bytes)
    (hl : bytes.length ≤ lineLimit) : Fits bytes := by
  cases bytes with
  | nil => exact fun segment hm => absurd hm List.not_mem_nil
  | cons b bytes =>
    rw [Fits, segments_of_not_mem h (List.cons_ne_nil _ _)]
    exact List.forall_mem_singleton.2 hl

/-- A stream whose first line is too long gives nothing else. -/
theorem ofStream_of_length_lt {stream segment : List UInt8} {more : List (List UInt8)}
    (h : segments stream = segment :: more) (hl : lineLimit < segment.length) :
    ofStream stream = [.tooLong] := by
  rw [ofStream, h, ofSegments, if_pos hl]

end Line

end Frame

/-! ## 2.  Readers -/

namespace LineReader

open AgentIntake.Frame (Line)
open AgentIntake.Frame.Line

theorem feed_cons (r : LineReader) (b : UInt8) (rest : List UInt8) :
    r.feed (b :: rest) =
      (((r.push b).1.feed rest).1, (r.push b).2.toList ++ ((r.push b).1.feed rest).2) := by
  rw [← List.singleton_append, feed_append, feed_singleton]

/-- A line that is full has no room for one more byte. -/
theorem push_full {begun : List UInt8} (h : begun.length = Frame.lineLimit) (b : UInt8) :
    (within begun).push b = ({ within begun with isOver := true }, some .tooLong) := by
  have hs : (within begun).size = Frame.lineLimit := h
  rw [push, if_neg (by simp [within]), if_pos hs]

theorem finish_within (begun : List UInt8) : (within begun).finish = ofBytes? begun := by
  rw [finish, if_neg (by simp [within])]
  exact congrArg ofBytes? begun.reverse_reverse

/-- After a line that is too long nothing is read. -/
theorem feed_of_isOver {r : LineReader} (h : r.isOver = true) (bytes : List UInt8) :
    r.feed bytes = (r, []) := by
  induction bytes with
  | nil => rfl
  | cons b bytes ih =>
    have hp : r.push b = (r, none) := if_pos h
    rw [feed_cons, hp, ih]
    rfl

/-- **A reader in the middle of a line gives the lines of what it kept and what comes.**  It is over
when one of them is too long. -/
theorem feed_finish (stream begun : List UInt8) (h : Byte.newline ∉ begun)
    (hl : begun.length ≤ Frame.lineLimit) :
    ((within begun).feed stream).2 ++ ((within begun).feed stream).1.finish.toList =
        ofStream (begun ++ stream) ∧
      (((within begun).feed stream).1.isOver = true ↔ ¬Fits (begun ++ stream)) := by
  induction stream generalizing begun with
  | nil =>
    rw [feed_nil, List.append_nil, ofStream_of_not_mem h hl, finish_within]
    exact ⟨rfl, iff_of_false Bool.false_ne_true (not_not_intro (fits_of_not_mem h hl))⟩
  | cons b stream ih =>
    rw [feed_cons]
    dsimp only
    by_cases hfull : begun.length = Frame.lineLimit
    · obtain ⟨segment, more, hs, hlt⟩ := exists_segments_cons h b stream
      rw [hfull] at hlt
      rw [push_full hfull, feed_of_isOver rfl, ofStream_of_length_lt hs hlt]
      refine ⟨rfl, iff_of_true rfl fun hfits => ?_⟩
      exact absurd (hfits segment (hs ▸ List.mem_cons_self)) (Nat.not_le.2 hlt)
    · have hroom : begun.length < Frame.lineLimit := Nat.lt_of_le_of_ne hl hfull
      by_cases hb : b = Byte.newline
      · subst hb
        have hline : (begun ++ [Byte.newline]).length ≤ Frame.lineLimit := by
          rw [List.length_append, List.length_singleton]
          exact hroom
        obtain ⟨hlines, hover⟩ := ih [] List.not_mem_nil (Nat.zero_le _)
        have hbegin : within [] = start := rfl
        rw [List.nil_append, hbegin] at hlines hover
        rw [push_newline begun hroom, List.append_cons begun Byte.newline stream,
          ofStream_append h hline, fits_append h hline]
        dsimp only
        rw [List.append_assoc, hlines]
        exact ⟨rfl, hover⟩
      · have hmem : Byte.newline ∉ begun ++ [b] := by
          rw [List.mem_append, List.mem_singleton]
          exact fun hm => hm.elim h fun he => hb he.symm
        obtain ⟨hlines, hover⟩ := ih (begun ++ [b]) hmem (by
          rw [List.length_append, List.length_singleton]
          exact hroom)
        rw [push_within begun hb hroom, List.append_cons begun b stream]
        exact ⟨hlines, hover⟩

/-! ## 3.  Streams in pieces -/

/-- Takes pieces of the stream, one after the other. -/
def feedAll (r : LineReader) : List (List UInt8) → LineReader × List Line
  | [] => (r, [])
  | piece :: pieces =>
    let (s, lines) := r.feed piece
    let (t, more) := s.feedAll pieces
    (t, lines ++ more)

theorem feedAll_eq (r : LineReader) (pieces : List (List UInt8)) :
    r.feedAll pieces = r.feed pieces.flatten := by
  induction pieces generalizing r with
  | nil => rfl
  | cons piece pieces ih =>
    rw [feedAll, List.flatten_cons, feed_append, ← ih]

/-- What the calls for the next line give on a stream that comes in pieces: one line after the
other, and `none` at the end of the stream.  A line that is too long is the last one asked for. -/
def readings (pieces : List (List UInt8)) : List (Option Line) :=
  let (r, lines) := start.feedAll pieces
  (lines ++ r.finish.toList).map some ++ if r.isOver then [] else [none]

/-- **The calls give the lines of the whole stream**, however it is cut into pieces. -/
theorem readings_eq {pieces : List (List UInt8)} (h : Fits pieces.flatten) :
    readings pieces = (ofStream pieces.flatten).map some ++ [none] := by
  obtain ⟨hlines, hover⟩ := feed_finish pieces.flatten [] List.not_mem_nil (Nat.zero_le _)
  have hbegin : within [] = start := rfl
  rw [List.nil_append, hbegin] at hlines hover
  rw [readings, feedAll_eq]
  dsimp only
  rw [hlines, if_neg fun ho => hover.1 ho h]

end LineReader

namespace Frame

/-! ## 4.  Frames and blank lines -/

/-- The stream is the lines of the frames, with blank lines at any place.  The last one may lack its
newline. -/
inductive Laid : List Frame → List UInt8 → Prop where
  | rest {bytes : List UInt8} (blank : bytes.all Blank.isBlankByte = true)
      (body : Byte.newline ∉ bytes) (length_le : bytes.length ≤ lineLimit) : Laid [] bytes
  | blank {frames : List Frame} {bytes rest : List UInt8}
      (blank : bytes.all Blank.isBlankByte = true) (body : Byte.newline ∉ bytes)
      (length_le : (bytes ++ [Byte.newline]).length ≤ lineLimit) (further : Laid frames rest) :
      Laid frames (bytes ++ [Byte.newline] ++ rest)
  | frame {f : Frame} {frames : List Frame} {rest : List UInt8} (further : Laid frames rest) :
      Laid (f :: frames) (f.toLine ++ rest)

/-- The frames alone. -/
theorem laid_flatMap (frames : List Frame) : Laid frames (frames.flatMap toLine) := by
  induction frames with
  | nil => exact .rest rfl List.not_mem_nil (Nat.zero_le _)
  | cons f frames ih => exact .frame ih

theorem Line.ofBytes?_of_blank {bytes : List UInt8} (h : bytes.all Blank.isBlankByte = true) :
    ofBytes? bytes = none :=
  if_pos h

/-- The lines of such a stream are the frames, and none is too long. -/
theorem Laid.ofStream_eq {frames : List Frame} {stream : List UInt8} (h : Laid frames stream)
    (hplain : ∀ f ∈ frames, f.Plain) (hlimit : ∀ f ∈ frames, f.toLine.length ≤ lineLimit) :
    Line.ofStream stream = frames.map .frame ∧ Line.Fits stream := by
  induction h with
  | rest blank body length_le =>
    rw [Line.ofStream_of_not_mem body length_le, Line.ofBytes?_of_blank blank]
    exact ⟨rfl, Line.fits_of_not_mem body length_le⟩
  | @blank _ bytes _ blank body length_le _ ih =>
    have hall : (bytes ++ [Byte.newline]).all Blank.isBlankByte = true := by
      rw [List.all_append, blank]
      rfl
    rw [Line.ofStream_append body length_le, Line.ofBytes?_of_blank hall,
      Line.fits_append body length_le]
    exact ih hplain hlimit
  | @frame f frames rest _ ih =>
    have hf := hplain f List.mem_cons_self
    have hl := hlimit f List.mem_cons_self
    have hn := (printable_encode hf).newline_not_mem
    obtain ⟨hlines, hfits⟩ := ih (fun g hg => hplain g (List.mem_cons_of_mem _ hg))
      fun g hg => hlimit g (List.mem_cons_of_mem _ hg)
    rw [toLine, Line.ofStream_append hn hl, Line.fits_append hn hl, hlines, ← toLine,
      ofBytes?_toLine hf]
    exact ⟨rfl, hfits⟩

/-- **A stream of frames gives back the frames.**  The line of a frame has one newline, its last
byte.  Read from a stream with blank lines among them, in whatever pieces it comes, the frames are
the same, in the same order, and then the stream is at its end. -/
theorem readings_of_laid {frames : List Frame} (hplain : ∀ f ∈ frames, f.Plain)
    (hlimit : ∀ f ∈ frames, f.toLine.length ≤ lineLimit) :
    (∀ f ∈ frames, ∃ body, f.toLine = body ++ [Byte.newline] ∧ Byte.newline ∉ body) ∧
      ∀ {stream : List UInt8} {pieces : List (List UInt8)}, Laid frames stream →
        pieces.flatten = stream →
          LineReader.readings pieces = frames.map (fun f => some (.frame f)) ++ [none] := by
  refine ⟨fun f hf => ⟨f.encode, rfl, (printable_encode (hplain f hf)).newline_not_mem⟩, ?_⟩
  rintro stream pieces hlaid rfl
  obtain ⟨hlines, hfits⟩ := hlaid.ofStream_eq hplain hlimit
  rw [LineReader.readings_eq hfits, hlines, List.map_map]
  rfl

/-- Three frames, with a blank line before them, white space behind, and a cut within the first. -/
theorem readings_of_three_frames :
    let frames := [Frame.handshake none, .send [0x00, 0xFF], .ping (-3)]
    let stream := [] ++ [Byte.newline] ++ ((Frame.handshake none).toLine ++
      ((Frame.send [0x00, 0xFF]).toLine ++ ([0x20, 0x09] ++ [Byte.newline] ++
        ((Frame.ping (-3)).toLine ++ [0x20]))))
    let pieces := [stream.take 12, [], stream.drop 12]
    (∀ f ∈ frames, f.Plain) ∧ (∀ f ∈ frames, f.toLine.length ≤ lineLimit) ∧ Laid frames stream ∧
      LineReader.readings pieces = frames.map (fun f => some (.frame f)) ++ [none] := by
  intro frames stream pieces
  have hplain : ∀ f ∈ frames, f.Plain := by
    intro f hf
    obtain rfl | rfl | rfl : f = .handshake none ∨ f = .send [0x00, 0xFF] ∨ f = .ping (-3) := by
      simpa [frames] using hf
    · exact ⟨⟨trivial, trivial, trivial⟩, by decide⟩
    · exact plain_of_kind_ne nofun
    · exact plain_of_kind_ne nofun
  have hlimit : ∀ f ∈ frames, f.toLine.length ≤ lineLimit := by decide +kernel
  have hlaid : Laid frames stream :=
    .blank rfl (by decide) (by decide) (.frame (.frame (.blank (by decide) (by decide) (by decide)
      (.frame (.rest (by decide) (by decide) (by decide))))))
  have hpieces : pieces.flatten = stream := by
    simp only [pieces, List.flatten_cons, List.flatten_nil, List.nil_append, List.append_nil]
    exact List.take_append_drop 12 stream
  exact ⟨hplain, hlimit, hlaid, (readings_of_laid hplain hlimit).2 hlaid hpieces⟩

/-! ## 5.  The frames of a stream -/

/-- The frame that a segment holds, if it holds one. -/
def ofSegment? (segment : List UInt8) : Option Frame :=
  if segment.all Blank.isBlankByte then none else (parse segment).toOption

/-- The frames of a stream: those that its segments hold before the first one that is too long. -/
def ofStream (stream : List UInt8) : List Frame :=
  ((Line.segments stream).takeWhile fun segment => segment.length ≤ lineLimit).filterMap ofSegment?

/-- The frames among lines before one that is too long. -/
def Line.frames : List Line → List Frame
  | [] => []
  | .tooLong :: _ => []
  | .malformed .. :: lines => frames lines
  | .frame f :: lines => f :: frames lines

/-- A segment holds a frame as a line does. -/
theorem ofSegment?_eq (segment : List UInt8) :
    ofSegment? segment =
      match Line.ofBytes? segment with
      | some (.frame f) => some f
      | _ => none := by
  unfold ofSegment? Line.ofBytes?
  split
  · rfl
  · cases parse segment <;> rfl

theorem Line.frames_ofBytes? (segment : List UInt8) (lines : List Line) :
    frames ((ofBytes? segment).toList ++ lines) = (ofSegment? segment).toList ++ frames lines := by
  rw [ofSegment?_eq]
  unfold ofBytes?
  split
  · rfl
  · cases parse segment <;> rfl

/-- **The frames among the lines of a stream are the frames of the stream.** -/
theorem Line.frames_ofStream (stream : List UInt8) :
    frames (Line.ofStream stream) = Frame.ofStream stream := by
  unfold Line.ofStream Frame.ofStream
  induction segments stream with
  | nil => rfl
  | cons segment more ih =>
    rw [ofSegments, List.takeWhile_cons]
    by_cases hl : lineLimit < segment.length
    · rw [if_pos hl, if_neg (by simpa using hl)]
      rfl
    · rw [if_neg hl, if_pos (by simpa using hl), frames_ofBytes?, ih, ← List.singleton_append,
        List.filterMap_append]
      cases h : ofSegment? segment <;> simp [h]

/-- The frames of a stream of frames and blank lines are the frames. -/
theorem Laid.frames_eq {frames : List Frame} {stream : List UInt8} (h : Laid frames stream)
    (hplain : ∀ f ∈ frames, f.Plain) (hlimit : ∀ f ∈ frames, f.toLine.length ≤ lineLimit) :
    Frame.ofStream stream = frames := by
  rw [← Line.frames_ofStream, (h.ofStream_eq hplain hlimit).1]
  clear h hplain hlimit
  induction frames with
  | nil => rfl
  | cons f frames ih => exact congrArg (f :: ·) ih

/-- The stream ends where a line does. -/
def Line.Ended (stream : List UInt8) : Prop :=
  stream = [] ∨ stream.getLast? = some Byte.newline

theorem Line.segments_append_of_ended {before : List UInt8} (h : Ended before) (rest : List UInt8) :
    segments (before ++ rest) = segments before ++ segments rest := by
  induction before with
  | nil => rfl
  | cons b before ih =>
    have hb : Ended before ∧ (before = [] → b = Byte.newline) := by
      rcases h with h | h
      · cases h
      · cases before with
        | nil => exact ⟨.inl rfl, fun _ => Option.some.inj h⟩
        | cons c before =>
          rw [List.getLast?_cons_cons] at h
          exact ⟨.inr h, fun he => absurd he (List.cons_ne_nil _ _)⟩
    rw [List.cons_append, segments, segments, ih hb.1]
    split
    · rfl
    · rename_i hn
      cases hs : segments before with
      | nil =>
        cases before with
        | nil => exact absurd (hb.2 rfl) hn
        | cons c before =>
          have hnil : Byte.newline ∉ ([] : List UInt8) := List.not_mem_nil
          obtain ⟨segment, more, hc, -⟩ := exists_segments_cons hnil c before
          rw [List.nil_append, hs] at hc
          cases hc
      | cons segment more => rfl

/-- **The frames of a stream that goes on behind a line.**  After a line that is too long there are
no more. -/
theorem ofStream_append_of_ended {before : List UInt8} (h : Line.Ended before)
    (rest : List UInt8) :
    ofStream (before ++ rest) =
      ofStream before ++ if Line.Fits before then ofStream rest else [] := by
  unfold ofStream
  rw [Line.segments_append_of_ended h, List.takeWhile_append]
  by_cases hf : Line.Fits before
  · have hall := List.takeWhile_eq_self_iff.2 fun segment hm => decide_eq_true (hf segment hm)
    rw [if_pos hf, hall, if_pos rfl, List.filterMap_append]
  · rw [if_neg hf, List.append_nil, if_neg]
    intro hl
    have hall := List.takeWhile_eq_self_iff.1 ((List.takeWhile_prefix _).eq_of_length hl)
    exact hf fun segment hm => of_decide_eq_true (hall segment hm)

/-- **The frames of a stream are that of its first line and those of the rest.** -/
theorem ofStream_line {body : List UInt8} (h : Byte.newline ∉ body)
    (hl : (body ++ [Byte.newline]).length ≤ lineLimit) (rest : List UInt8) :
    ofStream (body ++ [Byte.newline] ++ rest) =
      (ofSegment? (body ++ [Byte.newline])).toList ++ ofStream rest := by
  rw [ofStream, Line.segments_append body rest h, List.takeWhile_cons, if_pos (by simpa using hl),
    ← List.singleton_append, List.filterMap_append]
  cases hs : ofSegment? (body ++ [Byte.newline]) <;> simp [hs, ofStream]

end Frame

end AgentIntake
