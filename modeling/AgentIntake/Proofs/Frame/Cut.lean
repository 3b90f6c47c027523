import AgentIntake.Proofs.Frame.Stream
import AgentIntake.Proofs.Json.Extension

/-!
# Streams that are cut short

A stream may end anywhere, and what has come of its last line is then taken for the line.  So a part
of a frame's text must not be a frame, and it never is (`parse_of_isPrefix`).

The text of a frame is an object.  If a beginning of it were read as an object to its end, then of
the whole text that same object would be read and the rest be left over (`read_append`), whatever
the cut goes through: a string, an escape, a character of several bytes or a number.  But the whole
text is read and nothing is left.

`Cut` says which frames a stream that ends after so many bytes still holds: those whose text ends
before, and beside them at most one line that is no frame (`readings_of_isPrefix`).
-/

namespace AgentIntake.Frame

/-! ## 1.  Texts -/

theorem extends_taggedFields : taggedFields.Extends := by
  intro t key reader h
  unfold taggedFields at h
  dsimp only at h
  split at h
  · split at h
    · cases h
    · cases h
      exact ((Json.extends_stringAs _).check _).map _
  · cases h
    exact (Json.extends_document _).map _

/-- A frame that was read from the front of a text is read when more follows. -/
theorem read_append {s r : List UInt8} {f : Frame}
    (h : (taggedReader.interpret Tagged.frame).read (Byte.openBrace :: s) = .ok (f, r))
    (t : List UInt8) :
    (taggedReader.interpret Tagged.frame).read (Byte.openBrace :: (s ++ t)) = .ok (f, r ++ t) := by
  have hr : ∀ u, taggedReader.read (Byte.openBrace :: u) = Json.objectOf taggedFields u :=
    fun _ => rfl
  unfold Json.Reader.interpret Json.Reader.checkAt at h ⊢
  dsimp only at h ⊢
  rw [hr] at h ⊢
  split at h
  · cases h
  · rename_i tagged u ho
    rw [Json.objectOf_append extends_taggedFields ho]
    dsimp only
    split at h
    · cases h
    · cases h
      dsimp only

/-- Every part of a frame's text opens the object. -/
theorem exists_eq_cons {f : Frame} {text : List UInt8} (h : text <+: f.encode) (hne : text ≠ []) :
    ∃ begun, text = Byte.openBrace :: begun := by
  obtain ⟨rest, he⟩ := h
  obtain ⟨b, begun, rfl⟩ := List.exists_cons_of_ne_nil hne
  rw [encode, toJson, Json.render_object, List.cons_append] at he
  exact ⟨begun, congrArg (· :: begun) (List.cons.inj he).1⟩

theorem encode_ne_nil (f : Frame) : f.encode ≠ [] := by
  rw [encode, toJson, Json.render_object]
  exact List.cons_ne_nil _ _

/-- **A part of a frame's text is no frame**, wherever it is cut. -/
theorem parse_of_isPrefix {f : Frame} (hf : f.Plain) {text : List UInt8} (h : text <+: f.encode)
    (hne : text ≠ []) (hcut : text ≠ f.encode) : ∃ fault, parse text = .error fault := by
  obtain ⟨begun, rfl⟩ := exists_eq_cons h hne
  obtain ⟨rest, he⟩ := h
  have hwhole : (taggedReader.interpret Tagged.frame).read f.encode = .ok (f, []) := by
    have := reads_encode hf [] nofun
    rwa [List.append_nil] at this
  unfold parse Json.Reader.whole
  split
  · exact ⟨_, rfl⟩
  · rename_i g r hr
    -- with the rest of the text behind it the same would be left over
    have hlong := read_append hr rest
    rw [← List.cons_append, he, hwhole] at hlong
    have hrest : r ++ rest = [] := (congrArg Prod.snd (Except.ok.inj hlong)).symm
    refine absurd ?_ hcut
    rw [← he, (List.append_eq_nil_iff.1 hrest).2, List.append_nil]

/-- What opens an object is not blank. -/
theorem ofBytes?_openBrace (s : List UInt8) :
    Line.ofBytes? (Byte.openBrace :: s) =
      match parse (Byte.openBrace :: s) with
      | .ok parsed => some (.frame parsed)
      | .error fault => some (.malformed (Byte.openBrace :: s) fault) :=
  if_neg (by rw [List.all_cons]; exact Bool.false_ne_true)

/-- The line that such a part makes. -/
theorem ofBytes?_of_isPrefix {f : Frame} (hf : f.Plain) {text : List UInt8} (h : text <+: f.encode)
    (hne : text ≠ []) (hcut : text ≠ f.encode) :
    ∃ fault, Line.ofBytes? text = some (.malformed text fault) := by
  obtain ⟨fault, hp⟩ := parse_of_isPrefix hf h hne hcut
  obtain ⟨begun, rfl⟩ := exists_eq_cons h hne
  rw [ofBytes?_openBrace, hp]
  exact ⟨fault, rfl⟩

/-- The text of a frame is its line also without the newline. -/
theorem ofBytes?_encode {f : Frame} (hf : f.Plain) :
    Line.ofBytes? f.encode = some (.frame f) := by
  have hp := parse_encode hf [] nofun
  rw [List.append_nil] at hp
  obtain ⟨body, he⟩ := exists_eq_cons (List.prefix_refl f.encode) f.encode_ne_nil
  rw [he] at hp ⊢
  rw [ofBytes?_openBrace, hp]

/-! ## 2.  Where the texts are -/

/-- The number of bytes before the line of the frame at a place. -/
def lineStart (frames : List Frame) (i : Nat) : Nat :=
  ((frames.take i).flatMap toLine).length

@[simp] theorem lineStart_zero (frames : List Frame) : lineStart frames 0 = 0 :=
  rfl

@[simp] theorem lineStart_cons_succ (f : Frame) (frames : List Frame) (i : Nat) :
    lineStart (f :: frames) (i + 1) = f.toLine.length + lineStart frames i := by
  simp [lineStart]

@[simp] theorem length_toLine (f : Frame) : f.toLine.length = f.encode.length + 1 := by
  simp [toLine]

/-- What a stream of frames still holds when it ends after so many bytes: the first `whole` frames,
and perhaps a line that is no frame.

The frames are among those of the stream (`whole_le`).  They are the frames whose text is within the
bytes (`lt_whole_iff`).  The other line is no frame (`malformed`).  There is one when the bytes end
strictly within a text (`isSome_iff`). -/
structure Cut (frames : List Frame) (length whole : Nat) (broken : Option Line) : Prop where
  whole_le : whole ≤ frames.length
  lt_whole_iff : ∀ i (h : i < frames.length),
    i < whole ↔ lineStart frames i + frames[i].encode.length ≤ length
  malformed : ∀ line ∈ broken, ∃ bytes fault, line = .malformed bytes fault
  isSome_iff : broken.isSome = true ↔ ∃ i, ∃ h : i < frames.length,
    lineStart frames i < length ∧ length < lineStart frames i + frames[i].encode.length

namespace Cut

theorem nil : Cut [] 0 0 none :=
  ⟨Nat.le_refl 0, nofun, nofun, iff_of_false nofun fun ⟨_, h, _⟩ => nomatch h⟩

/-- One more frame in front. -/
theorem cons {frames : List Frame} {length whole : Nat} {broken : Option Line}
    (h : Cut frames length whole broken) (f : Frame) :
    Cut (f :: frames) (f.toLine.length + length) (whole + 1) broken where
  whole_le := Nat.succ_le_succ h.whole_le
  lt_whole_iff i hi := by
    cases i with
    | zero =>
      rw [lineStart_zero, List.getElem_cons_zero, length_toLine]
      omega
    | succ i =>
      have := h.lt_whole_iff i (Nat.lt_of_succ_lt_succ hi)
      rw [lineStart_cons_succ, List.getElem_cons_succ]
      omega
  malformed := h.malformed
  isSome_iff := by
    rw [h.isSome_iff]
    constructor
    · rintro ⟨i, hi, hl, hg⟩
      refine ⟨i + 1, Nat.succ_lt_succ hi, ?_⟩
      rw [lineStart_cons_succ, List.getElem_cons_succ]
      omega
    · rintro ⟨i, hi, hl, hg⟩
      cases i with
      | zero =>
        rw [lineStart_zero, List.getElem_cons_zero] at hg
        rw [length_toLine] at hg
        omega
      | succ i =>
        rw [lineStart_cons_succ] at hl hg
        rw [List.getElem_cons_succ] at hg
        exact ⟨i, Nat.lt_of_succ_lt_succ hi, by omega⟩

/-- The end is within the first line, before its newline. -/
theorem first {f : Frame} (frames : List Frame) {length : Nat} (h : length ≤ f.encode.length)
    {broken : Option Line} (hb : ∀ line ∈ broken, ∃ bytes fault, line = .malformed bytes fault)
    (hs : broken.isSome = true ↔ 0 < length ∧ length < f.encode.length) :
    Cut (f :: frames) length (if length = f.encode.length then 1 else 0) broken where
  whole_le := by
    rw [List.length_cons]
    split <;> omega
  lt_whole_iff i hi := by
    cases i with
    | zero =>
      rw [lineStart_zero, List.getElem_cons_zero]
      split <;> omega
    | succ i =>
      rw [lineStart_cons_succ, length_toLine]
      split <;> omega
  malformed := hb
  isSome_iff := by
    rw [hs]
    constructor
    · rintro ⟨hl, hg⟩
      refine ⟨0, Nat.succ_pos _, ?_⟩
      rw [lineStart_zero, List.getElem_cons_zero]
      omega
    · rintro ⟨i, hi, hl, hg⟩
      cases i with
      | zero =>
        rw [lineStart_zero] at hl hg
        rw [List.getElem_cons_zero] at hg
        omega
      | succ i =>
        rw [lineStart_cons_succ, length_toLine] at hl
        omega

end Cut

/-! ## 3.  Streams -/

/-- What is left of a line that was cut before its newline. -/
theorem ofStream_of_isPrefix_encode {f : Frame} (hf : f.Plain)
    (hl : f.toLine.length ≤ lineLimit) (frames : List Frame) {p : List UInt8}
    (h : p <+: f.encode) :
    ∃ whole broken, Cut (f :: frames) p.length whole broken ∧ Line.Fits p ∧
      Line.ofStream p = ((f :: frames).take whole).map .frame ++ broken.toList := by
  have hn : Byte.newline ∉ p := fun hm => (printable_encode hf).newline_not_mem (h.subset hm)
  have hle := h.length_le
  have hp : p.length ≤ lineLimit := by
    rw [length_toLine] at hl
    omega
  refine ⟨if p.length = f.encode.length then 1 else 0, ?_⟩
  rw [Line.ofStream_of_not_mem hn hp]
  by_cases hne : p = []
  · subst hne
    refine ⟨none, Cut.first frames hle nofun (iff_of_false nofun (by simp)),
      Line.fits_of_not_mem hn hp, ?_⟩
    rw [if_neg fun he => f.encode_ne_nil (List.length_eq_zero_iff.1 he.symm)]
    rfl
  by_cases hcut : p = f.encode
  · subst hcut
    refine ⟨none, Cut.first frames hle nofun (iff_of_false nofun (by simp)),
      Line.fits_of_not_mem hn hp, ?_⟩
    rw [if_pos rfl, ofBytes?_encode hf]
    rfl
  · obtain ⟨fault, hm⟩ := ofBytes?_of_isPrefix hf h hne hcut
    have hpos := List.length_pos_iff.2 hne
    have hlt : p.length ≠ f.encode.length := fun he => hcut (h.eq_of_length he)
    refine ⟨some (.malformed p fault), Cut.first frames hle ?_ (iff_of_true rfl (by omega)),
      Line.fits_of_not_mem hn hp, ?_⟩
    · intro line hline
      exact ⟨p, fault, (Option.some.inj hline).symm⟩
    · rw [if_neg hlt, hm]
      rfl

/-- The lines of a stream that is cut short. -/
theorem ofStream_of_isPrefix {frames : List Frame} (hplain : ∀ f ∈ frames, f.Plain)
    (hlimit : ∀ f ∈ frames, f.toLine.length ≤ lineLimit) {p : List UInt8}
    (h : p <+: frames.flatMap toLine) :
    ∃ whole broken, Cut frames p.length whole broken ∧ Line.Fits p ∧
      Line.ofStream p = (frames.take whole).map .frame ++ broken.toList := by
  induction frames generalizing p with
  | nil =>
    obtain rfl := List.prefix_nil.1 h
    exact ⟨0, none, Cut.nil, nofun, rfl⟩
  | cons f frames ih =>
    have hf := hplain f List.mem_cons_self
    have hl := hlimit f List.mem_cons_self
    rw [List.flatMap_cons] at h
    by_cases hle : f.toLine.length ≤ p.length
    · -- the first line is there, and what follows is cut from the others
      obtain ⟨q, rfl⟩ := List.prefix_of_prefix_length_le (List.prefix_append _ _) h hle
      have hn := (printable_encode hf).newline_not_mem
      obtain ⟨whole, broken, hc, hfits, hlines⟩ := ih
        (fun g hg => hplain g (List.mem_cons_of_mem _ hg))
        (fun g hg => hlimit g (List.mem_cons_of_mem _ hg)) ((List.prefix_append_right_inj _).1 h)
      refine ⟨whole + 1, broken, ?_, ?_, ?_⟩
      · rw [List.length_append]
        exact hc.cons f
      · exact (Line.fits_append hn hl q).2 hfits
      · rw [toLine, Line.ofStream_append hn hl, ← toLine, ofBytes?_toLine hf, hlines]
        rfl
    · have hline : p <+: f.toLine :=
        List.prefix_of_prefix_length_le h (List.prefix_append _ _) (by omega)
      have hp : p <+: f.encode := by
        refine List.prefix_of_prefix_length_le hline (List.prefix_append _ _) ?_
        rw [length_toLine] at hle
        omega
      exact ofStream_of_isPrefix_encode hf hl frames hp

/-- **A stream that is cut short gives no wrong frame.**  It gives the frames whose text is within
what has come, then at most one line that is no frame, where a text was cut, and then it is at its
end.  A part of a frame's text is never a frame. -/
theorem readings_of_isPrefix {frames : List Frame} (hplain : ∀ f ∈ frames, f.Plain)
    (hlimit : ∀ f ∈ frames, f.toLine.length ≤ lineLimit) :
    (∀ f ∈ frames, ∀ text, text <+: f.encode → text ≠ [] → text ≠ f.encode →
        ∀ g, parse text ≠ .ok g) ∧
      ∀ {pieces : List (List UInt8)}, pieces.flatten <+: frames.flatMap toLine →
        ∃ whole broken, Cut frames pieces.flatten.length whole broken ∧
          LineReader.readings pieces =
            ((frames.take whole).map Line.frame ++ broken.toList).map some ++ [none] := by
  constructor
  · intro f hf text h hne hcut g hg
    obtain ⟨fault, hp⟩ := parse_of_isPrefix (hplain f hf) h hne hcut
    rw [hp] at hg
    cases hg
  · intro pieces h
    obtain ⟨whole, broken, hc, hfits, hlines⟩ := ofStream_of_isPrefix hplain hlimit h
    refine ⟨whole, broken, hc, ?_⟩
    rw [LineReader.readings_eq hfits, hlines]

/-- Two frames, of which the second is cut within its payload. -/
theorem readings_of_two_frames_cut :
    let frames := [Frame.handshake none, .send [0x00, 0xFF]]
    let pieces := [(frames.flatMap toLine).take 66]
    (∀ f ∈ frames, f.Plain) ∧ (∀ f ∈ frames, f.toLine.length ≤ lineLimit) ∧
      pieces.flatten <+: frames.flatMap toLine ∧
      ∃ broken, Cut frames 66 1 broken ∧ broken.isSome = true ∧
        LineReader.readings pieces =
          ([Line.frame (.handshake none)] ++ broken.toList).map some ++ [none] := by
  intro frames pieces
  have hplain : ∀ f ∈ frames, f.Plain := by
    intro f hf
    obtain rfl | rfl : f = .handshake none ∨ f = .send [0x00, 0xFF] := by
      simpa [frames] using hf
    · exact ⟨⟨trivial, trivial, trivial⟩, by decide⟩
    · exact plain_of_kind_ne nofun
  have hlimit : ∀ f ∈ frames, f.toLine.length ≤ lineLimit := by decide +kernel
  have hprefix : pieces.flatten <+: frames.flatMap toLine := by
    simp only [pieces, List.flatten_cons, List.flatten_nil, List.append_nil]
    exact List.take_prefix 66 _
  have hlength : pieces.flatten.length = 66 := by decide +kernel
  obtain ⟨whole, broken, hc, hr⟩ := (readings_of_isPrefix hplain hlimit).2 hprefix
  rw [hlength] at hc
  have hfirst := hc.lt_whole_iff 0 (by decide)
  have hsecond := hc.lt_whole_iff 1 (by decide)
  obtain rfl : whole = 1 := by
    have h0 : lineStart frames 0 + frames[0].encode.length ≤ 66 := by decide +kernel
    have h1 : ¬lineStart frames 1 + frames[1].encode.length ≤ 66 := by decide +kernel
    have := hfirst.2 h0
    have := fun h => h1 (hsecond.1 h)
    omega
  have hsome : broken.isSome = true :=
    hc.isSome_iff.2 ⟨1, by decide, by decide +kernel, by decide +kernel⟩
  exact ⟨hplain, hlimit, hprefix, broken, hc, hsome, hr⟩

end AgentIntake.Frame
