import AgentIntake.Frame.Reader
import AgentIntake.Text.Blank

/-!
# Lines of frames

A connection is a stream of bytes, cut into lines by newlines, with one frame a line.  A line of
white space holds nothing.  A line that is no frame does not disturb the next one, but a line that
is too long ends the reading: what follows could not be told from its rest.

The stream comes in pieces of any size.  `LineReader` takes it byte by byte and keeps no more than
one line, so how it is cut into pieces makes no difference.  `Line.ofStream` says what the lines of
a whole stream are.
-/

namespace AgentIntake

namespace Frame

/-- The most bytes that a line may have, its newline counted. -/
def lineLimit : Nat := 1048576

/-- The frame as a line. -/
def toLine (frame : Frame) : List UInt8 :=
  frame.encode ++ [Byte.newline]

/-- What a line holds that is not blank: a frame, or something else with what is wrong with it, or
more than a line may hold. -/
inductive Line where
  | frame (frame : Frame)
  | malformed (bytes : List UInt8) (fault : Json.Fault)
  | tooLong

namespace Line

/-! ## 1.  Single lines -/

/-- What the bytes of a line hold, nothing if they are blank. -/
def ofBytes? (bytes : List UInt8) : Option Line :=
  if bytes.all Blank.isBlankByte then none
  else
    match Frame.parse bytes with
    | .ok parsed => some (.frame parsed)
    | .error fault => some (.malformed bytes fault)

/-- What is wrong with a line, in the words in which it is recorded. -/
def complaint? : Line → Option String
  | frame _ => none
  | malformed bytes fault => some (fault.message bytes)
  | tooLong => some s!"frame exceeds {lineLimit} byte limit"

/-! ## 2.  Whole streams -/

/-- A stream cut after each newline. -/
def segments : List UInt8 → List (List UInt8)
  | [] => []
  | b :: rest =>
    if b = Byte.newline then [b] :: segments rest
    else
      match segments rest with
      | [] => [[b]]
      | segment :: more => (b :: segment) :: more

/-- The lines that segments hold, up to the first one that is too long. -/
def ofSegments : List (List UInt8) → List Line
  | [] => []
  | segment :: rest =>
    if lineLimit < segment.length then [.tooLong]
    else (ofBytes? segment).toList ++ ofSegments rest

/-- The lines of a whole stream. -/
def ofStream (stream : List UInt8) : List Line :=
  ofSegments (segments stream)

end Line

end Frame

/-! ## 3.  Streams in pieces -/

/-- What is known of a stream between two of its bytes: the bytes of the line so far, last first,
their number, and whether a line was too long, after which nothing more is read. -/
structure LineReader where
  pending : List UInt8
  size : Nat
  isOver : Bool
  size_eq : size = pending.length

namespace LineReader

/-- The beginning of a line. -/
def start : LineReader :=
  ⟨[], 0, false, rfl⟩

instance : Inhabited LineReader := ⟨start⟩

/-- Takes one byte; gives the line that ends with it. -/
def push (r : LineReader) (b : UInt8) : LineReader × Option Frame.Line :=
  if r.isOver then (r, none)
  else if r.size = Frame.lineLimit then ({ r with isOver := true }, some .tooLong)
  else if b = Byte.newline then (start, Frame.Line.ofBytes? (b :: r.pending).reverse)
  else (⟨b :: r.pending, r.size + 1, false, congrArg (· + 1) r.size_eq⟩, none)

/-- Takes one byte and adds the line that ends with it to those before, which come last first. -/
def pushOnto (state : LineReader × List Frame.Line) (b : UInt8) : LineReader × List Frame.Line :=
  let (r, line) := state.1.push b
  (r, line.toList ++ state.2)

/-- Takes a piece of the stream; gives the lines that end in it. -/
def feed (r : LineReader) (bytes : List UInt8) : LineReader × List Frame.Line :=
  let (s, lines) := bytes.foldl pushOnto (r, [])
  (s, lines.reverse)

/-- The line that the end of the stream ends. -/
def finish (r : LineReader) : Option Frame.Line :=
  if r.isOver then none else Frame.Line.ofBytes? r.pending.reverse

@[simp] theorem feed_nil (r : LineReader) : r.feed [] = (r, []) :=
  rfl

/-- The lines before a piece stay as they are. -/
theorem foldl_pushOnto (bytes : List UInt8) (r : LineReader) (lines : List Frame.Line) :
    bytes.foldl pushOnto (r, lines) =
      ((bytes.foldl pushOnto (r, [])).1, (bytes.foldl pushOnto (r, [])).2 ++ lines) := by
  induction bytes generalizing r lines with
  | nil => rfl
  | cons b rest ih =>
    simp only [List.foldl_cons, pushOnto, List.append_nil]
    rw [ih, ih (r.push b).1 (r.push b).2.toList, List.append_assoc]

/-- Two pieces one after the other are one piece. -/
theorem feed_append (r : LineReader) (first second : List UInt8) :
    r.feed (first ++ second) =
      (((r.feed first).1.feed second).1, (r.feed first).2 ++ ((r.feed first).1.feed second).2) := by
  simp only [feed, List.foldl_append]
  generalize first.foldl pushOnto (r, []) = state
  obtain ⟨s, lines⟩ := state
  rw [foldl_pushOnto second s lines]
  simp

end LineReader

end AgentIntake
