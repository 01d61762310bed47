import Mathlib.Algebra.Group.Nat.Defs
import MediaServer.Foundation.Text
import MediaServer.Transcription.Command

/-!
# The text protocol of SimulStreaming

`read_results` and `parse_line` of the synchronous SimulStreaming client.  The server
sends one segment a line, as the two timestamps and the text, each followed by a space
but the last.  Timestamps are read as `f64` and truncated; that reading is a parameter,
`parseMs`, of which only its values on decimal integers below `2 ^ 53` are used.

The stream is given as characters, and what `BufRead::lines` makes of it by
`Text.lines`.
-/

namespace MediaServer
namespace Transcription

open Foundation

namespace SimulStreamingClient

/-- `parse::<f64>().ok()? as u64` -/
abbrev ParseMs := List Char → Option UInt64

/-- Parse a line from SimulStreaming output. -/
def parseLine (parseMs : ParseMs) (line : List Char) : Option TranscriptionSegment :=
  match Text.splitn 3 ' ' line with
  | first :: second :: third :: _ => do
      let start ← parseMs first
      let stop ← parseMs second
      return { startMs := start, endMs := stop, text := String.ofList third }
  | _ => none

/-- Read and parse results: the segments sent on the channel, after those in `sent`.
The receiver is still there when it is sent its `n`-th segment if `connected n`; a line
that cannot be read ends the thread. -/
def readResults (parseMs : ParseMs) (connected : Nat → Bool) :
    List (Except String (List Char)) → List TranscriptionSegment → List TranscriptionSegment
  | [], sent => sent
  | .error _ :: _, sent => sent
  | .ok line :: rest, sent =>
      if line = [] then readResults parseMs connected rest sent
      else
        match parseLine parseMs line with
        | some segment =>
            if connected sent.length then
              readResults parseMs connected rest (sent ++ [segment])
            else sent
        -- "Failed to parse transcription line"
        | none => readResults parseMs connected rest sent

/-- The reader thread on the text that the server sends before it closes the stream. -/
def readText (parseMs : ParseMs) (connected : Nat → Bool) (text : List Char) :
    List TranscriptionSegment :=
  readResults parseMs connected ((Text.lines text).map .ok) []

/-! ## What the server sends -/

/-- Decimal integers that `f64` can represent are read as what they are. -/
def ExactBelow (parseMs : ParseMs) : Prop :=
  ∀ value, value < 2 ^ 53 → parseMs (Nat.toDigits 10 value) = some (UInt64.ofNat value)

/-- The form of a segment: `start_ms end_ms text`. -/
def segmentLine (segment : TranscriptionSegment) : List Char :=
  Nat.toDigits 10 segment.startMs.toNat ++
    ' ' :: (Nat.toDigits 10 segment.endMs.toNat ++ ' ' :: segment.text.toList)

/-- A segment that has that form on a line of its own. -/
structure Representable (segment : TranscriptionSegment) : Prop where
  start : segment.startMs.toNat < 2 ^ 53
  stop : segment.endMs.toNat < 2 ^ 53
  newline : '\n' ∉ segment.text.toList
  carriageReturn : segment.text.toList.getLast? ≠ some '\r'

/-- The line begins with two timestamps, each followed by a space. -/
def Readable (parseMs : ParseMs) (line : List Char) : Prop :=
  ∃ first second third, line = first ++ ' ' :: (second ++ ' ' :: third) ∧ ' ' ∉ first ∧
    ' ' ∉ second ∧ (parseMs first).isSome = true ∧ (parseMs second).isSome = true

/-- A line of the stream: a segment, or something else. -/
inductive StreamLine
  | segment (segment : TranscriptionSegment)
  | other (line : List Char)

def StreamLine.text : StreamLine → List Char
  | .segment sent => segmentLine sent
  | .other line => line

def StreamLine.toSegment : StreamLine → Option TranscriptionSegment
  | .segment sent => some sent
  | .other _ => none

/-- The text of some lines, each ended by a newline. -/
def render (lines : List StreamLine) : List Char :=
  lines.flatMap fun line => line.text ++ ['\n']

/-- Segments are representable; other lines are blank, or do not begin with two
timestamps. -/
def Acceptable (parseMs : ParseMs) : StreamLine → Prop
  | .segment segment => Representable segment
  | .other line => '\n' ∉ line ∧ ¬ Readable parseMs (Text.stripCr line)

section Parse

variable {parseMs : ParseMs}

theorem not_mem_toDigits {char : Char} (hchar : char.isDigit = false) (value : Nat) :
    char ∉ Nat.toDigits 10 value := by
  intro hmem
  have hdigit := Nat.isDigit_of_mem_toDigits (by decide) (by decide) hmem
  rw [hchar] at hdigit
  contradiction

/-- The line of a segment is cut into its three parts. -/
theorem splitn_segmentLine (segment : TranscriptionSegment) :
    Text.splitn 3 ' ' (segmentLine segment) =
      [Nat.toDigits 10 segment.startMs.toNat, Nat.toDigits 10 segment.endMs.toNat,
        segment.text.toList] := by
  have hspace : ∀ value, ' ' ∉ Nat.toDigits 10 value := not_mem_toDigits rfl
  rw [segmentLine, Text.splitn_append (hspace _), Text.splitn_append (hspace _)]
  rfl

theorem parseLine_segmentLine (hexact : ExactBelow parseMs) {segment : TranscriptionSegment}
    (hsegment : Representable segment) :
    parseLine parseMs (segmentLine segment) = some segment := by
  rw [parseLine, splitn_segmentLine]
  simp [hexact _ hsegment.start, hexact _ hsegment.stop]

/-- How a line is read as a segment. -/
theorem parseLine_eq_some_iff {line : List Char} {segment : TranscriptionSegment} :
    parseLine parseMs line = some segment ↔
      ∃ first second third, line = first ++ ' ' :: (second ++ ' ' :: third) ∧ ' ' ∉ first ∧
        ' ' ∉ second ∧ parseMs first = some segment.startMs ∧
        parseMs second = some segment.endMs ∧ segment.text = String.ofList third := by
  constructor
  · intro hparse
    unfold parseLine at hparse
    split at hparse
    · rename_i first second third more hsplit
      obtain ⟨hline, hfirst, hsecond⟩ := Text.splitn_three hsplit
      obtain ⟨start, hstart, hrest⟩ := Option.bind_eq_some_iff.mp hparse
      obtain ⟨stop, hstop, hsegment⟩ := Option.bind_eq_some_iff.mp hrest
      obtain rfl := Option.some.inj hsegment
      exact ⟨first, second, third, hline, hfirst, hsecond, hstart, hstop, rfl⟩
    · contradiction
  · rintro ⟨first, second, third, rfl, hfirst, hsecond, hstart, hstop, htext⟩
    rw [parseLine, Text.splitn_append hfirst, Text.splitn_append hsecond]
    simp [Text.splitn, hstart, hstop, ← htext]

/-- A line is read as a segment exactly if it begins with two timestamps. -/
theorem isSome_parseLine_iff {line : List Char} :
    (parseLine parseMs line).isSome = true ↔ Readable parseMs line := by
  rw [Option.isSome_iff_exists]
  constructor
  · rintro ⟨segment, hsegment⟩
    obtain ⟨first, second, third, hline, hfirst, hsecond, hstart, hstop, -⟩ :=
      parseLine_eq_some_iff.mp hsegment
    exact ⟨first, second, third, hline, hfirst, hsecond, by rw [hstart]; rfl, by rw [hstop]; rfl⟩
  · rintro ⟨first, second, third, hline, hfirst, hsecond, hstart, hstop⟩
    obtain ⟨start, hstart⟩ := Option.isSome_iff_exists.mp hstart
    obtain ⟨stop, hstop⟩ := Option.isSome_iff_exists.mp hstop
    exact ⟨⟨start, stop, String.ofList third⟩, parseLine_eq_some_iff.mpr
      ⟨first, second, third, hline, hfirst, hsecond, hstart, hstop, rfl⟩⟩

theorem parseLine_eq_none {line : List Char} (hline : ¬ Readable parseMs line) :
    parseLine parseMs line = none := by
  rwa [← isSome_parseLine_iff, Option.not_isSome_iff_eq_none] at hline

theorem newline_not_mem_segmentLine {segment : TranscriptionSegment}
    (hsegment : Representable segment) : '\n' ∉ segmentLine segment := by
  have hnewline : ∀ value, '\n' ∉ Nat.toDigits 10 value := not_mem_toDigits rfl
  simp [segmentLine, hnewline, hsegment.newline]

/-- No carriage return is taken from the line of a segment. -/
theorem stripCr_segmentLine {segment : TranscriptionSegment} (hsegment : Representable segment) :
    Text.stripCr (segmentLine segment) = segmentLine segment := by
  apply Text.stripCr_of_ne
  have hlast : (segmentLine segment).getLast? = (' ' :: segment.text.toList).getLast? := by
    have hsplit : segmentLine segment =
        (Nat.toDigits 10 segment.startMs.toNat ++
          ' ' :: Nat.toDigits 10 segment.endMs.toNat) ++ ' ' :: segment.text.toList := by
      simp [segmentLine]
    rw [hsplit, List.getLast?_append_cons]
  rw [hlast]
  cases htext : segment.text.toList with
  | nil => decide
  | cons char rest =>
      rw [List.getLast?_cons_cons, ← htext]
      exact hsegment.carriageReturn

/-- With a receiver, the segments of all lines that are read as one are sent. -/
theorem readResults_connected (lines : List (List Char)) (sent : List TranscriptionSegment) :
    readResults parseMs (fun _ => true) (lines.map .ok) sent =
      sent ++ lines.filterMap fun line =>
        if line = [] then none else parseLine parseMs line := by
  induction lines generalizing sent with
  | nil => simp [readResults]
  | cons line lines ih =>
      rw [List.map_cons, readResults, List.filterMap_cons]
      by_cases hblank : line = []
      · rw [if_pos hblank, if_pos hblank, ih]
      · rw [if_neg hblank, if_neg hblank]
        cases parseLine parseMs line with
        | none => exact ih sent
        | some segment => simp [ih]

/-- The lines read from a rendered stream. -/
theorem lines_render {lines : List StreamLine} {tail : List Char}
    (hlines : ∀ line ∈ lines, '\n' ∉ line.text) (htail : '\n' ∉ tail) :
    Text.lines (render lines ++ tail) =
      (lines.map fun line => Text.stripCr line.text) ++ if tail = [] then [] else [tail] := by
  induction lines with
  | nil => exact Text.lines_of_not_mem htail
  | cons line lines ih =>
      have hfirst : '\n' ∉ line.text := hlines line List.mem_cons_self
      have hrest := ih fun other hmem => hlines other (List.mem_cons_of_mem _ hmem)
      have hsplit : render (line :: lines) ++ tail =
          line.text ++ '\n' :: (render lines ++ tail) := by
        simp [render]
      rw [hsplit, Text.lines_append hfirst, hrest]
      rfl

/-- A line is read as the segment it renders, or as none. -/
theorem parse_acceptable (hexact : ExactBelow parseMs) {line : StreamLine}
    (hline : Acceptable parseMs line) :
    (if Text.stripCr line.text = [] then none
      else parseLine parseMs (Text.stripCr line.text)) = line.toSegment := by
  cases line with
  | segment segment =>
      have hne : segmentLine segment ≠ [] := by simp [segmentLine]
      rw [StreamLine.text, stripCr_segmentLine hline, if_neg hne,
        parseLine_segmentLine hexact hline]
      rfl
  | other line =>
      rw [StreamLine.text, parseLine_eq_none hline.2, ite_self]
      rfl

/-- Round trip: of every stream of acceptable lines, with or without an unfinished line
at its end that is not read as a segment, exactly the segments are sent, in order,
while there is a receiver. -/
theorem readText_render (hexact : ExactBelow parseMs) {lines : List StreamLine} {tail : List Char}
    (hlines : ∀ line ∈ lines, Acceptable parseMs line)
    (htail : '\n' ∉ tail ∧ ¬ Readable parseMs tail) :
    readText parseMs (fun _ => true) (render lines ++ tail) =
      lines.filterMap StreamLine.toSegment := by
  have hnewline : ∀ line ∈ lines, '\n' ∉ line.text := by
    intro line hmem
    have hline := hlines line hmem
    cases line with
    | segment segment => exact newline_not_mem_segmentLine hline
    | other line => exact hline.1
  have htailNone : ((if tail = [] then [] else [tail]).filterMap fun line =>
      if line = [] then none else parseLine parseMs line) = [] := by
    rw [List.filterMap_eq_nil_iff]
    intro line hmem
    have hline : line = tail := by
      split at hmem
      · contradiction
      · exact List.mem_singleton.mp hmem
    rw [hline, parseLine_eq_none htail.2, ite_self]
  rw [readText, readResults_connected, lines_render hnewline htail.1, List.filterMap_append,
    htailNone, List.append_nil, List.nil_append, List.filterMap_map]
  exact List.filterMap_congr fun line hmem => parse_acceptable hexact (hlines line hmem)

end Parse

/-! ## A concrete reading of timestamps -/

/-- Digits with or without a fraction, truncated. -/
def truncatedDecimal (token : List Char) : Option UInt64 :=
  let whole := token.takeWhile Char.isDigit
  let value := some (UInt64.ofNat (Nat.ofDigitChars 10 whole 0))
  match token.dropWhile Char.isDigit with
  | [] => if whole = [] then none else value
  | point :: fraction =>
      if point = '.' ∧ whole ≠ [] ∧ fraction.all Char.isDigit then value else none

theorem exactBelow_truncatedDecimal : ExactBelow truncatedDecimal := by
  intro value _
  have hdigits : ∀ char ∈ Nat.toDigits 10 value, char.isDigit = true := fun char hmem =>
    Nat.isDigit_of_mem_toDigits (by decide) (by decide) hmem
  have hwhole : (Nat.toDigits 10 value).takeWhile Char.isDigit = Nat.toDigits 10 value :=
    List.takeWhile_eq_self_iff.mpr hdigits
  have hrest : (Nat.toDigits 10 value).dropWhile Char.isDigit = [] :=
    List.dropWhile_eq_nil_iff.mpr hdigits
  rw [truncatedDecimal, hwhole, hrest]
  simp [Nat.toDigits_ne_nil]

/-- A segment whose text begins with a space, a blank line, one that is no segment, and
one without a text. -/
def spacedLines : List StreamLine :=
  [.segment ⟨0, 1200, " And so"⟩, .other ['\r'], .other "ready 1".toList,
    .segment ⟨1200, 1300, ""⟩]

theorem readText_spacedLines :
    readText truncatedDecimal (fun _ => true) (render spacedLines ++ "100 200".toList) =
      [⟨0, 1200, " And so"⟩, ⟨1200, 1300, ""⟩] := by
  have hblank : Acceptable truncatedDecimal (.other ['\r']) :=
    ⟨by decide, by rw [← isSome_parseLine_iff]; decide⟩
  have hother : Acceptable truncatedDecimal (.other "ready 1".toList) :=
    ⟨by decide, by rw [← isSome_parseLine_iff]; decide⟩
  have hlines : ∀ line ∈ spacedLines, Acceptable truncatedDecimal line := by
    simp only [spacedLines, List.forall_mem_cons]
    exact ⟨⟨by decide, by decide, by decide, by decide⟩, hblank, hother,
      ⟨by decide, by decide, by decide, by decide⟩, by simp⟩
  exact readText_render exactBelow_truncatedDecimal hlines
    ⟨by decide, by rw [← isSome_parseLine_iff]; decide⟩

/-- A line that is not the line of a representable segment. -/
def NotOfForm (line : List Char) : Prop :=
  '\n' ∉ line ∧ ¬ ∃ segment, Representable segment ∧ segmentLine segment = line

/-- Timestamps with a fraction do not have the form of a segment's, but are read. -/
theorem fraction_read_as_segment :
    ¬ ∀ (parseMs : ParseMs) (lines : List StreamLine), ExactBelow parseMs →
      (∀ line ∈ lines, match line with
        | .segment segment => Representable segment
        | .other line => NotOfForm line) →
      readText parseMs (fun _ => true) (render lines) =
        lines.filterMap StreamLine.toSegment := by
  intro hreadsBack
  have hform : NotOfForm "1.5 2.5 hi".toList := by
    refine ⟨by decide, ?_⟩
    rintro ⟨segment, -, hline⟩
    have hsplit := splitn_segmentLine segment
    rw [hline] at hsplit
    have hfirst : ['1', '.', '5'] = Nat.toDigits 10 segment.startMs.toNat :=
      (List.cons.inj hsplit).1
    have hpoint : '.' ∉ Nat.toDigits 10 segment.startMs.toNat := not_mem_toDigits rfl _
    rw [← hfirst] at hpoint
    exact hpoint (by decide)
  have hread := hreadsBack truncatedDecimal [.other "1.5 2.5 hi".toList] exactBelow_truncatedDecimal
    (by simpa using hform)
  have hone : (readText truncatedDecimal (fun _ => true)
      (render [.other "1.5 2.5 hi".toList])).length = 1 := rfl
  rw [hread] at hone
  contradiction

end SimulStreamingClient
end Transcription
end MediaServer
