import MediaServer.Transcription.SimulStreaming

/-!
# The asynchronous SimulStreaming client

`AsyncSimulStreamingClient` reads the same text as `SimulStreamingClient`, with a
`parse_line` of its own that trims the line first.

* `ReadAlike`: the text of a segment on this line begins after the timestamps and does not
  end in white space, and no segment stands behind white space;
* `eq_of_readAlike`, `readAlike_of_eq`: such lines, and no others, are read alike by both;
* `delivered_eq_iff`: both deliver the same segments exactly if every line is such a line.
-/

namespace MediaServer
namespace Transcription

open Foundation

namespace AsyncSimulStreamingClient

open SimulStreamingClient

/-- Parse a line from SimulStreaming output. -/
def parseLine (parseMs : ParseMs) (line : List Char) : Option TranscriptionSegment :=
  let trimmed := Text.trim line
  if trimmed = [] then none
  else
    match Text.splitn 3 ' ' trimmed with
    | first :: second :: third :: _ => do
        let start ← parseMs first
        let stop ← parseMs second
        return { startMs := start, endMs := stop, text := String.ofList third }
    | _ => none

/-- Read and parse results: the segments sent on the channel, after those in `sent`.
The receiver is still there when it is sent its `n`-th segment if `connected n`; a line
that cannot be read ends the task. -/
def readResults (parseMs : ParseMs) (connected : Nat → Bool) :
    List (Except String (List Char)) → List TranscriptionSegment → List TranscriptionSegment
  | [], sent => sent
  | .error _ :: _, sent => sent
  | .ok line :: rest, sent =>
      match parseLine parseMs line with
      | some segment =>
          if connected sent.length then
            readResults parseMs connected rest (sent ++ [segment])
          else sent
      | none => readResults parseMs connected rest sent

/-- The reader task on the text that the server sends before it closes the stream;
`read_line` keeps what ends a line. -/
def readText (parseMs : ParseMs) (connected : Nat → Bool) (text : List Char) :
    List TranscriptionSegment :=
  readResults parseMs connected ((Text.rawLines text).map .ok) []

/-! ## Lines -/

/-- `f64::from_str` rejects the empty token and every token with white space. -/
def RejectsWhitespace (parseMs : ParseMs) : Prop :=
  ∀ token value, parseMs token = some value →
    token ≠ [] ∧ ∀ char ∈ token, Text.isWhitespace char = false

/-- A text that trimming the end leaves as it is, and that is not empty. -/
def Clean (text : List Char) : Prop :=
  ∃ last, text.getLast? = some last ∧ Text.isWhitespace last = false

/-- What a line must be like to be read alike. -/
structure ReadAlike (parseMs : ParseMs) (line : List Char) : Prop where
  /-- the text behind two timestamps is not empty and does not end in white space -/
  text : ∀ first second third, line = first ++ ' ' :: (second ++ ' ' :: third) → ' ' ∉ first →
    ' ' ∉ second → (parseMs first).isSome = true → (parseMs second).isSome = true → Clean third
  /-- no segment stands behind white space -/
  leading : ∀ char rest, line = char :: rest → Text.isWhitespace char = true →
    ¬ Readable parseMs (Text.trim line)

section Lines

variable {parseMs : ParseMs} {line : List Char} {segment : TranscriptionSegment}

/-- It is the parser of the synchronous client on the trimmed line. -/
theorem parseLine_eq (parseMs : ParseMs) (line : List Char) :
    parseLine parseMs line = SimulStreamingClient.parseLine parseMs (Text.trim line) := by
  unfold parseLine
  by_cases hempty : Text.trim line = []
  · simp only [hempty, if_true]
    rfl
  · simp only [if_neg hempty]
    rfl

theorem parseLine_chomp (line : List Char) :
    parseLine parseMs (Text.chomp line) = parseLine parseMs line := by
  rw [parseLine_eq, parseLine_eq, Text.trim_chomp]

/-- A token that is read begins a line without white space before it. -/
theorem cons_of_parse (hrejects : RejectsWhitespace parseMs) {first : List Char} {value : UInt64}
    (hfirst : parseMs first = some value) (rest : List Char) :
    ∃ char more, first ++ rest = char :: more ∧ Text.isWhitespace char = false := by
  obtain ⟨hne, hsolid⟩ := hrejects first value hfirst
  cases first with
  | nil => contradiction
  | cons char more => exact ⟨char, more ++ rest, rfl, hsolid char List.mem_cons_self⟩

/-- The synchronous client reads no segment behind white space. -/
theorem parse_eq_none_of_leading (hrejects : RejectsWhitespace parseMs) {char : Char}
    {rest : List Char} (hchar : Text.isWhitespace char = true) :
    SimulStreamingClient.parseLine parseMs (char :: rest) = none := by
  rw [Option.eq_none_iff_forall_ne_some]
  intro segment hsegment
  obtain ⟨first, second, third, hline, -, -, hstart, -⟩ := parseLine_eq_some_iff.mp hsegment
  obtain ⟨head, more, hhead, hsolid⟩ :=
    cons_of_parse hrejects hstart (' ' :: (second ++ ' ' :: third))
  rw [← hline] at hhead
  rw [← (List.cons.inj hhead).1, hchar] at hsolid
  contradiction

/-- All segments of the asynchronous client have clean texts. -/
theorem clean_of_parseLine (hsegment : parseLine parseMs line = some segment) :
    Clean segment.text.toList := by
  rw [parseLine_eq] at hsegment
  obtain ⟨first, second, third, htrim, -, -, -, -, htext⟩ := parseLine_eq_some_iff.mp hsegment
  have hsplit : Text.trim line = (first ++ ' ' :: second) ++ ' ' :: third := by
    rw [htrim, List.append_assoc, List.cons_append]
  rw [htext, String.toList_ofList]
  cases third with
  | nil =>
      have hlast : (Text.trim line).getLast? = some ' ' := by
        rw [hsplit]
        exact List.getLast?_concat
      have hspace := Text.getLast?_trim hlast
      contradiction
  | cons char rest =>
      have hlast : (Text.trim line).getLast? = (char :: rest).getLast? := by
        rw [hsplit, List.getLast?_append_cons, List.getLast?_cons_cons]
      obtain ⟨last, hsome⟩ : ∃ last, (char :: rest).getLast? = some last :=
        ⟨_, List.getLast?_eq_some_getLast (List.cons_ne_nil char rest)⟩
      exact ⟨last, hsome, Text.getLast?_trim (hlast.trans hsome)⟩

/-- A segment with a clean text is read by the asynchronous client as well. -/
theorem parseLine_of_clean (hrejects : RejectsWhitespace parseMs)
    (hsegment : SimulStreamingClient.parseLine parseMs line = some segment)
    (hclean : Clean segment.text.toList) : parseLine parseMs line = some segment := by
  obtain ⟨first, second, third, hline, -, -, hstart, -, htext⟩ :=
    parseLine_eq_some_iff.mp hsegment
  obtain ⟨char, more, hfirst, hsolid⟩ :=
    cons_of_parse hrejects hstart (' ' :: (second ++ ' ' :: third))
  rw [htext, String.toList_ofList] at hclean
  obtain ⟨last, hlast, hkept⟩ := hclean
  have hend : (char :: more).getLast? = some last := by
    have hsplit : char :: more = (first ++ ' ' :: (second ++ [' '])) ++ third := by
      rw [← hfirst]
      simp
    rw [hsplit, List.getLast?_append, hlast]
    rfl
  have htrim : Text.trim line = line := by
    rw [hline, hfirst]
    apply Text.trim_eq_self hsolid
    intro other hother
    rw [hend] at hother
    rw [← Option.some.inj hother]
    exact hkept
  rw [parseLine_eq, htrim, hsegment]

/-- Without white space before it, a line that the asynchronous client reads is read by
the synchronous one. -/
theorem readable_of_trim {char : Char} {rest : List Char}
    (hchar : Text.isWhitespace char = false)
    (hreadable : Readable parseMs (Text.trim (char :: rest))) :
    Readable parseMs (char :: rest) := by
  obtain ⟨removed, hremoved⟩ := Text.eq_trim_append hchar rest
  obtain ⟨first, second, third, htrim, hfirst, hsecond, hstart, hstop⟩ := hreadable
  refine ⟨first, second, third ++ removed, ?_, hfirst, hsecond, hstart, hstop⟩
  rw [hremoved, htrim]
  simp

/-- A line that meets the conditions is read alike. -/
theorem eq_of_readAlike (hrejects : RejectsWhitespace parseMs) (halike : ReadAlike parseMs line) :
    SimulStreamingClient.parseLine parseMs line = parseLine parseMs line := by
  cases hsync : SimulStreamingClient.parseLine parseMs line with
  | some segment =>
      obtain ⟨first, second, third, hline, hfirst, hsecond, hstart, hstop, htext⟩ :=
        parseLine_eq_some_iff.mp hsync
      have hclean : Clean segment.text.toList := by
        rw [htext, String.toList_ofList]
        exact halike.text first second third hline hfirst hsecond (by rw [hstart]; rfl)
          (by rw [hstop]; rfl)
      exact (parseLine_of_clean hrejects hsync hclean).symm
  | none =>
      have hunreadable : ¬ Readable parseMs line := by
        rw [← isSome_parseLine_iff, hsync]
        exact Bool.false_ne_true
      rw [parseLine_eq]
      refine (parseLine_eq_none ?_).symm
      cases line with
      | nil => exact hunreadable
      | cons char rest =>
          cases hchar : Text.isWhitespace char with
          | true => exact halike.leading char rest rfl hchar
          | false => exact fun hreadable => hunreadable (readable_of_trim hchar hreadable)

/-- No other line is. -/
theorem readAlike_of_eq (hrejects : RejectsWhitespace parseMs)
    (hsame : SimulStreamingClient.parseLine parseMs line = parseLine parseMs line) :
    ReadAlike parseMs line := by
  constructor
  · intro first second third hline hfirst hsecond hstart hstop
    obtain ⟨start, hstart⟩ := Option.isSome_iff_exists.mp hstart
    obtain ⟨stop, hstop⟩ := Option.isSome_iff_exists.mp hstop
    have hsegment : SimulStreamingClient.parseLine parseMs line =
        some ⟨start, stop, String.ofList third⟩ := parseLine_eq_some_iff.mpr
      ⟨first, second, third, hline, hfirst, hsecond, hstart, hstop, rfl⟩
    have hclean := clean_of_parseLine (hsame ▸ hsegment)
    rwa [String.toList_ofList] at hclean
  · rintro char rest rfl hchar hreadable
    rw [parse_eq_none_of_leading hrejects hchar, parseLine_eq] at hsame
    rw [← isSome_parseLine_iff, ← hsame] at hreadable
    contradiction

end Lines

/-! ## Streams -/

section Streams

variable {parseMs : ParseMs}

/-- With a receiver, the segments of all lines that are read as one are sent. -/
theorem readResults_connected (lines : List (List Char)) (sent : List TranscriptionSegment) :
    readResults parseMs (fun _ => true) (lines.map .ok) sent =
      sent ++ lines.filterMap (parseLine parseMs) := by
  induction lines generalizing sent with
  | nil => simp [readResults]
  | cons line lines ih =>
      rw [List.map_cons, readResults, List.filterMap_cons]
      cases parseLine parseMs line with
      | none => exact ih sent
      | some segment => simp [ih]

theorem readText_eq (text : List Char) :
    readText parseMs (fun _ => true) text = (Text.lines text).filterMap (parseLine parseMs) := by
  rw [readText, readResults_connected, List.nil_append, Text.lines_eq_map, List.filterMap_map]
  exact List.filterMap_congr fun line _ => (parseLine_chomp line).symm

theorem readText_sync_eq (text : List Char) :
    SimulStreamingClient.readText parseMs (fun _ => true) text =
      (Text.lines text).filterMap (SimulStreamingClient.parseLine parseMs) := by
  rw [SimulStreamingClient.readText, SimulStreamingClient.readResults_connected, List.nil_append]
  refine List.filterMap_congr fun line _ => ?_
  split
  · rename_i hblank
    rw [hblank]
    rfl
  · rfl

/-- Of two readings of some lines, one of which reads no more than the other. -/
theorem length_filterMap_le {α β : Type*} {fewer more : α → Option β} {lines : List α}
    (hmore : ∀ line ∈ lines, ∀ value, fewer line = some value → more line = some value) :
    (lines.filterMap fewer).length ≤ (lines.filterMap more).length := by
  induction lines with
  | nil => exact Nat.le_refl 0
  | cons line lines ih =>
      have hrest := ih fun other hmem => hmore other (List.mem_cons_of_mem _ hmem)
      rw [List.filterMap_cons, List.filterMap_cons]
      cases hfewer : fewer line with
      | none =>
          cases more line with
          | none => exact hrest
          | some value => exact Nat.le_succ_of_le hrest
      | some value =>
          rw [hmore line List.mem_cons_self value hfewer]
          exact Nat.succ_le_succ hrest

/-- They read as many lines only if they read the same ones. -/
theorem eq_of_length_filterMap {α β : Type*} {fewer more : α → Option β} {lines : List α}
    (hmore : ∀ line ∈ lines, ∀ value, fewer line = some value → more line = some value)
    (hlength : (lines.filterMap fewer).length = (lines.filterMap more).length) :
    ∀ line ∈ lines, fewer line = more line := by
  induction lines with
  | nil => simp
  | cons line lines ih =>
      have hothers : ∀ other ∈ lines, ∀ value, fewer other = some value →
          more other = some value := fun other hmem => hmore other (List.mem_cons_of_mem _ hmem)
      have hle := length_filterMap_le hothers
      rw [List.filterMap_cons, List.filterMap_cons] at hlength
      rw [List.forall_mem_cons]
      cases hfewer : fewer line with
      | some value =>
          have hvalue := hmore line List.mem_cons_self value hfewer
          rw [hfewer, hvalue] at hlength
          exact ⟨hvalue.symm, ih hothers (Nat.succ.inj hlength)⟩
      | none =>
          cases hsame : more line with
          | none =>
              rw [hfewer, hsame] at hlength
              exact ⟨rfl, ih hothers hlength⟩
          | some value =>
              rw [hfewer, hsame] at hlength
              simp only [List.length_cons] at hlength
              omega

/-- Both clients deliver the same segments exactly if every line is one that is read
alike. -/
theorem delivered_eq_iff (hrejects : RejectsWhitespace parseMs) (text : List Char) :
    SimulStreamingClient.readText parseMs (fun _ => true) text =
        readText parseMs (fun _ => true) text ↔
      ∀ line ∈ Text.lines text, ReadAlike parseMs line := by
  rw [readText_eq, readText_sync_eq]
  constructor
  · intro hdelivered
    -- the texts of the synchronous client are those of the other one, so they are clean
    have hclean : ∀ line ∈ Text.lines text, ∀ segment,
        SimulStreamingClient.parseLine parseMs line = some segment →
          Clean segment.text.toList := by
      intro line hmem segment hsegment
      have hboth := List.mem_filterMap.mpr ⟨line, hmem, hsegment⟩
      rw [hdelivered] at hboth
      obtain ⟨other, -, hother⟩ := List.mem_filterMap.mp hboth
      exact clean_of_parseLine hother
    have hsame := eq_of_length_filterMap
      (fun line hmem segment hsegment =>
        parseLine_of_clean hrejects hsegment (hclean line hmem segment hsegment))
      (congrArg List.length hdelivered)
    exact fun line hmem => readAlike_of_eq hrejects (hsame line hmem)
  · intro halike
    exact List.filterMap_congr fun line hmem => eq_of_readAlike hrejects (halike line hmem)

end Streams

/-! ## Concrete streams -/

theorem isWhitespace_of_isDigit {char : Char} (hdigit : char.isDigit = true) :
    Text.isWhitespace char = false := by
  have hrange : 48 ≤ char.toNat ∧ char.toNat ≤ 57 := by
    simpa [Char.isDigit, UInt32.le_iff_toNat_le] using hdigit
  simp only [Text.isWhitespace]
  simp
  omega

theorem rejectsWhitespace_truncatedDecimal : RejectsWhitespace truncatedDecimal := by
  intro token value hvalue
  have hwhole : ∀ char ∈ token.takeWhile Char.isDigit, Text.isWhitespace char = false :=
    fun char hmem => isWhitespace_of_isDigit (List.mem_takeWhile_imp hmem)
  have hsplit : token.takeWhile Char.isDigit ++ token.dropWhile Char.isDigit = token :=
    List.takeWhile_append_dropWhile
  simp only [truncatedDecimal] at hvalue
  generalize token.takeWhile Char.isDigit = whole at hwhole hsplit hvalue
  generalize token.dropWhile Char.isDigit = rest at hsplit hvalue
  obtain rfl := hsplit
  split at hvalue
  · split at hvalue
    · contradiction
    · rename_i hne
      rw [List.append_nil]
      exact ⟨hne, hwhole⟩
  · rename_i point fraction
    split at hvalue
    · rename_i hform
      obtain ⟨rfl, hne, hfraction⟩ := hform
      refine ⟨List.append_ne_nil_of_left_ne_nil hne _, ?_⟩
      intro char hmem
      rcases List.mem_append.mp hmem with hdigit | hrest
      · exact hwhole char hdigit
      · rcases List.mem_cons.mp hrest with rfl | hdigit
        · rfl
        · exact isWhitespace_of_isDigit (List.all_eq_true.mp hfraction char hdigit)
    · contradiction

/-- A text that begins with a space, and a line that is no segment. -/
theorem delivered_eq_iff_leadingSpace :
    SimulStreamingClient.readText truncatedDecimal (fun _ => true)
        "0 1200  And so\r\nready\n".toList =
      readText truncatedDecimal (fun _ => true) "0 1200  And so\r\nready\n".toList := by
  refine (delivered_eq_iff rejectsWhitespace_truncatedDecimal _).mpr ?_
  have hlines : Text.lines "0 1200  And so\r\nready\n".toList =
      ["0 1200  And so".toList, "ready".toList] := rfl
  rw [hlines, List.forall_mem_cons, List.forall_mem_cons]
  exact ⟨readAlike_of_eq rejectsWhitespace_truncatedDecimal rfl,
    readAlike_of_eq rejectsWhitespace_truncatedDecimal rfl, by simp⟩

/-- A text that ends in a space. -/
theorem texts_differ :
    SimulStreamingClient.readText truncatedDecimal (fun _ => true) "0 1200 And so \n".toList =
        [⟨0, 1200, "And so "⟩] ∧
      readText truncatedDecimal (fun _ => true) "0 1200 And so \n".toList =
        [⟨0, 1200, "And so"⟩] :=
  ⟨rfl, rfl⟩

end AsyncSimulStreamingClient
end Transcription
end MediaServer
