import Mathlib.Data.List.DropRight
import Mathlib.Data.List.TakeWhile

/-!
# Lines and tokens of a text

`lines` is the reading of a text line by line: a newline ends a line and is not part of
it, nor is one carriage return before it; what follows the last newline is a line if it
is not empty, and is left as it is.  `splitn` cuts a text at a separator into at most a
given number of tokens, the last of which keeps the separators it contains, and
`rsplitOnce` cuts it at its last separator.  `trim` removes white space at both ends.

`rawLines` are the same lines with what ends them.
-/

namespace Foundation
namespace Text

/-- A line without a carriage return at its end. -/
def stripCr (line : List Char) : List Char :=
  if line.getLast? = some '\r' then line.dropLast else line

/-- The lines of a text, of whose first line `current` has been read. -/
def linesFrom (current : List Char) : List Char → List (List Char)
  | [] => if current = [] then [] else [current]
  | char :: rest =>
      if char = '\n' then stripCr current :: linesFrom [] rest
      else linesFrom (current ++ [char]) rest

/-- The lines of a text. -/
def lines (text : List Char) : List (List Char) := linesFrom [] text

/-- The lines of a text with their newlines, of whose first line `current` has been
read. -/
def rawLinesFrom (current : List Char) : List Char → List (List Char)
  | [] => if current = [] then [] else [current]
  | char :: rest =>
      if char = '\n' then (current ++ ['\n']) :: rawLinesFrom [] rest
      else rawLinesFrom (current ++ [char]) rest

/-- The lines of a text with their newlines; only the last one may be without. -/
def rawLines (text : List Char) : List (List Char) := rawLinesFrom [] text

/-- A line without what ends it. -/
def chomp (line : List Char) : List Char :=
  if line.getLast? = some '\n' then stripCr line.dropLast else line

/-- At most so many tokens, cut at a separator. -/
def splitn : Nat → Char → List Char → List (List Char)
  | 0, _, _ => []
  | 1, _, text => [text]
  | limit + 2, sep, text =>
      match text.dropWhile (· ≠ sep) with
      | [] => [text]
      | _ :: rest => text.takeWhile (· ≠ sep) :: splitn (limit + 1) sep rest

/-- What stands before and behind the last separator. -/
def rsplitOnce (sep : Char) (text : List Char) : Option (List Char × List Char) :=
  match text.reverse.dropWhile (· ≠ sep) with
  | [] => none
  | _ :: before => some (before.reverse, (text.reverse.takeWhile (· ≠ sep)).reverse)

/-- The characters `str::trim` removes. -/
def isWhitespace (c : Char) : Bool :=
  let code := c.toNat
  (9 ≤ code && code ≤ 13) || code == 32 || code == 0x85 || code == 0xA0 || code == 0x1680 ||
    (0x2000 ≤ code && code ≤ 0x200A) || code == 0x2028 || code == 0x2029 || code == 0x202F ||
    code == 0x205F || code == 0x3000

/-- `str::trim` -/
def trim (chars : List Char) : List Char :=
  ((chars.dropWhile isWhitespace).reverse.dropWhile isWhitespace).reverse

theorem stripCr_of_ne {line : List Char} (hlast : line.getLast? ≠ some '\r') :
    stripCr line = line :=
  if_neg hlast

section Lines

variable {line : List Char}

theorem linesFrom_append (hline : '\n' ∉ line) (current rest : List Char) :
    linesFrom current (line ++ '\n' :: rest) = stripCr (current ++ line) :: lines rest := by
  induction line generalizing current with
  | nil => simp [linesFrom, lines]
  | cons char line ih =>
      have hchar : char ≠ '\n' := fun heq => hline (heq ▸ List.mem_cons_self)
      have hrest : '\n' ∉ line := fun hmem => hline (List.mem_cons_of_mem _ hmem)
      rw [List.cons_append, linesFrom, if_neg hchar, ih hrest, List.append_assoc]
      rfl

/-- What stands before the first newline is the first line. -/
theorem lines_append (hline : '\n' ∉ line) (rest : List Char) :
    lines (line ++ '\n' :: rest) = stripCr line :: lines rest :=
  linesFrom_append hline [] rest

theorem linesFrom_of_not_mem (hline : '\n' ∉ line) (current : List Char) :
    linesFrom current line = if current ++ line = [] then [] else [current ++ line] := by
  induction line generalizing current with
  | nil => simp [linesFrom]
  | cons char line ih =>
      have hchar : char ≠ '\n' := fun heq => hline (heq ▸ List.mem_cons_self)
      have hrest : '\n' ∉ line := fun hmem => hline (List.mem_cons_of_mem _ hmem)
      rw [linesFrom, if_neg hchar, ih hrest, List.append_assoc]
      rfl

/-- A text without a newline is one line, or none if it is empty. -/
theorem lines_of_not_mem (hline : '\n' ∉ line) :
    lines line = if line = [] then [] else [line] :=
  linesFrom_of_not_mem hline []

theorem linesFrom_eq_map {current : List Char} (hcurrent : '\n' ∉ current) (text : List Char) :
    linesFrom current text = (rawLinesFrom current text).map chomp := by
  induction text generalizing current with
  | nil =>
      have hlast : current.getLast? ≠ some '\n' := fun heq =>
        hcurrent (List.mem_of_getLast? heq)
      rw [linesFrom, rawLinesFrom]
      split
      · rfl
      · rw [List.map_singleton, chomp, if_neg hlast]
  | cons char rest ih =>
      rw [linesFrom, rawLinesFrom]
      split
      · rw [List.map_cons, ih List.not_mem_nil, chomp, List.getLast?_concat, if_pos rfl,
          List.dropLast_concat]
      · rename_i hchar
        apply ih
        rw [List.mem_append, List.mem_singleton]
        rintro (hmem | rfl)
        · exact hcurrent hmem
        · exact hchar rfl

/-- The lines are the raw lines without what ends them. -/
theorem lines_eq_map (text : List Char) : lines text = (rawLines text).map chomp :=
  linesFrom_eq_map List.not_mem_nil text

end Lines

section Trim

variable {chars : List Char}

theorem trim_eq (chars : List Char) :
    trim chars = (chars.dropWhile isWhitespace).rdropWhile isWhitespace := rfl

/-- White space at the end makes no difference. -/
theorem trim_concat {char : Char} (hchar : isWhitespace char = true) (chars : List Char) :
    trim (chars ++ [char]) = trim chars := by
  rw [trim_eq, trim_eq, List.dropWhile_append]
  split
  · rename_i hempty
    rw [List.isEmpty_iff.mp hempty, List.dropWhile_cons_of_pos hchar]
    rfl
  · exact List.rdropWhile_concat_pos _ _ _ hchar

theorem trim_stripCr (line : List Char) : trim (stripCr line) = trim line := by
  unfold stripCr
  split
  · rename_i hlast
    obtain ⟨before, rfl⟩ := List.getLast?_eq_some_iff.mp hlast
    rw [List.dropLast_concat, trim_concat rfl]
  · rfl

/-- What ends a line makes no difference. -/
theorem trim_chomp (line : List Char) : trim (chomp line) = trim line := by
  unfold chomp
  split
  · rename_i hlast
    obtain ⟨before, rfl⟩ := List.getLast?_eq_some_iff.mp hlast
    rw [List.dropLast_concat, trim_stripCr, trim_concat rfl]
  · rfl

/-- Without white space at its ends a text stays as it is. -/
theorem trim_eq_self {char : Char} {rest : List Char} (hfirst : isWhitespace char = false)
    (hlast : ∀ last, (char :: rest).getLast? = some last → isWhitespace last = false) :
    trim (char :: rest) = char :: rest := by
  rw [trim_eq, List.dropWhile_cons_of_neg (by rw [hfirst]; exact Bool.false_ne_true),
    List.rdropWhile_eq_self_iff]
  intro hne
  rw [hlast _ (List.getLast?_eq_some_getLast hne)]
  exact Bool.false_ne_true

theorem dropWhile_isWhitespace (hchars : ∀ char ∈ chars, isWhitespace char = false) :
    chars.dropWhile isWhitespace = chars := by
  cases chars with
  | nil => rfl
  | cons first rest =>
      exact List.dropWhile_cons_of_neg (by simp [hchars first List.mem_cons_self])

/-- White space around a text without any is removed. -/
theorem trim_pad {before after : List Char} (hbefore : ∀ char ∈ before, isWhitespace char = true)
    (hchars : ∀ char ∈ chars, isWhitespace char = false)
    (hafter : ∀ char ∈ after, isWhitespace char = true) :
    trim (before ++ (chars ++ after)) = chars := by
  have hreverse : ∀ char ∈ chars.reverse, isWhitespace char = false := by simpa using hchars
  have hblank : ∀ char ∈ after.reverse, isWhitespace char = true := by simpa using hafter
  rw [trim, List.dropWhile_append_of_pos hbefore, List.dropWhile_append,
    dropWhile_isWhitespace hchars]
  split
  · rename_i hempty
    rw [List.isEmpty_iff.mp hempty, List.dropWhile_eq_nil_iff.mpr hafter]
    rfl
  · rw [List.reverse_append, List.dropWhile_append_of_pos hblank,
      dropWhile_isWhitespace hreverse, List.reverse_reverse]

/-- No white space is left at the end. -/
theorem getLast?_trim {last : Char} (hlast : (trim chars).getLast? = some last) :
    isWhitespace last = false := by
  have hne : trim chars ≠ [] := by
    intro hnil
    rw [hnil] at hlast
    contradiction
  rw [List.getLast?_eq_some_getLast hne] at hlast
  have hkept := List.rdropWhile_last_not isWhitespace (chars.dropWhile isWhitespace) hne
  rw [← Option.some.inj hlast]
  exact Bool.eq_false_iff.mpr hkept

/-- Without white space at the beginning, what is removed stands at the end. -/
theorem eq_trim_append {char : Char} (hfirst : isWhitespace char = false) (rest : List Char) :
    ∃ removed, char :: rest = trim (char :: rest) ++ removed := by
  rw [trim_eq, List.dropWhile_cons_of_neg (by rw [hfirst]; exact Bool.false_ne_true)]
  obtain ⟨removed, hremoved⟩ := List.rdropWhile_prefix isWhitespace (char :: rest)
  exact ⟨removed, hremoved.symm⟩

end Trim

section Split

variable {sep : Char} {token : List Char}

/-- What stands before the first separator is the first token. -/
theorem splitn_append (hsep : sep ∉ token) (limit : Nat) (rest : List Char) :
    splitn (limit + 2) sep (token ++ sep :: rest) = token :: splitn (limit + 1) sep rest := by
  have hall : ∀ char ∈ token, decide (char ≠ sep) = true := by
    intro char hmem
    rw [decide_eq_true_eq]
    rintro rfl
    exact hsep hmem
  have hdrop : (token ++ sep :: rest).dropWhile (· ≠ sep) = sep :: rest := by
    rw [List.dropWhile_append_of_pos hall]
    simp
  have htake : (token ++ sep :: rest).takeWhile (· ≠ sep) = token := by
    rw [List.takeWhile_append_of_pos hall]
    simp
  rw [splitn, hdrop]
  simp only [htake]

/-- A text without a separator is one token. -/
theorem splitn_of_not_mem (hsep : sep ∉ token) (limit : Nat) :
    splitn (limit + 1) sep token = [token] := by
  cases limit with
  | zero => rfl
  | succ limit =>
      have hdrop : token.dropWhile (· ≠ sep) = [] := by
        rw [List.dropWhile_eq_nil_iff]
        intro char hmem
        rw [decide_eq_true_eq]
        rintro rfl
        exact hsep hmem
      rw [splitn, hdrop]

/-- The last separator is the one with none behind it. -/
theorem rsplitOnce_append (hsep : sep ∉ token) (before : List Char) :
    rsplitOnce sep (before ++ sep :: token) = some (before, token) := by
  have hall : ∀ char ∈ token.reverse, decide (char ≠ sep) = true := by
    intro char hmem
    rw [decide_eq_true_eq]
    rintro rfl
    exact hsep (List.mem_reverse.mp hmem)
  have hreverse : (before ++ sep :: token).reverse = token.reverse ++ sep :: before.reverse := by
    simp
  have hdrop : (token.reverse ++ sep :: before.reverse).dropWhile (· ≠ sep) =
      sep :: before.reverse := by
    rw [List.dropWhile_append_of_pos hall]
    simp
  have htake : (token.reverse ++ sep :: before.reverse).takeWhile (· ≠ sep) = token.reverse := by
    rw [List.takeWhile_append_of_pos hall]
    simp
  rw [rsplitOnce, hreverse, hdrop]
  simp only [htake, List.reverse_reverse]

/-- Three tokens are what two separators leave between them. -/
theorem splitn_three {first second third : List Char} {more : List (List Char)}
    {text : List Char} (hsplit : splitn 3 sep text = first :: second :: third :: more) :
    text = first ++ sep :: (second ++ sep :: third) ∧ sep ∉ first ∧ sep ∉ second := by
  have htext : sep ∈ text := by
    by_contra hnone
    simp [splitn_of_not_mem hnone] at hsplit
  obtain ⟨before, rest, rfl, hbefore⟩ := List.eq_append_cons_of_mem htext
  rw [splitn_append hbefore] at hsplit
  have hrest : sep ∈ rest := by
    by_contra hnone
    simp [splitn_of_not_mem hnone] at hsplit
  obtain ⟨middle, last, rfl, hmiddle⟩ := List.eq_append_cons_of_mem hrest
  rw [splitn_append hmiddle] at hsplit
  obtain ⟨hfirst, hsecond, hthird, -⟩ : before = first ∧ middle = second ∧ last = third ∧ _ := by
    simpa [splitn] using hsplit
  subst hfirst hsecond hthird
  exact ⟨rfl, hbefore, hmiddle⟩

end Split

end Text
end Foundation
