import Mathlib.Data.List.Basic

/-!
# Trimming a repeated suffix

`trim_end_matches` removes a pattern from the end of a text as often as it stands
there.  A text is in one way only a rest that does not end in the pattern followed by
copies of it (`exists_trimEndMatches`, `trimEndMatches_append`), and trimming yields
this rest.
-/

namespace Foundation

variable {α : Type*} [DecidableEq α] {pattern : List α}

/-- The pattern a number of times. -/
def copies (count : Nat) (pattern : List α) : List α := (List.replicate count pattern).flatten

/-- At most `fuel` copies of the pattern are removed. -/
def trimEndMatchesFrom (pattern : List α) : Nat → List α → List α
  | 0, text => text
  | fuel + 1, text =>
      if pattern.isSuffixOf text then
        trimEndMatchesFrom pattern fuel (text.take (text.length - pattern.length))
      else text

/-- `trim_end_matches` -/
def trimEndMatches (pattern text : List α) : List α :=
  trimEndMatchesFrom pattern text.length text

omit [DecidableEq α] in
@[simp] theorem copies_zero (pattern : List α) : copies 0 pattern = [] := rfl

omit [DecidableEq α] in
theorem copies_succ (count : Nat) (pattern : List α) :
    copies (count + 1) pattern = copies count pattern ++ pattern := by
  simp [copies, List.replicate_succ']

/-- What is removed are copies of the pattern, and with enough fuel all at the end. -/
theorem exists_trimEndMatchesFrom (hpattern : pattern ≠ []) {fuel : Nat} {text : List α}
    (hfuel : text.length ≤ fuel) :
    ∃ count, text = trimEndMatchesFrom pattern fuel text ++ copies count pattern ∧
      ¬ pattern <:+ trimEndMatchesFrom pattern fuel text := by
  induction fuel generalizing text with
  | zero =>
      obtain rfl := List.length_eq_zero_iff.mp (Nat.le_zero.mp hfuel)
      exact ⟨0, rfl, fun hsuffix => hpattern (List.suffix_nil.mp hsuffix)⟩
  | succ fuel ih =>
      have hpos : 0 < pattern.length := List.length_pos_of_ne_nil hpattern
      rw [trimEndMatchesFrom]
      split
      · rename_i hends
        obtain ⟨rest, rfl⟩ := List.isSuffixOf_iff_suffix.mp hends
        have htake : (rest ++ pattern).take ((rest ++ pattern).length - pattern.length) = rest := by
          simp
        rw [htake]
        have hshorter : rest.length ≤ fuel := by
          rw [List.length_append] at hfuel
          omega
        obtain ⟨count, hrest, hnot⟩ := ih hshorter
        refine ⟨count + 1, ?_, hnot⟩
        rw [copies_succ, ← List.append_assoc, ← hrest]
      · rename_i hends
        refine ⟨0, by simp, ?_⟩
        rwa [← List.isSuffixOf_iff_suffix]

omit [DecidableEq α] in
/-- The copies at the end of a text can be counted in one way only. -/
theorem append_copies_inj {rest other : List α} {count more : Nat} (hrest : ¬ pattern <:+ rest)
    (hother : ¬ pattern <:+ other)
    (hsame : rest ++ copies count pattern = other ++ copies more pattern) : rest = other := by
  induction count generalizing more with
  | zero =>
      cases more with
      | zero => simpa using hsame
      | succ more =>
          rw [copies_succ, copies_zero, List.append_nil, ← List.append_assoc] at hsame
          exact absurd (hsame ▸ List.suffix_append _ pattern) hrest
  | succ count ih =>
      cases more with
      | zero =>
          rw [copies_succ, copies_zero, List.append_nil, ← List.append_assoc] at hsame
          exact absurd (hsame ▸ List.suffix_append _ pattern) hother
      | succ more =>
          rw [copies_succ, copies_succ, ← List.append_assoc, ← List.append_assoc] at hsame
          exact ih (List.append_cancel_right hsame)

/-- A text is the trimmed one followed by copies of the pattern. -/
theorem exists_trimEndMatches (hpattern : pattern ≠ []) (text : List α) :
    ∃ count, text = trimEndMatches pattern text ++ copies count pattern :=
  (exists_trimEndMatchesFrom hpattern (Nat.le_refl text.length)).imp fun _ hcount => hcount.1

/-- A trimmed text does not end in the pattern. -/
theorem not_suffix_trimEndMatches (hpattern : pattern ≠ []) (text : List α) :
    ¬ pattern <:+ trimEndMatches pattern text := by
  obtain ⟨-, -, hnot⟩ := exists_trimEndMatchesFrom hpattern (Nat.le_refl text.length)
  exact hnot

theorem trimEndMatches_prefix_self (hpattern : pattern ≠ []) (text : List α) :
    trimEndMatches pattern text <+: text := by
  obtain ⟨count, hcount⟩ := exists_trimEndMatches hpattern text
  exact ⟨copies count pattern, hcount.symm⟩

/-- Copies at the end are trimmed off a text that does not end in the pattern itself. -/
theorem trimEndMatches_append (hpattern : pattern ≠ []) {rest : List α}
    (hrest : ¬ pattern <:+ rest) (count : Nat) :
    trimEndMatches pattern (rest ++ copies count pattern) = rest := by
  obtain ⟨more, hsame⟩ := exists_trimEndMatches hpattern (rest ++ copies count pattern)
  exact (append_copies_inj hrest (not_suffix_trimEndMatches hpattern _) hsame).symm

theorem trimEndMatches_of_not_suffix (hpattern : pattern ≠ []) {text : List α}
    (htext : ¬ pattern <:+ text) : trimEndMatches pattern text = text := by
  have htrim := trimEndMatches_append hpattern htext 0
  rwa [copies_zero, List.append_nil] at htrim

/-- One more copy makes no difference. -/
theorem trimEndMatches_append_self (hpattern : pattern ≠ []) (text : List α) :
    trimEndMatches pattern (text ++ pattern) = trimEndMatches pattern text := by
  obtain ⟨count, htext⟩ := exists_trimEndMatches hpattern text
  have hmore : text ++ pattern = trimEndMatches pattern text ++ copies (count + 1) pattern := by
    rw [copies_succ, ← List.append_assoc, ← htext]
  rw [hmore, trimEndMatches_append hpattern (not_suffix_trimEndMatches hpattern text)]

end Foundation
