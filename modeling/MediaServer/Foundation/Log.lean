import Mathlib.Data.List.Induction

/-!
# Facts about append-only logs

Two notions that are kept by appending.

`Preceded cause effect log`: every element with an effect on a key has an element
before it that causes the key.

`lastWrite write log`: the last value that an element of the log writes, for a
register that only some elements write to.
-/

namespace Foundation
namespace Log

variable {α κ β : Type*}

/-- Every effect on a key is preceded by a cause for the key. -/
def Preceded (cause effect : α → κ → Prop) (log : List α) : Prop :=
  ∀ before element after key, log = before ++ element :: after → effect element key →
    ∃ earlier ∈ before, cause earlier key

variable {cause effect : α → κ → Prop}

theorem preceded_nil : Preceded cause effect ([] : List α) := by
  intro before element after key hlog
  simp at hlog

/-- Around an element of a log with one more element stands that element with the log
before it, or one of the log with the new one at the end. -/
theorem concat_eq_split_iff {log before after : List α} {element found : α} :
    log ++ [element] = before ++ found :: after ↔
      (before = log ∧ found = element ∧ after = []) ∨
        ∃ rest, after = rest ++ [element] ∧ log = before ++ found :: rest := by
  constructor
  · intro hsplit
    rcases List.eq_nil_or_concat after with rfl | ⟨rest, last, rfl⟩
    · obtain ⟨hbefore, hfound⟩ := List.append_inj' hsplit rfl
      exact .inl ⟨hbefore.symm, (List.singleton_inj.mp hfound).symm, rfl⟩
    · have hshift : log ++ [element] = (before ++ found :: rest) ++ [last] := by
        simpa using hsplit
      obtain ⟨hlog, hlast⟩ := List.append_inj' hshift rfl
      rw [List.singleton_inj.mp hlast]
      exact .inr ⟨rest, List.concat_eq_append, hlog⟩
  · rintro (⟨rfl, rfl, rfl⟩ | ⟨rest, rfl, rfl⟩)
    · rfl
    · simp

/-- Appending an element whose effects have their causes in the log. -/
theorem Preceded.concat {log : List α} (hlog : Preceded cause effect log) {element : α}
    (hcaused : ∀ key, effect element key → ∃ earlier ∈ log, cause earlier key) :
    Preceded cause effect (log ++ [element]) := by
  intro before found after key hsplit heffect
  rcases concat_eq_split_iff.mp hsplit with ⟨rfl, rfl, -⟩ | ⟨rest, -, hlogged⟩
  · -- the appended element itself
    exact hcaused key heffect
  · exact hlog before found rest key hlogged heffect

/-- The last value written. -/
def lastWrite (write : α → Option β) (log : List α) : Option β :=
  (log.filterMap write).getLast?

variable {write : α → Option β}

@[simp] theorem lastWrite_nil : lastWrite write ([] : List α) = none := rfl

@[simp] theorem lastWrite_append (log added : List α) :
    lastWrite write (log ++ added) = (lastWrite write added).or (lastWrite write log) := by
  simp [lastWrite, List.getLast?_append]

theorem lastWrite_singleton (element : α) : lastWrite write [element] = write element := by
  unfold lastWrite
  cases hwrite : write element <;> simp [hwrite]

/-- The register holds what some element has written. -/
theorem exists_of_lastWrite {log : List α} {value : β} (hlast : lastWrite write log = some value) :
    ∃ element ∈ log, write element = some value := by
  obtain ⟨element, hmem, hwrite⟩ := List.mem_filterMap.mp (List.mem_of_getLast? hlast)
  exact ⟨element, hmem, hwrite⟩

/-- An element decides the register unless it does not write to it. -/
theorem lastWrite_concat (log : List α) (element : α) :
    lastWrite write (log ++ [element]) = (write element).or (lastWrite write log) := by
  rw [lastWrite_append, lastWrite_singleton]

/-- The element that wrote last, and nothing written after it. -/
theorem split_of_lastWrite {log : List α} {value : β} (hlast : lastWrite write log = some value) :
    ∃ before element after, log = before ++ element :: after ∧ write element = some value ∧
      ∀ later ∈ after, write later = none := by
  induction log using List.reverseRecOn with
  | nil => simp at hlast
  | append_singleton log element ih =>
      rw [lastWrite_concat] at hlast
      cases hwrite : write element with
      | some written =>
          rw [hwrite, Option.some_or] at hlast
          obtain rfl := Option.some.inj hlast
          exact ⟨log, element, [], rfl, hwrite, by simp⟩
      | none =>
          rw [hwrite, Option.none_or] at hlast
          obtain ⟨before, found, after, rfl, hfound, hafter⟩ := ih hlast
          refine ⟨before, found, after ++ [element], by simp, hfound, ?_⟩
          intro later hmem
          rcases List.mem_append.mp hmem with hearlier | hnew
          · exact hafter later hearlier
          · rw [List.mem_singleton.mp hnew, hwrite]

end Log
end Foundation
