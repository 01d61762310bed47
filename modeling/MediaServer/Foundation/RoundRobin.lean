import Mathlib.Data.Int.CardIntervalMod

/-!
# Taking turns

Places `0, …, n - 1` are picked in turn when the `i`-th pick, counted from 0, is
`i mod n`.  Then no two places differ by more than one in how often they were
picked.
-/

namespace Foundation

/-- The picks go over the `n` places in turn. -/
def TakesTurns (n : Nat) (picks : List Nat) : Prop :=
  ∀ i pick, picks[i]? = some pick → pick = i % n

theorem takesTurns_nil (n : Nat) : TakesTurns n [] := by
  intro i pick hpick
  simp at hpick

/-- One more pick takes its turn when its place is the number of picks before it. -/
theorem takesTurns_concat {n pick : Nat} {picks : List Nat} :
    TakesTurns n (picks ++ [pick]) ↔ TakesTurns n picks ∧ pick = picks.length % n := by
  constructor
  · intro hturns
    constructor
    · intro i earlier hearlier
      exact hturns i earlier (by rw [List.getElem?_append_left
        (List.getElem?_eq_some_iff.mp hearlier).1, hearlier])
    · exact hturns picks.length pick List.getElem?_concat_length
  · rintro ⟨hturns, hpick⟩ i later hlater
    rcases Nat.lt_or_ge i picks.length with hlt | hge
    · rw [List.getElem?_append_left hlt] at hlater
      exact hturns i later hlater
    · have hlast : i = picks.length := by
        have hbound := (List.getElem?_eq_some_iff.mp hlater).1
        rw [List.length_append, List.length_singleton] at hbound
        omega
      subst hlast
      rw [List.getElem?_concat_length] at hlater
      rw [← Option.some.inj hlater, hpick]

/-- How often a place has been picked. -/
theorem TakesTurns.count_eq {n place : Nat} {picks : List Nat} (hturns : TakesTurns n picks)
    (hplace : place < n) : picks.count place = picks.length.count (· ≡ place [MOD n]) := by
  induction picks using List.reverseRecOn with
  | nil => simp
  | append_singleton picks pick ih =>
      obtain ⟨hearlier, rfl⟩ := takesTurns_concat.mp hturns
      have hmod : (picks.length % n = place) ↔ picks.length ≡ place [MOD n] := by
        rw [Nat.ModEq, Nat.mod_eq_of_lt hplace]
      rw [List.count_append, List.length_append, List.length_singleton, Nat.count_succ,
        ih hearlier, List.count_singleton]
      simp only [beq_iff_eq, hmod]

/-- Turns are fair: two places differ by at most one in how often they were picked. -/
theorem TakesTurns.count_le {n first second : Nat} {picks : List Nat}
    (hturns : TakesTurns n picks) (hfirst : first < n) (hsecond : second < n) :
    picks.count first ≤ picks.count second + 1 := by
  have hpos : 0 < n := Nat.zero_lt_of_lt hfirst
  rw [hturns.count_eq hfirst, hturns.count_eq hsecond, Nat.count_modEq_card _ hpos,
    Nat.count_modEq_card _ hpos]
  split <;> split <;> omega

/-- A turn that comes `extra` places later is still its own exactly when `extra` is
a whole number of rounds. -/
theorem add_mod_eq_mod_iff_dvd (n taken extra : Nat) :
    (taken + extra) % n = taken % n ↔ n ∣ extra := by
  rw [← Nat.ModEq, Nat.ModEq.comm, Nat.modEq_iff_dvd' (Nat.le_add_right taken extra),
    Nat.add_sub_cancel_left]

end Foundation
