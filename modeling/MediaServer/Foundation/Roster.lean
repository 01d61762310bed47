import MediaServer.Foundation.Machine
import Mathlib.Data.Set.Insert
import Mathlib.Logic.Function.Basic

/-!
# Members of groups and an index of them

A roster says which keys are members of which groups, and keeps an index that names one
group for a key.  A key joins a group by `enroll`, which also points the index at that
group.  `drop key` trusts the index: it removes the key from the group the index names,
and forgets the index entry once that group has no member left.

Nothing stops a key from joining a second group.  The index can name only one of them,
so the other membership is out of reach:

* `stray_of_run`: a membership that the index does not name stays for ever;
* `indexed_iff`: after a run the index names every membership exactly when no step of
  the run admitted a key that was a member of another group at that moment.

The second is an equivalence because of the first: a membership once lost to the index
is still there at the end.
-/

namespace Foundation

/-- Memberships of keys in groups, and the group the index names for a key. -/
structure Roster (κ γ : Type*) where
  members : Set (κ × γ)
  index : κ → Option γ

namespace Roster

open Classical Machine

variable {κ γ : Type*}

/-- Rosters with the same members and the same index are the same. -/
@[ext] theorem ext {first second : Roster κ γ}
    (hmembers : ∀ key group, (key, group) ∈ first.members ↔ (key, group) ∈ second.members)
    (hindex : ∀ key, first.index key = second.index key) : first = second := by
  obtain ⟨members, index⟩ := first
  have hsame : members = second.members := Set.ext fun member => hmembers member.1 member.2
  have hindices : index = second.index := funext hindex
  rw [hsame, hindices]

/-- What happens to a roster. -/
inductive Event (κ γ : Type*)
  | enroll (key : κ) (group : γ)
  | drop (key : κ)

/-- Nobody is a member of anything. -/
def empty : Roster κ γ := ⟨∅, fun _ => none⟩

/-- Some key is a member of the group. -/
def Inhabited (roster : Roster κ γ) (group : γ) : Prop := ∃ key, (key, group) ∈ roster.members

/-- A key joins a group. -/
noncomputable def enroll (roster : Roster κ γ) (key : κ) (group : γ) : Roster κ γ where
  members := insert (key, group) roster.members
  index := Function.update roster.index key (some group)

/-- A key leaves a group it may be a member of. -/
def without (roster : Roster κ γ) (key : κ) (group : γ) : Roster κ γ :=
  { roster with members := roster.members \ {(key, group)} }

/-- A key leaves the group that the index names, if anybody is in it. -/
noncomputable def drop (roster : Roster κ γ) (key : κ) : Roster κ γ :=
  match roster.index key with
  | none => roster
  | some group =>
      if roster.Inhabited group then
        if (roster.without key group).Inhabited group then roster.without key group
        else { roster.without key group with index := Function.update roster.index key none }
      else roster

/-- A key joins only a group it is not a member of. -/
noncomputable def machine : Machine (Roster κ γ) (Event κ γ) Unit where
  step roster
    | .enroll key group =>
        if (key, group) ∈ roster.members then none else some (roster.enroll key group, [])
    | .drop key => some (roster.drop key, [])

/-- A membership that the index does not name. -/
def Stray (roster : Roster κ γ) (key : κ) (group : γ) : Prop :=
  (key, group) ∈ roster.members ∧ roster.index key ≠ some group

/-- The index names every membership. -/
def Indexed (roster : Roster κ γ) : Prop :=
  ∀ key group, (key, group) ∈ roster.members → roster.index key = some group

/-- No other group than the one it joins has the key as a member. -/
def Unclaimed (roster : Roster κ γ) : Event κ γ → Prop
  | .enroll key group => ∀ other, (key, other) ∈ roster.members → other = group
  | .drop _ => True

@[simp] theorem mem_members_enroll {roster : Roster κ γ} {key other : κ} {joined group : γ} :
    (other, group) ∈ (roster.enroll key joined).members ↔
      (other = key ∧ group = joined) ∨ (other, group) ∈ roster.members := by
  simp [enroll]

theorem index_enroll {roster : Roster κ γ} {key other : κ} {joined : γ} :
    (roster.enroll key joined).index other =
      if other = key then some joined else roster.index other := by
  simp only [enroll, Function.update_apply]

theorem indexed_empty : (empty : Roster κ γ).Indexed := by
  intro key group hmem
  exact absurd hmem (Set.notMem_empty _)

/-- An indexed roster has no strays, and that is all there is to it. -/
theorem indexed_iff_forall_not_stray {roster : Roster κ γ} :
    roster.Indexed ↔ ∀ key group, ¬roster.Stray key group := by
  constructor
  · rintro hindexed key group ⟨hmem, hindex⟩
    exact hindex (hindexed key group hmem)
  · intro hstray key group hmem
    by_contra hindex
    exact hstray key group ⟨hmem, hindex⟩

/-- In an indexed roster a key is a member of one group. -/
theorem Indexed.unique {roster : Roster κ γ} (hindexed : roster.Indexed) {key : κ}
    {first second : γ} (hfirst : (key, first) ∈ roster.members)
    (hsecond : (key, second) ∈ roster.members) : first = second :=
  Option.some.inj ((hindexed key first hfirst).symm.trans (hindexed key second hsecond))

section Drop

variable (roster : Roster κ γ) (key : κ)

/-- Dropping a key takes away at most the membership that the index names. -/
theorem mem_members_drop {other : κ} {group : γ} :
    (other, group) ∈ (roster.drop key).members ↔
      (other, group) ∈ roster.members ∧ ¬(other = key ∧ roster.index key = some group) := by
  unfold drop
  cases hindex : roster.index key with
  | none => simp
  | some named =>
      have hwithout : (other, group) ∈ (roster.without key named).members ↔
          (other, group) ∈ roster.members ∧ ¬(other = key ∧ some named = some group) := by
        simp only [without, Set.mem_sdiff, Set.mem_singleton_iff, Prod.mk.injEq,
          Option.some.injEq]
        constructor
        · rintro ⟨hmem, hne⟩
          exact ⟨hmem, fun h => hne ⟨h.1, h.2.symm⟩⟩
        · rintro ⟨hmem, hne⟩
          exact ⟨hmem, fun h => hne ⟨h.1, h.2.symm⟩⟩
      dsimp only
      by_cases hinhabited : roster.Inhabited named
      · rw [if_pos hinhabited]
        split
        · exact hwithout
        · exact hwithout
      · rw [if_neg hinhabited]
        constructor
        · intro hmem
          refine ⟨hmem, ?_⟩
          rintro ⟨-, hnamed⟩
          obtain rfl := Option.some.inj hnamed
          exact hinhabited ⟨other, hmem⟩
        · exact fun h => h.1

/-- A key that leads nowhere is not dropped. -/
theorem drop_of_unreached (hunreached : ∀ group, roster.index key = some group →
    ¬roster.Inhabited group) : roster.drop key = roster := by
  unfold drop
  cases hindex : roster.index key with
  | none => rfl
  | some group => exact if_neg (hunreached group hindex)

/-- The index after a drop: it forgets the key if nobody else is in the group. -/
theorem index_drop_of_inhabited {group : γ} (hindex : roster.index key = some group)
    (hinhabited : roster.Inhabited group) (other : κ) :
    (roster.drop key).index other =
      if (∃ left, (left, group) ∈ roster.members ∧ left ≠ key) ∨ other ≠ key then
        roster.index other
      else none := by
  have hleft : (roster.without key group).Inhabited group ↔
      ∃ left, (left, group) ∈ roster.members ∧ left ≠ key := by
    simp [Inhabited, without]
  unfold drop
  rw [hindex]
  dsimp only
  rw [if_pos hinhabited]
  by_cases hmore : (roster.without key group).Inhabited group
  · rw [if_pos hmore, if_pos (Or.inl (hleft.mp hmore))]
    rfl
  · rw [if_neg hmore, ← hleft]
    by_cases hother : other = key
    · simp [hmore, hother]
    · simp [hother, without]

/-- Dropping a key changes the index at that key only, and only to nothing. -/
theorem index_drop (other : κ) :
    (roster.drop key).index other = roster.index other ∨
      (other = key ∧ (roster.drop key).index other = none) := by
  unfold drop
  split
  · exact Or.inl rfl
  · split
    · split
      · exact Or.inl rfl
      · by_cases hother : other = key
        · exact Or.inr ⟨hother, by simp [hother]⟩
        · exact Or.inl (by simp [Function.update_of_ne hother])
    · exact Or.inl rfl

end Drop

/-- A key may join a group it is not a member of. -/
theorem fires_enroll {roster : Roster κ γ} {key : κ} {group : γ}
    (hnew : (key, group) ∉ roster.members) :
    machine.Fires ⟨roster, .enroll key group, roster.enroll key group, []⟩ :=
  if_neg hnew

/-- What a step does: a key joins a group it was not in, or a key is dropped. -/
theorem fires_cases {move : Transition (Roster κ γ) (Event κ γ) Unit}
    (hfires : machine.Fires move) :
    (∃ key group, move.input = .enroll key group ∧ (key, group) ∉ move.pre.members ∧
      move.post = move.pre.enroll key group) ∨
    (∃ key, move.input = .drop key ∧ move.post = move.pre.drop key) := by
  obtain ⟨pre, input, post, outputs⟩ := move
  cases input with
  | enroll key group =>
      simp only [Machine.Fires, machine] at hfires
      split at hfires
      · contradiction
      · rename_i hnew
        obtain ⟨hpost, -⟩ := Prod.mk.inj (Option.some.inj hfires)
        exact Or.inl ⟨key, group, rfl, hnew, hpost.symm⟩
  | drop key =>
      simp only [Machine.Fires, machine, Option.some.injEq, Prod.mk.injEq] at hfires
      exact Or.inr ⟨key, rfl, hfires.1.symm⟩

/-- A stray membership survives every step: its own key cannot be admitted to the group
again, and dropping the key goes where the index points. -/
theorem stray_of_fires {move : Transition (Roster κ γ) (Event κ γ) Unit} {key : κ} {group : γ}
    (hfires : machine.Fires move) (hstray : move.pre.Stray key group) :
    move.post.Stray key group := by
  obtain ⟨hmem, hindex⟩ := hstray
  rcases fires_cases hfires with ⟨other, joined, -, hnew, hpost⟩ | ⟨other, -, hpost⟩
  · rw [hpost]
    refine ⟨Set.mem_insert_of_mem _ hmem, ?_⟩
    by_cases hother : key = other
    · subst hother
      intro hnamed
      have hjoined : joined = group := by simpa [enroll] using hnamed
      exact hnew (hjoined ▸ hmem)
    · simpa [enroll, Function.update_of_ne hother] using hindex
  · rw [hpost]
    refine ⟨(mem_members_drop _ _).mpr ⟨hmem, ?_⟩, ?_⟩
    · rintro ⟨rfl, hnamed⟩
      exact hindex hnamed
    · rcases index_drop move.pre other key with hsame | ⟨-, hnone⟩
      · rwa [hsame]
      · rw [hnone]
        exact Option.some_ne_none group |>.symm

/-- A stray membership stays for ever. -/
theorem stray_of_run {start final : Roster κ γ}
    {moves : List (Transition (Roster κ γ) (Event κ γ) Unit)} {key : κ} {group : γ}
    (hrun : machine.Run start moves final) (hstray : start.Stray key group) :
    final.Stray key group :=
  hrun.invariant (fun roster => roster.Stray key group)
    (fun _ hfires hpre => stray_of_fires hfires hpre) hstray

/-- Admitting a key that is a member of no other group keeps the roster indexed, and
dropping a key always does. -/
theorem indexed_of_fires {move : Transition (Roster κ γ) (Event κ γ) Unit}
    (hfires : machine.Fires move) (hunclaimed : move.pre.Unclaimed move.input)
    (hindexed : move.pre.Indexed) : move.post.Indexed := by
  rcases fires_cases hfires with ⟨joining, joined, hinput, -, hpost⟩ | ⟨leaving, -, hpost⟩
  · rw [hinput] at hunclaimed
    rw [hpost]
    intro key group hmem
    rcases Set.mem_insert_iff.mp hmem with hnew | hold
    · obtain ⟨rfl, rfl⟩ := Prod.mk.inj hnew
      simp [enroll]
    · by_cases hkey : key = joining
      · subst hkey
        rw [hunclaimed group hold]
        simp [enroll]
      · simpa [enroll, Function.update_of_ne hkey] using hindexed key group hold
  · rw [hpost]
    intro key group hmem
    obtain ⟨hold, hnot⟩ := (mem_members_drop _ _).mp hmem
    have hindex := hindexed key group hold
    rcases index_drop move.pre leaving key with hsame | ⟨rfl, -⟩
    · rw [hsame]
      exact hindex
    · exact absurd ⟨rfl, hindex⟩ hnot

/-- Admitting a key that another group has leaves that group's membership stray. -/
theorem stray_of_claimed {move : Transition (Roster κ γ) (Event κ γ) Unit}
    (hfires : machine.Fires move) (hclaimed : ¬move.pre.Unclaimed move.input) :
    ∃ key group, move.post.Stray key group := by
  rcases fires_cases hfires with ⟨key, joined, hinput, -, hpost⟩ | ⟨key, hinput, -⟩
  · rw [hinput] at hclaimed
    simp only [Unclaimed, not_forall] at hclaimed
    obtain ⟨other, hmem, hne⟩ := hclaimed
    refine ⟨key, other, ?_⟩
    rw [hpost]
    refine ⟨Set.mem_insert_of_mem _ hmem, ?_⟩
    intro hnamed
    exact hne (by simpa [enroll] using hnamed.symm)
  · rw [hinput] at hclaimed
    exact absurd trivial hclaimed

/-- After a run from an indexed roster the index names every membership exactly when no
step admitted a key that another group had. -/
theorem indexed_iff {start final : Roster κ γ}
    {moves : List (Transition (Roster κ γ) (Event κ γ) Unit)}
    (hrun : machine.Run start moves final) (hstart : start.Indexed) :
    final.Indexed ↔ ∀ move ∈ moves, move.pre.Unclaimed move.input := by
  constructor
  · intro hfinal move hmem
    by_contra hclaimed
    obtain ⟨earlier, later, rfl⟩ := List.append_of_mem hmem
    obtain ⟨-, hfires, hlater⟩ := hrun.split_at
    obtain ⟨key, group, hstray⟩ := stray_of_claimed hfires hclaimed
    exact indexed_iff_forall_not_stray.mp hfinal key group (stray_of_run hlater hstray)
  · intro hunclaimed
    have hstep : ∀ move : Transition (Roster κ γ) (Event κ γ) Unit, machine.Fires move →
        move.pre.Unclaimed move.input → move.pre.Indexed → move.post.Indexed :=
      fun _ hfires hallowed hpre => indexed_of_fires hfires hallowed hpre
    exact hrun.invariant_of_steps Indexed hstep hunclaimed hstart

end Roster
end Foundation
