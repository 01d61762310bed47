import Mathlib.Logic.Relation

/-!
# Frames

Most of what a method does to its state is said by what it leaves alone.  A `Frame` is a
preorder on states, "the second may come after the first".  An invariant is a frame
(`Frame.keeping`), and so is a view that does not change (`Frame.fixing`), any number of
writes of given kinds (`Frame.star`), and a table whose entries stay in a frame
(`Frame.pointwise`).

When a method only does writes of given kinds, every frame that admits these writes admits
the method (`Frame.rel_of_star`).
-/

namespace Foundation

/-- What a state may become: a preorder on states. -/
structure Frame (σ : Type) where
  rel : σ → σ → Prop
  refl : ∀ state, rel state state
  trans : ∀ {first second third}, rel first second → rel second third → rel first third

namespace Frame

variable {σ τ : Type}

/-- States between which a property is kept. -/
def keeping (Inv : σ → Prop) : Frame σ where
  rel before after := Inv before → Inv after
  refl _ := id
  trans hfirst hsecond := hsecond ∘ hfirst

/-- States that look the same. -/
def fixing {ω : Sort*} (view : σ → ω) : Frame σ where
  rel before after := view after = view before
  refl _ := rfl
  trans hfirst hsecond := hsecond.trans hfirst

/-- A frame on a part of the state. -/
def onPart (part : σ → τ) (frame : Frame τ) : Frame σ where
  rel before after := frame.rel (part before) (part after)
  refl state := frame.refl (part state)
  trans := frame.trans

@[simp] theorem rel_onPart {part : σ → τ} {frame : Frame τ} {before after : σ} :
    (frame.onPart part).rel before after ↔ frame.rel (part before) (part after) := Iff.rfl

/-- Any number of steps of one kind. -/
def star (Step : σ → σ → Prop) : Frame σ where
  rel := Relation.ReflTransGen Step
  refl _ := .refl
  trans := .trans

/-- What the entries of a table may become: none is made, none is lost, and each stays in
a frame. -/
def pointwise {ι : Type} (frame : Frame σ) : Frame (ι → Option σ) where
  rel before after := ∀ index, Option.Rel frame.rel (before index) (after index)
  refl table index := by
    cases table index with
    | none => exact .none
    | some entry => exact .some (frame.refl entry)
  trans {first second third} hfirst hsecond index := by
    have hbefore := hfirst index
    have hafter := hsecond index
    revert hbefore hafter
    generalize first index = a
    generalize second index = b
    generalize third index = c
    rintro (⟨hfirst⟩ | _) (⟨hsecond⟩ | _)
    · exact .some (frame.trans hfirst hsecond)
    · exact .none

/-- A frame that admits every step admits any number of them. -/
theorem rel_of_star {Step : σ → σ → Prop} (frame : Frame σ) {before after : σ}
    (hstep : ∀ state next, Step state next → frame.rel state next)
    (hstar : (star Step).rel before after) : frame.rel before after := by
  induction hstar with
  | refl => exact frame.refl before
  | tail _ hlast ih => exact frame.trans ih (hstep _ _ hlast)

/-- A property that every step keeps, any number of steps keeps. -/
theorem keep_of_star {Step : σ → σ → Prop} {before after : σ} (Inv : σ → Prop)
    (hstep : ∀ state next, Step state next → Inv state → Inv next)
    (hstar : (star Step).rel before after) (hbefore : Inv before) : Inv after :=
  rel_of_star (keeping Inv) hstep hstar hbefore

/-- A view that no step changes. -/
theorem view_of_star {Step : σ → σ → Prop} {before after : σ} {ω : Sort*} (view : σ → ω)
    (hstep : ∀ state next, Step state next → view next = view state)
    (hstar : (star Step).rel before after) : view after = view before :=
  rel_of_star (fixing view) hstep hstar

section Pointwise

variable {ι : Type} {frame : Frame σ} {before after : ι → Option σ} {index : ι} {entry : σ}

theorem pointwise_some (hrel : (pointwise frame).rel before after)
    (hbefore : before index = some entry) :
    ∃ next, after index = some next ∧ frame.rel entry next := by
  have hindex := hrel index
  rw [hbefore] at hindex
  generalize hnext : after index = next at hindex
  obtain ⟨hentry⟩ | _ := hindex
  exact ⟨_, rfl, hentry⟩

theorem pointwise_some' (hrel : (pointwise frame).rel before after)
    (hafter : after index = some entry) :
    ∃ earlier, before index = some earlier ∧ frame.rel earlier entry := by
  have hindex := hrel index
  rw [hafter] at hindex
  generalize hearlier : before index = earlier at hindex
  obtain ⟨hentry⟩ | _ := hindex
  exact ⟨_, rfl, hentry⟩

theorem pointwise_none (hrel : (pointwise frame).rel before after) :
    after index = none ↔ before index = none := by
  have hindex := hrel index
  generalize before index = earlier at hindex
  generalize after index = next at hindex
  cases hindex <;> simp

/-- A table in which one entry was replaced. -/
theorem pointwise_of_update (changed : ι) (hchanged : ∀ entry, before changed = some entry →
      ∃ next, after changed = some next ∧ frame.rel entry next)
    (hnone : before changed = none → after changed = none)
    (hother : ∀ other, other ≠ changed → after other = before other) :
    (pointwise frame).rel before after := by
  intro index
  by_cases hindex : index = changed
  · subst hindex
    cases hbefore : before index with
    | none =>
        rw [hnone hbefore]
        exact .none
    | some entry =>
        obtain ⟨next, hnext, hrel⟩ := hchanged entry hbefore
        rw [hnext]
        exact .some hrel
  · rw [hother index hindex]
    exact (pointwise frame).refl before index

end Pointwise

end Frame

end Foundation
