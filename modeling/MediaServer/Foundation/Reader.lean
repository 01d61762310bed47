import Mathlib.Data.List.TakeWhile

/-!
# Readers

A reader takes a value off the front of a text or fails, and then another one may be
tried from the same place.  A reader that can take no `stop` does not look past the
first one: it reads a text with a `stop` behind it as it reads the text alone
(`StopsAt`).  This holds of every reader put together from such readers, so it
is shown along the text of a grammar, not along its inputs.
-/

namespace Foundation

variable {σ α β : Type}

/-- A reader of texts over `σ`. -/
abbrev Reader (σ : Type) := StateT (List σ) Option

namespace Reader

/-- One symbol that is accepted. -/
def item (accepts : σ → Bool) : Reader σ σ
  | [] => none
  | first :: rest => if accepts first then some (first, rest) else none

/-- As many symbols as are accepted. -/
def span (accepts : σ → Bool) : Reader σ (List σ) := fun text =>
  some (text.takeWhile accepts, text.dropWhile accepts)

/-- The value of a text that is read to its end. -/
def whole (reader : Reader σ α) (text : List σ) : Option α :=
  match reader.run text with
  | some (value, []) => some value
  | _ => none

/-- A `stop` and what is behind it make no difference to what is read before it. -/
def StopsAt (stop : σ) (reader : Reader σ α) : Prop :=
  ∀ text rest, reader.run (text ++ stop :: rest) =
    (reader.run text).map (Prod.map id (· ++ stop :: rest))

/-! ## What a reader does -/

theorem run_item_nil (accepts : σ → Bool) : (item accepts).run [] = none := rfl

theorem run_item_cons (accepts : σ → Bool) (first : σ) (rest : List σ) :
    (item accepts).run (first :: rest) = if accepts first then some (first, rest) else none := rfl

theorem run_span (accepts : σ → Bool) (text : List σ) :
    (span accepts).run text = some (text.takeWhile accepts, text.dropWhile accepts) := rfl

theorem run_orElse (first second : Reader σ α) (text : List σ) :
    (first <|> second).run text = (first.run text <|> second.run text) := rfl

theorem whole_eq_some_iff {reader : Reader σ α} {text : List σ} {value : α} :
    whole reader text = some value ↔ reader.run text = some (value, []) := by
  unfold whole
  split
  · rename_i other hrun
    simp [hrun]
  · rename_i hother
    constructor
    · intro hnone
      contradiction
    · intro hrun
      exact absurd hrun (hother value)

/-! ## Readers that stop -/

section StopsAt

variable {stop : σ}

/-- A text that is read to its end has no `stop` in it. -/
theorem StopsAt.not_mem {reader : Reader σ α} (hreader : StopsAt stop reader) {text : List σ}
    (hwhole : (whole reader text).isSome = true) : stop ∉ text := by
  intro hmem
  obtain ⟨before, rest, rfl⟩ := List.append_of_mem hmem
  obtain ⟨value, hvalue⟩ := Option.isSome_iff_exists.mp hwhole
  rw [whole_eq_some_iff, hreader before rest] at hvalue
  cases hbefore : reader.run before with
  | none => simp [hbefore] at hvalue
  | some result =>
      rw [hbefore, Option.map_some] at hvalue
      have hleft := congrArg Prod.snd (Option.some.inj hvalue)
      simp at hleft

theorem stopsAt_pure (value : α) : StopsAt stop (pure value : Reader σ α) :=
  fun _ _ => rfl

theorem stopsAt_failure : StopsAt stop (failure : Reader σ α) :=
  fun _ _ => rfl

theorem StopsAt.bind {reader : Reader σ α} {next : α → Reader σ β}
    (hreader : StopsAt stop reader) (hnext : ∀ value, StopsAt stop (next value)) :
    StopsAt stop (reader >>= next) := by
  intro text rest
  rw [StateT.run_bind, StateT.run_bind, hreader text rest]
  cases reader.run text with
  | none => rfl
  | some result => exact hnext result.1 result.2 rest

theorem StopsAt.orElse {first second : Reader σ α} (hfirst : StopsAt stop first)
    (hsecond : StopsAt stop second) : StopsAt stop (first <|> second) := by
  intro text rest
  rw [run_orElse, run_orElse, hfirst text rest, hsecond text rest]
  cases first.run text <;> rfl

theorem stopsAt_ite {condition : Prop} [Decidable condition] {first second : Reader σ α}
    (hfirst : StopsAt stop first) (hsecond : StopsAt stop second) :
    StopsAt stop (if condition then first else second) := by
  split
  · exact hfirst
  · exact hsecond

theorem stopsAt_item {accepts : σ → Bool} (hstop : accepts stop = false) :
    StopsAt stop (item accepts) := by
  intro text rest
  cases text with
  | nil => rw [List.nil_append, run_item_cons, hstop]; rfl
  | cons first more =>
      rw [List.cons_append, run_item_cons, run_item_cons]
      cases accepts first <;> rfl

theorem stopsAt_span {accepts : σ → Bool} (hstop : accepts stop = false) :
    StopsAt stop (span accepts) := by
  intro text rest
  rw [run_span, run_span, Option.map_some, Prod.map_apply, id]
  congr 2
  · induction text with
    | nil => rw [List.nil_append, List.takeWhile_cons, hstop]; rfl
    | cons first more ih =>
        rw [List.cons_append, List.takeWhile_cons, List.takeWhile_cons, ih]
  · induction text with
    | nil => rw [List.nil_append, List.dropWhile_cons, hstop]; rfl
    | cons first more ih =>
        rw [List.cons_append, List.dropWhile_cons, List.dropWhile_cons, ih]
        cases accepts first <;> rfl

end StopsAt

end Reader
end Foundation
