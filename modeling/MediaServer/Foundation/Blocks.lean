import Mathlib.Data.List.Basic

/-!
# Streams cut into blocks of one size

The complete blocks of a stream, and the residue that does not fill another block.
Both are known from a part of the stream as soon as the residue of the part is: that
is `complete_append` and `residue_append`, and it makes a device that is given a stream
piece by piece, keeps the residue and processes complete blocks independent of how the
stream is cut into pieces.  `absorb` is what such a device does with the blocks.
-/

namespace Foundation
namespace Blocks

variable {α β σ ε : Type*} {size : Nat} {stream : List α}

/-- The complete blocks at the front of a stream. -/
def complete (size : Nat) (stream : List α) : List (List α) :=
  (List.range (stream.length / size)).map fun i => (stream.drop (i * size)).take size

/-- What follows the complete blocks. -/
def residue (size : Nat) (stream : List α) : List α :=
  stream.drop (stream.length / size * size)

@[simp] theorem length_complete (size : Nat) (stream : List α) :
    (complete size stream).length = stream.length / size := by
  simp [complete]

@[simp] theorem length_residue (size : Nat) (stream : List α) :
    (residue size stream).length = stream.length % size := by
  rw [residue, List.length_drop, Nat.mul_comm, Nat.mod_eq_sub_mul_div]

/-- A stream is shorter than a block, or begins with one. -/
theorem cases_on_block (hpos : 0 < size) {motive : List α → Prop}
    (short : ∀ stream : List α, stream.length < size → motive stream)
    (long : ∀ stream : List α, size ≤ stream.length → motive (stream.drop size) → motive stream)
    (stream : List α) : motive stream := by
  by_cases hlong : size ≤ stream.length
  · exact long stream hlong (cases_on_block hpos short long (stream.drop size))
  · exact short stream (Nat.lt_of_not_le hlong)
termination_by stream.length
decreasing_by
  rw [List.length_drop]
  omega

theorem complete_of_lt (hshort : stream.length < size) : complete size stream = [] := by
  rw [complete, Nat.div_eq_of_lt hshort]
  rfl

theorem residue_of_lt (hshort : stream.length < size) : residue size stream = stream := by
  rw [residue, Nat.div_eq_of_lt hshort, Nat.zero_mul, List.drop_zero]

theorem complete_of_le (hpos : 0 < size) (hlong : size ≤ stream.length) :
    complete size stream = stream.take size :: complete size (stream.drop size) := by
  have hcount : stream.length / size = (stream.drop size).length / size + 1 := by
    rw [List.length_drop, Nat.div_eq, if_pos ⟨hpos, hlong⟩]
  rw [complete, hcount, List.range_succ_eq_map, List.map_cons, List.map_map, complete]
  congr 1
  · rw [Nat.zero_mul, List.drop_zero]
  · apply List.map_congr_left
    intro i _
    rw [Function.comp_apply, List.drop_drop, Nat.succ_mul, Nat.add_comm]

theorem residue_of_le (hpos : 0 < size) (hlong : size ≤ stream.length) :
    residue size stream = residue size (stream.drop size) := by
  have hcount : stream.length / size = (stream.drop size).length / size + 1 := by
    rw [List.length_drop, Nat.div_eq, if_pos ⟨hpos, hlong⟩]
  rw [residue, residue, List.drop_drop, hcount, Nat.succ_mul, Nat.add_comm]

/-- All blocks are of the size. -/
theorem length_of_mem_complete {block : List α} (hmem : block ∈ complete size stream) :
    block.length = size := by
  obtain ⟨i, hi, rfl⟩ := List.mem_map.mp hmem
  have hblock : (i + 1) * size ≤ stream.length / size * size :=
    Nat.mul_le_mul_right size (List.mem_range.mp hi)
  have hstream : stream.length / size * size ≤ stream.length := Nat.div_mul_le_self _ _
  rw [Nat.succ_mul] at hblock
  rw [List.length_take, List.length_drop]
  omega

/-- The blocks are consecutive, and nothing is lost. -/
theorem flatten_complete (hpos : 0 < size) (stream : List α) :
    (complete size stream).flatten ++ residue size stream = stream := by
  induction stream using cases_on_block hpos with
  | short stream hshort => rw [complete_of_lt hshort, residue_of_lt hshort]; rfl
  | long stream hlong ih =>
      rw [complete_of_le hpos hlong, residue_of_le hpos hlong, List.flatten_cons,
        List.append_assoc, ih, List.take_append_drop]

theorem complete_append (hpos : 0 < size) (first second : List α) :
    complete size (first ++ second) =
      complete size first ++ complete size (residue size first ++ second) := by
  induction first using cases_on_block hpos with
  | short first hshort => rw [complete_of_lt hshort, residue_of_lt hshort, List.nil_append]
  | long first hlong ih =>
      have hboth : size ≤ (first ++ second).length := by
        rw [List.length_append]
        omega
      rw [complete_of_le hpos hboth, complete_of_le hpos hlong, residue_of_le hpos hlong,
        List.take_append_of_le_length hlong, List.drop_append_of_le_length hlong, ih,
        List.cons_append]

theorem residue_append (hpos : 0 < size) (first second : List α) :
    residue size (first ++ second) = residue size (residue size first ++ second) := by
  induction first using cases_on_block hpos with
  | short first hshort => rw [residue_of_lt hshort]
  | long first hlong ih =>
      have hboth : size ≤ (first ++ second).length := by
        rw [List.length_append]
        omega
      rw [residue_of_le hpos hboth, residue_of_le hpos hlong,
        List.drop_append_of_le_length hlong, ih]

/-! ## Processing blocks -/

variable {process : σ → List α → Except ε (List β) × σ}

/-- Blocks are processed one after the other until one fails. -/
def absorb (process : σ → List α → Except ε (List β) × σ) :
    σ → List (List α) → Except ε (List β) × σ
  | state, [] => (.ok [], state)
  | state, block :: rest =>
      match process state block with
      | (.error reason, next) => (.error reason, next)
      | (.ok output, next) =>
          match absorb process next rest with
          | (.error reason, last) => (.error reason, last)
          | (.ok outputs, last) => (.ok (output ++ outputs), last)

theorem absorb_append {state next last : σ} {first second : List (List α)}
    {output further : List β} (hfirst : absorb process state first = (.ok output, next))
    (hsecond : absorb process next second = (.ok further, last)) :
    absorb process state (first ++ second) = (.ok (output ++ further), last) := by
  induction first generalizing state output with
  | nil =>
      obtain ⟨houtput, rfl⟩ := Prod.mk.inj hfirst
      obtain rfl := Except.ok.inj houtput
      exact hsecond
  | cons block rest ih =>
      rw [absorb] at hfirst
      rw [List.cons_append, absorb]
      split at hfirst
      · simp at hfirst
      · split at hfirst
        · simp at hfirst
        · rename_i hrest
          obtain ⟨houtput, rfl⟩ := Prod.mk.inj hfirst
          obtain rfl := Except.ok.inj houtput
          rw [ih hrest, List.append_assoc]

/-- Blocks that can all be processed are all processed. -/
theorem absorb_succeeds {blocks : List (List α)}
    (hprocess : ∀ state, ∀ block ∈ blocks, ∃ output next,
      process state block = (.ok output, next)) (state : σ) :
    ∃ output last, absorb process state blocks = (.ok output, last) := by
  induction blocks generalizing state with
  | nil => exact ⟨[], state, rfl⟩
  | cons block rest ih =>
      obtain ⟨output, next, hblock⟩ := hprocess state block List.mem_cons_self
      obtain ⟨outputs, last, hrest⟩ :=
        ih (fun state other hmem => hprocess state other (List.mem_cons_of_mem _ hmem)) next
      exact ⟨output ++ outputs, last, by rw [absorb, hblock]; dsimp only; rw [hrest]⟩

end Blocks
end Foundation
