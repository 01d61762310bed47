import Mathlib.Data.List.Basic
import Mathlib.Algebra.Group.Nat.Defs

/-!
# Operations that may panic

Indexing, slicing and the arithmetic of a 64-bit `usize`, with the panics of checked
code, and for each the condition under which it does not panic.
-/

namespace Foundation

/-- Why a checked operation panics. -/
inductive Panic
  | index
  | slice
  | arithmetic
  deriving DecidableEq

namespace Checked

variable {α : Type*}

/-- `data[position]` -/
def get (data : List α) (position : Nat) : Except Panic α :=
  match data[position]? with
  | some element => .ok element
  | none => .error .index

/-- `data[start..stop]` -/
def slice (data : List α) (start stop : Nat) : Except Panic (List α) :=
  if start ≤ stop ∧ stop ≤ data.length then .ok ((data.drop start).take (stop - start))
  else .error .slice

/-- A value computed by additions and multiplications of `usize`. -/
def usize (value : Nat) : Except Panic Nat :=
  if value < 2 ^ 64 then .ok value else .error .arithmetic

/-- A difference of `usize`. -/
def sub (left right : Nat) : Except Panic Nat :=
  if right ≤ left then .ok (left - right) else .error .arithmetic

theorem get_of_lt {data : List α} {position : Nat} (hposition : position < data.length) :
    get data position = .ok data[position] := by
  rw [get, List.getElem?_eq_getElem hposition]

theorem slice_of_le {data : List α} {start stop : Nat} (hstart : start ≤ stop)
    (hstop : stop ≤ data.length) :
    slice data start stop = .ok ((data.drop start).take (stop - start)) :=
  if_pos ⟨hstart, hstop⟩

theorem usize_of_lt {value : Nat} (hvalue : value < 2 ^ 64) : usize value = .ok value :=
  if_pos hvalue

theorem sub_of_le {left right : Nat} (hle : right ≤ left) : sub left right = .ok (left - right) :=
  if_pos hle

end Checked
end Foundation
