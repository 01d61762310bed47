import Mathlib.Data.List.Basic

/-!
# First-in first-out channels with their history

A channel keeps apart what its reader has taken and what still waits.  Both
lists only ever exchange elements at their common border, so `taken ++ waiting`
is the sequence of everything ever sent, in the order of the sends.  Statements
about the order of sends are statements about `history`; statements about what
the reader has already seen are statements about `taken`.
-/

namespace Foundation

/-- A first-in first-out channel. -/
structure Fifo (α : Type*) where
  /-- what the reader has received, oldest first -/
  taken : List α
  /-- what it has not received yet, oldest first -/
  waiting : List α
  deriving DecidableEq

namespace Fifo

variable {α : Type*}

/-- A channel nothing was sent on. -/
def empty : Fifo α := ⟨[], []⟩

/-- Everything ever sent, in order. -/
def history (channel : Fifo α) : List α := channel.taken ++ channel.waiting

/-- Send one element. -/
def push (channel : Fifo α) (element : α) : Fifo α :=
  { channel with waiting := channel.waiting ++ [element] }

/-- Send a list of elements, first element first. -/
def pushAll (channel : Fifo α) (elements : List α) : Fifo α :=
  { channel with waiting := channel.waiting ++ elements }

/-- Receive the oldest waiting element. -/
def pop (channel : Fifo α) : Option (α × Fifo α) :=
  match channel.waiting with
  | [] => none
  | element :: rest => some (element, ⟨channel.taken ++ [element], rest⟩)

@[simp] theorem history_empty : (empty : Fifo α).history = [] := rfl

@[simp] theorem taken_empty : (empty : Fifo α).taken = [] := rfl

@[simp] theorem waiting_empty : (empty : Fifo α).waiting = [] := rfl

@[simp] theorem taken_push (channel : Fifo α) (element : α) :
    (channel.push element).taken = channel.taken := rfl

@[simp] theorem waiting_push (channel : Fifo α) (element : α) :
    (channel.push element).waiting = channel.waiting ++ [element] := rfl

@[simp] theorem history_push (channel : Fifo α) (element : α) :
    (channel.push element).history = channel.history ++ [element] := by
  simp [history]

@[simp] theorem taken_pushAll (channel : Fifo α) (elements : List α) :
    (channel.pushAll elements).taken = channel.taken := rfl

@[simp] theorem waiting_pushAll (channel : Fifo α) (elements : List α) :
    (channel.pushAll elements).waiting = channel.waiting ++ elements := rfl

@[simp] theorem history_pushAll (channel : Fifo α) (elements : List α) :
    (channel.pushAll elements).history = channel.history ++ elements := by
  simp [history]

/-- The reader receives the head of what waits. -/
theorem pop_eq_some_iff {channel next : Fifo α} {element : α} :
    channel.pop = some (element, next) ↔
      ∃ rest, channel.waiting = element :: rest ∧
        next = ⟨channel.taken ++ [element], rest⟩ := by
  obtain ⟨taken, waiting⟩ := channel
  cases waiting with
  | nil => simp [pop]
  | cons head tail =>
      simp only [pop, Option.some.injEq, Prod.mk.injEq, List.cons.injEq]
      constructor
      · rintro ⟨rfl, rfl⟩
        exact ⟨tail, ⟨rfl, rfl⟩, rfl⟩
      · rintro ⟨rest, ⟨rfl, rfl⟩, rfl⟩
        exact ⟨rfl, rfl⟩

theorem pop_eq_none_iff {channel : Fifo α} : channel.pop = none ↔ channel.waiting = [] := by
  obtain ⟨taken, waiting⟩ := channel
  cases waiting <;> simp [pop]

/-- What is received was waiting. -/
theorem mem_waiting_of_pop {channel next : Fifo α} {element : α}
    (hpop : channel.pop = some (element, next)) : element ∈ channel.waiting := by
  obtain ⟨rest, hwaiting, -⟩ := pop_eq_some_iff.mp hpop
  rw [hwaiting]
  exact List.mem_cons_self

/-- What still waits after a receive was waiting before. -/
theorem mem_waiting_of_mem_pop {channel next : Fifo α} {element other : α}
    (hpop : channel.pop = some (element, next)) (hother : other ∈ next.waiting) :
    other ∈ channel.waiting := by
  obtain ⟨rest, hwaiting, rfl⟩ := pop_eq_some_iff.mp hpop
  rw [hwaiting]
  exact List.mem_cons_of_mem _ hother

/-- Nothing waits after the only waiting element is received. -/
theorem waiting_pop_of_single {channel next : Fifo α} {element : α}
    (hpop : channel.pop = some (element, next)) (hsingle : channel.waiting.length ≤ 1) :
    next.waiting = [] := by
  obtain ⟨rest, hwaiting, rfl⟩ := pop_eq_some_iff.mp hpop
  rw [hwaiting, List.length_cons] at hsingle
  show rest = []
  exact List.length_eq_zero_iff.mp (by omega)

/-- Receiving changes nothing about what was sent. -/
theorem history_pop {channel next : Fifo α} {element : α}
    (hpop : channel.pop = some (element, next)) : next.history = channel.history := by
  obtain ⟨rest, hwaiting, rfl⟩ := pop_eq_some_iff.mp hpop
  simp [history, hwaiting]

theorem taken_pop {channel next : Fifo α} {element : α}
    (hpop : channel.pop = some (element, next)) : next.taken = channel.taken ++ [element] := by
  obtain ⟨rest, hwaiting, rfl⟩ := pop_eq_some_iff.mp hpop
  rfl

end Fifo
end Foundation
