import MediaServer.Foundation.Fifo

/-!
# Channels whose receiving half can be dropped

What was not read from a channel when its receiving half is dropped is dropped with
it, and nothing is taken from then on.  The three parts `read`, `buffered` and
`dropped` are together everything the channel ever took, in the order of the sends.
-/

namespace Foundation

/-- The receiving half of a channel. -/
inductive Receiver (α : Type*)
  | live (channel : Fifo α)
  | closed (read dropped : List α)
  deriving DecidableEq

namespace Receiver

variable {α : Type*}

/-- A channel nothing was sent on. -/
def empty : Receiver α := live Fifo.empty

/-- What was read from the channel. -/
def read : Receiver α → List α
  | live channel => channel.taken
  | closed read _ => read

/-- What waits in the channel. -/
def buffered : Receiver α → List α
  | live channel => channel.waiting
  | closed _ _ => []

/-- What waited in the channel when the receiving half was dropped. -/
def dropped : Receiver α → List α
  | live _ => []
  | closed _ dropped => dropped

/-- Everything the channel ever took. -/
def received (receiver : Receiver α) : List α :=
  receiver.read ++ receiver.buffered ++ receiver.dropped

/-- There is still a receiving half. -/
def isLive : Receiver α → Bool
  | live _ => true
  | closed _ _ => false

/-- There is a receiving half, and less waits than the capacity of the channel. -/
def accepts (receiver : Receiver α) (capacity : Nat) : Bool :=
  receiver.isLive && decide (receiver.buffered.length < capacity)

/-- Send on an unbounded channel; without a receiving half the element is lost. -/
def send (receiver : Receiver α) (element : α) : Receiver α :=
  match receiver with
  | live channel => live (channel.push element)
  | closed read dropped => closed read dropped

/-- Send on a bounded channel that has room; otherwise the element is lost. -/
def trySend (receiver : Receiver α) (capacity : Nat) (element : α) : Receiver α :=
  if receiver.accepts capacity then receiver.send element else receiver

/-- Receive the oldest waiting element, if any. -/
def tryRecv : Receiver α → Option (α × Receiver α)
  | live channel => channel.pop.map fun popped => (popped.1, live popped.2)
  | closed _ _ => none

/-- Drop the receiving half. -/
def close : Receiver α → Receiver α
  | live channel => closed channel.taken channel.waiting
  | closed read dropped => closed read dropped

@[simp] theorem read_empty : (empty : Receiver α).read = [] := rfl

@[simp] theorem buffered_empty : (empty : Receiver α).buffered = [] := rfl

@[simp] theorem dropped_empty : (empty : Receiver α).dropped = [] := rfl

@[simp] theorem isLive_empty : (empty : Receiver α).isLive = true := rfl

theorem dropped_of_isLive {receiver : Receiver α} (hlive : receiver.isLive = true) :
    receiver.dropped = [] := by
  cases receiver with
  | live channel => rfl
  | closed read dropped => contradiction

theorem buffered_of_not_isLive {receiver : Receiver α} (hclosed : receiver.isLive = false) :
    receiver.buffered = [] := by
  cases receiver with
  | live channel => contradiction
  | closed read dropped => rfl

section Send

variable (receiver : Receiver α) (element : α)

@[simp] theorem read_send : (receiver.send element).read = receiver.read := by
  cases receiver <;> rfl

@[simp] theorem dropped_send : (receiver.send element).dropped = receiver.dropped := by
  cases receiver <;> rfl

@[simp] theorem isLive_send : (receiver.send element).isLive = receiver.isLive := by
  cases receiver <;> rfl

theorem received_send :
    (receiver.send element).received =
      receiver.received ++ if receiver.isLive then [element] else [] := by
  cases receiver <;> simp [send, received, read, buffered, dropped, isLive]

theorem received_foldl_send (elements : List α) (hlive : receiver.isLive = true) :
    (elements.foldl send receiver).received = receiver.received ++ elements ∧
      (elements.foldl send receiver).isLive = true := by
  induction elements generalizing receiver with
  | nil => exact ⟨(List.append_nil _).symm, hlive⟩
  | cons first rest ih =>
      obtain ⟨hreceived, hstill⟩ := ih (receiver.send first) (by rw [isLive_send, hlive])
      refine ⟨?_, hstill⟩
      rw [List.foldl_cons, hreceived, received_send, if_pos hlive, List.append_assoc]
      rfl

theorem received_trySend (capacity : Nat) :
    (receiver.trySend capacity element).received =
      receiver.received ++ if receiver.accepts capacity then [element] else [] := by
  unfold trySend
  split
  · rename_i haccepts
    have hlive : receiver.isLive = true := by simp_all [accepts]
    rw [received_send, if_pos hlive]
  · simp

end Send

section Close

variable (receiver : Receiver α)

@[simp] theorem read_close : receiver.close.read = receiver.read := by
  cases receiver <;> rfl

@[simp] theorem buffered_close : receiver.close.buffered = [] := by
  cases receiver <;> rfl

@[simp] theorem isLive_close : receiver.close.isLive = false := by
  cases receiver <;> rfl

theorem dropped_close (hlive : receiver.isLive = true) :
    receiver.close.dropped = receiver.buffered := by
  cases receiver with
  | live channel => rfl
  | closed read dropped => contradiction

@[simp] theorem received_close : receiver.close.received = receiver.received := by
  cases receiver <;> simp [close, received, read, buffered, dropped]

end Close

section Receive

variable {receiver next : Receiver α} {element : α}

/-- Receiving moves the head of what waits to what was read. -/
theorem tryRecv_eq_some (hrecv : receiver.tryRecv = some (element, next)) :
    next.read = receiver.read ++ [element] ∧ receiver.buffered = element :: next.buffered ∧
      next.dropped = receiver.dropped ∧ receiver.isLive = true ∧ next.isLive = true := by
  cases receiver with
  | closed read dropped => simp [tryRecv] at hrecv
  | live channel =>
      obtain ⟨⟨found, rest⟩, hpop, hpair⟩ := Option.map_eq_some_iff.mp hrecv
      obtain ⟨rfl, rfl⟩ := Prod.mk.inj hpair
      obtain ⟨waiting, hwaiting, rfl⟩ := Fifo.pop_eq_some_iff.mp hpop
      exact ⟨rfl, hwaiting, rfl, rfl, rfl⟩

/-- Receiving changes nothing about what the channel took. -/
theorem received_tryRecv (hrecv : receiver.tryRecv = some (element, next)) :
    next.received = receiver.received := by
  obtain ⟨hread, hbuffered, hdropped, -, -⟩ := tryRecv_eq_some hrecv
  simp [received, hread, hbuffered, hdropped]

end Receive

end Receiver
end Foundation
