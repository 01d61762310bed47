import MediaServer.Foundation.Fifo
import MediaServer.Foundation.Machine
import MediaServer.Transcription.Command

/-!
# Receiving the results of a SimulStreaming client

The reader thread of `SimulStreamingClient` sends segments on a channel; `try_recv`,
`recv` and `recv_timeout` receive them, and `has_results` says whether one waits.  It
finds out by receiving it.

* `Counted`: what arrived was returned, waits, or was lost to `has_results`;
* `returned_prefix_iff`: nothing is lost exactly if `has_results` is only called while
  nothing waits.
-/

namespace MediaServer
namespace Transcription

open Foundation

/-- The receiving side of a `SimulStreamingClient`. -/
structure ResultReceiver where
  /-- `tx` and `result_rx` -/
  channel : Fifo TranscriptionSegment
  /-- the reader thread, and with it `tx`, is there -/
  connected : Bool

namespace ResultReceiver

/-- A client that has just connected. -/
def new : ResultReceiver := ⟨Fifo.empty, true⟩

/-- `try_recv` -/
def tryRecv (receiver : ResultReceiver) : ResultReceiver × Option TranscriptionSegment :=
  match receiver.channel.pop with
  | none => (receiver, none)
  | some (segment, channel) => ({ receiver with channel := channel }, some segment)

/-- `recv`; `none` while it blocks. -/
def recv (receiver : ResultReceiver) : Option (ResultReceiver × Option TranscriptionSegment) :=
  if receiver.channel.waiting = [] ∧ receiver.connected then none else some receiver.tryRecv

/-- `recv_timeout`, at the moment it returns. -/
def recvTimeout (receiver : ResultReceiver) : ResultReceiver × Option TranscriptionSegment :=
  receiver.tryRecv

/-- `has_results`: `!self.result_rx.try_recv().is_err()` -/
def hasResults (receiver : ResultReceiver) : ResultReceiver × Bool :=
  let (receiver, received) := receiver.tryRecv
  (receiver, received.isSome)

/-- The calls that receive a segment. -/
inductive ReceiveCall
  | tryRecv
  | recv
  | recvTimeout
  deriving DecidableEq

/-- What happens to the channel. -/
inductive ReceiverInput
  /-- the reader thread sends a segment -/
  | arrive (segment : TranscriptionSegment)
  /-- the reader thread ends -/
  | readerExits
  | hasResults
  | receive (call : ReceiveCall)
  deriving DecidableEq

/-- What a call returns. -/
inductive Answer
  | pending (answer : Bool)
  | segment (received : Option TranscriptionSegment)
  deriving DecidableEq

/-- One step of the reader thread or of the client. -/
def step (receiver : ResultReceiver) :
    ReceiverInput → Option (ResultReceiver × List Answer)
  | .arrive segment =>
      if receiver.connected then
        some ({ receiver with channel := receiver.channel.push segment }, [])
      else none
  | .readerExits =>
      if receiver.connected then some ({ receiver with connected := false }, []) else none
  | .hasResults =>
      let (receiver, answer) := receiver.hasResults
      some (receiver, [.pending answer])
  | .receive .tryRecv =>
      let (receiver, received) := receiver.tryRecv
      some (receiver, [.segment received])
  | .receive .recv => receiver.recv.map fun (receiver, received) => (receiver, [.segment received])
  | .receive .recvTimeout =>
      let (receiver, received) := receiver.recvTimeout
      some (receiver, [.segment received])

/-- The channel under every interleaving of arrivals and calls. -/
def machine : Machine ResultReceiver ReceiverInput Answer where
  step := step

/-- A step with the channel before and after it. -/
abbrev ReceiverMove := Transition ResultReceiver ReceiverInput Answer

/-- What a step can do. -/
inductive ReceiverStep (move : ReceiverMove) : Prop
  | arrived (segment : TranscriptionSegment) (hinput : move.input = .arrive segment)
      (hchannel : move.post.channel = move.pre.channel.push segment) (houtputs : move.outputs = [])
  | exited (hinput : move.input = .readerExits) (hchannel : move.post.channel = move.pre.channel)
      (houtputs : move.outputs = [])
  | asked (hinput : move.input = .hasResults) (hpost : move.post = move.pre.tryRecv.1)
      (houtputs : move.outputs = [.pending move.pre.tryRecv.2.isSome])
  | received (call : ReceiveCall) (hinput : move.input = .receive call)
      (hpost : move.post = move.pre.tryRecv.1)
      (houtputs : move.outputs = [.segment move.pre.tryRecv.2])

theorem receiverStep_of_fires {move : ReceiverMove} (hfires : machine.Fires move) :
    ReceiverStep move := by
  obtain ⟨pre, input, post, outputs⟩ := move
  have hstep : pre.step input = some (post, outputs) := hfires
  cases input with
  | arrive segment =>
      simp only [step] at hstep
      split at hstep
      · obtain ⟨rfl, rfl⟩ := Prod.mk.inj (Option.some.inj hstep)
        exact .arrived segment rfl rfl rfl
      · contradiction
  | readerExits =>
      simp only [step] at hstep
      split at hstep
      · obtain ⟨rfl, rfl⟩ := Prod.mk.inj (Option.some.inj hstep)
        exact .exited rfl rfl rfl
      · contradiction
  | hasResults =>
      obtain ⟨rfl, rfl⟩ := Prod.mk.inj (Option.some.inj hstep)
      exact .asked rfl rfl rfl
  | receive call =>
      cases call with
      | tryRecv =>
          obtain ⟨rfl, rfl⟩ := Prod.mk.inj (Option.some.inj hstep)
          exact .received .tryRecv rfl rfl rfl
      | recv =>
          obtain ⟨⟨receiver, received⟩, hrecv, hboth⟩ := Option.map_eq_some_iff.mp hstep
          obtain ⟨rfl, rfl⟩ := Prod.mk.inj hboth
          unfold recv at hrecv
          split at hrecv
          · contradiction
          · obtain hsame := Option.some.inj hrecv
            exact .received .recv rfl (by rw [hsame]) (by rw [hsame])
      | recvTimeout =>
          obtain ⟨rfl, rfl⟩ := Prod.mk.inj (Option.some.inj hstep)
          exact .received .recvTimeout rfl rfl rfl

/-- Nothing is received from an empty channel, and otherwise what waits longest. -/
theorem tryRecv_cases (receiver : ResultReceiver) :
    (receiver.channel.waiting = [] ∧ receiver.tryRecv = (receiver, none)) ∨
    ∃ segment rest, receiver.channel.waiting = segment :: rest ∧
      receiver.tryRecv = ({ receiver with
        channel := ⟨receiver.channel.taken ++ [segment], rest⟩ }, some segment) := by
  unfold tryRecv
  cases hpop : receiver.channel.pop with
  | none => exact .inl ⟨Fifo.pop_eq_none_iff.mp hpop, rfl⟩
  | some popped =>
      obtain ⟨segment, channel⟩ := popped
      obtain ⟨rest, hwaiting, rfl⟩ := Fifo.pop_eq_some_iff.mp hpop
      exact .inr ⟨segment, rest, hwaiting, rfl⟩

/-! ## What arrived and what was returned -/

def arrivedBy (move : ReceiverMove) : List TranscriptionSegment :=
  match move.input with
  | .arrive segment => [segment]
  | _ => []

/-- The segments that arrived. -/
def arrived (moves : List ReceiverMove) : List TranscriptionSegment := moves.flatMap arrivedBy

def Answer.returned : Answer → List TranscriptionSegment
  | .pending _ => []
  | .segment received => received.toList

def returnedBy (move : ReceiverMove) : List TranscriptionSegment :=
  move.outputs.flatMap Answer.returned

/-- The segments that the receiving calls returned. -/
def returned (moves : List ReceiverMove) : List TranscriptionSegment := moves.flatMap returnedBy

/-- `has_results` is called while a segment waits. -/
def losesSegment (move : ReceiverMove) : Bool :=
  decide (move.input = .hasResults ∧ move.pre.channel.waiting ≠ [])

/-- How often that happens. -/
def lost (moves : List ReceiverMove) : Nat := moves.countP losesSegment

/-- What was taken from the channel was returned or lost. -/
structure Counted (moves : List ReceiverMove) (receiver : ResultReceiver) : Prop where
  history : receiver.channel.history = arrived moves
  taken : receiver.channel.taken.length = (returned moves).length + lost moves
  same : lost moves = 0 → receiver.channel.taken = returned moves

theorem counted_new : Counted [] new := ⟨rfl, rfl, fun _ => rfl⟩

section Append

variable (moves : List ReceiverMove) (move : ReceiverMove)

theorem arrived_append : arrived (moves ++ [move]) = arrived moves ++ arrivedBy move := by
  simp [arrived]

theorem returned_append : returned (moves ++ [move]) = returned moves ++ returnedBy move := by
  simp [returned]

theorem lost_append :
    lost (moves ++ [move]) = lost moves + if losesSegment move then 1 else 0 := by
  simp [lost, List.countP_cons]

end Append

/-- A step whose effect on the channel is known: what it takes from it, and whether this
is returned or lost. -/
theorem Counted.of_taken {moves : List ReceiverMove} {move : ReceiverMove}
    {taken : List TranscriptionSegment} (hcounted : Counted moves move.pre)
    (hhistory : move.post.channel.history = move.pre.channel.history ++ arrivedBy move)
    (htaken : move.post.channel.taken = move.pre.channel.taken ++ taken)
    (hlength : taken.length = (returnedBy move).length + if losesSegment move then 1 else 0)
    (hreturned : losesSegment move = false → taken = returnedBy move) :
    Counted (moves ++ [move]) move.post := by
  refine ⟨?_, ?_, ?_⟩
  · rw [hhistory, hcounted.history, arrived_append]
  · rw [htaken, returned_append, lost_append, List.length_append, List.length_append,
      hcounted.taken, hlength]
    omega
  · intro hnone
    rw [lost_append] at hnone
    cases hloses : losesSegment move with
    | true =>
        rw [hloses, if_pos rfl] at hnone
        omega
    | false =>
        rw [htaken, returned_append, hreturned hloses, hcounted.same (by omega)]

/-- Receiving moves a segment within the channel. -/
theorem history_tryRecv (receiver : ResultReceiver) :
    receiver.tryRecv.1.channel.history = receiver.channel.history ∧
      receiver.tryRecv.1.channel.taken =
        receiver.channel.taken ++ receiver.tryRecv.2.toList := by
  rcases receiver.tryRecv_cases with ⟨-, hrecv⟩ | ⟨segment, rest, hwaiting, hrecv⟩
  · rw [hrecv]
    exact ⟨rfl, (List.append_nil _).symm⟩
  · rw [hrecv]
    exact ⟨by simp [Fifo.history, hwaiting], rfl⟩

/-- A step keeps the count. -/
theorem Counted.fires {moves : List ReceiverMove} {move : ReceiverMove}
    (hcounted : Counted moves move.pre) (hfires : machine.Fires move) :
    Counted (moves ++ [move]) move.post := by
  obtain ⟨hhistory, htaken⟩ := history_tryRecv move.pre
  cases receiverStep_of_fires hfires with
  | arrived segment hinput hchannel houtputs =>
      have hreturned : returnedBy move = [] := by rw [returnedBy, houtputs, List.flatMap_nil]
      have hloses : losesSegment move = false := by simp [losesSegment, hinput]
      apply hcounted.of_taken
      · rw [hchannel, Fifo.history_push, arrivedBy, hinput]
      · rw [hchannel, Fifo.taken_push, List.append_nil]
      · rw [hreturned, hloses]
        rfl
      · exact fun _ => hreturned.symm
  | exited hinput hchannel houtputs =>
      have hreturned : returnedBy move = [] := by rw [returnedBy, houtputs, List.flatMap_nil]
      have hloses : losesSegment move = false := by simp [losesSegment, hinput]
      apply hcounted.of_taken
      · rw [hchannel, arrivedBy, hinput, List.append_nil]
      · rw [hchannel, List.append_nil]
      · rw [hreturned, hloses]
        rfl
      · exact fun _ => hreturned.symm
  | asked hinput hpost houtputs =>
      -- a segment that is taken here is not returned
      have hreturned : returnedBy move = [] := by
        rw [returnedBy, houtputs]
        rfl
      have hloses : losesSegment move = move.pre.tryRecv.2.isSome := by
        rcases move.pre.tryRecv_cases with ⟨hempty, hrecv⟩ | ⟨segment, rest, hwaiting, hrecv⟩
        · simp [losesSegment, hempty, hrecv]
        · simp [losesSegment, hinput, hwaiting, hrecv]
      apply hcounted.of_taken
      · rw [hpost, hhistory, arrivedBy, hinput, List.append_nil]
      · rw [hpost, htaken]
      · rw [hreturned, hloses]
        cases move.pre.tryRecv.2 <;> rfl
      · rw [hreturned, hloses]
        cases move.pre.tryRecv.2 <;> simp
  | received call hinput hpost houtputs =>
      have hreturned : returnedBy move = move.pre.tryRecv.2.toList := by
        rw [returnedBy, houtputs]
        exact List.append_nil _
      have hloses : losesSegment move = false := by simp [losesSegment, hinput]
      apply hcounted.of_taken
      · rw [hpost, hhistory, arrivedBy, hinput, List.append_nil]
      · rw [hpost, htaken]
      · rw [hreturned, hloses]
        rfl
      · exact fun _ => hreturned.symm

section Run

variable {final : ResultReceiver} {moves : List ReceiverMove}

theorem counted_run (hrun : machine.Run new moves final) : Counted moves final :=
  hrun.history Counted (fun _ _ _ hfires hcounted => hcounted.fires hfires) counted_new

/-- What was returned and what waits is what arrived, exactly if nothing was lost. -/
theorem returned_append_waiting_iff (hrun : machine.Run new moves final) :
    returned moves ++ final.channel.waiting = arrived moves ↔ lost moves = 0 := by
  obtain ⟨hhistory, htaken, hsame⟩ := counted_run hrun
  constructor
  · intro hall
    have hlengths := congrArg List.length (hall.trans hhistory.symm)
    rw [Fifo.history, List.length_append, List.length_append, htaken] at hlengths
    omega
  · intro hnone
    rw [← hsame hnone]
    exact hhistory

/-- `has_results` loses nothing, changes nothing and its answer can be relied on exactly
if it is only called while nothing waits. -/
theorem returned_prefix_iff (hrun : machine.Run new moves final) :
    (returned moves ++ final.channel.waiting = arrived moves ∧
        (∀ move ∈ moves, move.input = .hasResults → move.post = move.pre) ∧
        ∀ earlier asked between next later,
          moves = earlier ++ asked :: (between ++ next :: later) →
          asked.input = .hasResults → asked.outputs = [.pending true] →
          (∀ move ∈ between, ∀ call, move.input ≠ .receive call) →
          next.input = .receive .tryRecv →
          ∃ segment, next.outputs = [.segment (some segment)]) ↔
      ∀ move ∈ moves, move.input = .hasResults → move.pre.channel.waiting = [] := by
  have hlost : lost moves = 0 ↔
      ∀ move ∈ moves, move.input = .hasResults → move.pre.channel.waiting = [] := by
    simp [lost, List.countP_eq_zero, losesSegment]
  rw [returned_append_waiting_iff hrun, hlost]
  constructor
  · rintro ⟨hempty, -, -⟩
    exact hempty
  · intro hempty
    -- a call with nothing waiting changes nothing and answers that nothing waits
    have hasked : ∀ move ∈ moves, move.input = .hasResults →
        move.post = move.pre ∧ move.outputs = [.pending false] := by
      intro move hmem hinput
      have hnone := hempty move hmem hinput
      cases receiverStep_of_fires (hrun.fires_of_mem hmem) with
      | arrived segment hother => rw [hinput] at hother; contradiction
      | exited hother => rw [hinput] at hother; contradiction
      | received call hother => rw [hinput] at hother; contradiction
      | asked _ hpost houtputs =>
          rcases move.pre.tryRecv_cases with ⟨-, hrecv⟩ | ⟨segment, rest, hwaiting, -⟩
          · rw [hrecv] at hpost houtputs
            exact ⟨hpost, houtputs⟩
          · rw [hwaiting] at hnone
            contradiction
    refine ⟨hempty, fun move hmem hinput => (hasked move hmem hinput).1, ?_⟩
    rintro earlier asked between next later rfl hinput houtputs - -
    have hfalse := (hasked asked (by simp) hinput).2
    rw [houtputs] at hfalse
    simp at hfalse

end Run

/-- `has_results` is called before the segment arrives. -/
def askedEarly : List ReceiverInput :=
  [.hasResults, .arrive ⟨0, 1200, "And so"⟩, .receive .tryRecv]

theorem returned_prefix_iff_askedEarly :
    ∃ moves final, machine.exec new askedEarly = some (moves, final) ∧
      returned moves = [⟨0, 1200, "And so"⟩] ∧
      returned moves ++ final.channel.waiting = arrived moves := by
  have hexec : ∃ first second third final,
      machine.exec new askedEarly = some ([first, second, third], final) ∧
      returned [first, second, third] = [⟨0, 1200, "And so"⟩] ∧
      first.pre.channel.waiting = [] ∧ second.input ≠ .hasResults ∧
      third.input ≠ .hasResults :=
    ⟨_, _, _, _, rfl, rfl, rfl, by decide, by decide⟩
  obtain ⟨first, second, third, final, hexec, hreturned, hempty, hsecond, hthird⟩ := hexec
  refine ⟨_, final, hexec, hreturned, ?_⟩
  refine ((returned_prefix_iff (Machine.exec_run hexec)).mpr ?_).1
  intro move hmem hinput
  simp only [List.mem_cons, List.not_mem_nil, or_false] at hmem
  rcases hmem with rfl | rfl | rfl
  · exact hempty
  · exact absurd hinput hsecond
  · exact absurd hinput hthird

/-- `has_results` is called after the segment has arrived. -/
def askedWhileWaiting : List ReceiverInput :=
  [.arrive ⟨0, 1200, "And so"⟩, .hasResults, .receive .tryRecv]

/-- It answers that a segment waits, and nothing is received. -/
theorem segment_lost :
    ∃ first second third final,
      machine.exec new askedWhileWaiting = some ([first, second, third], final) ∧
      second.outputs = [.pending true] ∧ third.outputs = [.segment none] ∧
      arrived [first, second, third] = [⟨0, 1200, "And so"⟩] ∧
      returned [first, second, third] ++ final.channel.waiting = [] :=
  ⟨_, _, _, _, rfl, rfl, rfl, rfl, rfl⟩

end ResultReceiver
end Transcription
end MediaServer
