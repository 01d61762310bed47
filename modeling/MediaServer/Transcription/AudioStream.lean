import MediaServer.Foundation.Machine
import MediaServer.Foundation.Samples
import MediaServer.Transcription.Manager

/-!
# The audio stream of a SimulStreaming session

`SimulStreamingClient::send_audio` writes the bytes of its samples on one TCP stream,
call after call.  A call that fails may have written any part of its bytes, and the
session goes on to use the stream.

* `Recovered`: a receiver that reads pairs of bytes finds the samples of a call;
* `length_stream`: where the stream stands between two samples and where it does not;
* `recovered_iff`: all successful calls are recovered exactly if before each of them an
  even number of calls was cut within a sample.
-/

namespace MediaServer
namespace Transcription

open Foundation

namespace SimulStreamingClient

/-- How `write_all` ends: all bytes are written, or it fails after some of them. -/
inductive WriteOutcome
  | complete
  | failed (written : Nat) (reason : String)

namespace WriteOutcome

/-- What `write_all` returns. -/
def result : WriteOutcome → Except String Unit
  | .complete => .ok ()
  | .failed _ reason => .error reason

/-- What `write_all` puts on the stream. -/
def written (outcome : WriteOutcome) (bytes : Bytes) : Bytes :=
  match outcome with
  | .complete => bytes
  | .failed written _ => bytes.take written

end WriteOutcome

/-- A call of `send_audio`. -/
structure SendCall where
  pcmData : Pcm
  outcome : WriteOutcome

/-- The bytes a call puts on the stream. -/
def SendCall.bytes (call : SendCall) : Bytes :=
  -- `to_le_bytes` of every sample
  call.outcome.written (Samples.bytesOf call.pcmData)

/-- `send_audio`: the bytes written on the stream afterwards, and what it returns. -/
def sendAudio (stream : Bytes) (call : SendCall) : Bytes × Except String Unit :=
  -- the `flush` after the write does nothing on a `TcpStream`
  (stream ++ call.bytes, call.outcome.result)

/-- Calls on one stream; the outputs are what they return. -/
def callMachine : Machine Bytes SendCall (Except String Unit) where
  step := fun stream call =>
    let (stream, result) := sendAudio stream call
    some (stream, [result])

/-- A call with the stream before and after it. -/
abbrev CallMove := Transition Bytes SendCall (Except String Unit)

theorem post_of_fires {move : CallMove} (hfires : callMachine.Fires move) :
    move.post = move.pre ++ move.input.bytes :=
  (Prod.mk.inj (Option.some.inj hfires)).1.symm

/-! ## Samples and bytes -/

/-- The call fails after an odd number of bytes. -/
def cutsSample (call : SendCall) : Bool := decide (call.bytes.length % 2 = 1)

/-- The number of calls that do. -/
def cuts (moves : List CallMove) : Nat := moves.countP fun move => cutsSample move.input

/-- The call begins between two samples, and a receiver that takes the bytes of the
stream two by two finds its samples there. -/
structure Recovered (stream : Bytes) (move : CallMove) : Prop where
  even : move.pre.length % 2 = 0
  samples : ((Samples.pairs stream).drop (move.pre.length / 2)).take
    move.input.pcmData.length = move.input.pcmData

section Run

variable {start final : Bytes} {moves : List CallMove}

/-- What was written stays at the beginning of the stream. -/
theorem prefix_of_run (hrun : callMachine.Run start moves final) :
    ∃ later, final = start ++ later := by
  refine hrun.invariant (fun stream => ∃ later, stream = start ++ later) ?_
    ⟨[], (List.append_nil start).symm⟩
  rintro move hfires ⟨later, hpre⟩
  refine ⟨later ++ move.input.bytes, ?_⟩
  rw [post_of_fires hfires, hpre, List.append_assoc]

/-- The stream stands within a sample after an odd number of cuts. -/
theorem length_stream (hrun : callMachine.Run [] moves final) :
    final.length % 2 = cuts moves % 2 := by
  refine hrun.history (fun moves stream => stream.length % 2 = cuts moves % 2) ?_ rfl
  intro moves move _ hfires hlength
  have hcuts : cuts (moves ++ [move]) = cuts moves + if cutsSample move.input then 1 else 0 := by
    simp [cuts, List.countP_cons]
  rw [post_of_fires hfires, List.length_append, hcuts]
  by_cases hcut : move.input.bytes.length % 2 = 1
  · rw [cutsSample, decide_eq_true hcut, if_pos rfl]
    omega
  · rw [cutsSample, decide_eq_false hcut, if_neg Bool.false_ne_true]
    omega

/-- A successful call that begins between two samples is recovered. -/
theorem recovered_of_even {move : CallMove} {earlier later : List CallMove}
    (hrun : callMachine.Run [] (earlier ++ move :: later) final)
    (hcomplete : move.input.outcome = .complete) (heven : move.pre.length % 2 = 0) :
    Recovered final move := by
  obtain ⟨-, hfires, hlater⟩ := hrun.split_at
  obtain ⟨rest, hfinal⟩ := prefix_of_run hlater
  have hbytes : move.input.bytes = Samples.bytesOf move.input.pcmData := by
    rw [SendCall.bytes, hcomplete, WriteOutcome.written]
  have hlength : (Samples.pairs move.pre).length = move.pre.length / 2 :=
    Samples.length_pairs move.pre
  refine ⟨heven, ?_⟩
  rw [hfinal, post_of_fires hfires, hbytes, List.append_assoc, Samples.pairs_append heven,
    Samples.pairs_bytesOf_append, List.drop_left' hlength, List.take_left' rfl]

/-- Every successful call is recovered exactly if before every one of them an even number
of calls was cut within a sample. -/
theorem recovered_iff (hrun : callMachine.Run [] moves final) :
    (∀ earlier move later, moves = earlier ++ move :: later →
        move.input.outcome = .complete → Recovered final move) ↔
      ∀ earlier move later, moves = earlier ++ move :: later →
        move.input.outcome = .complete → cuts earlier % 2 = 0 := by
  constructor
  · rintro hrecovered earlier move later rfl hcomplete
    rw [← length_stream hrun.split_at.1]
    exact (hrecovered earlier move later rfl hcomplete).even
  · rintro heven earlier move later rfl hcomplete
    apply recovered_of_even hrun hcomplete
    rw [length_stream hrun.split_at.1]
    exact heven earlier move later rfl hcomplete

end Run

/-- Two samples are written, the next two fail after the first of them, and the fifth is
written again. -/
def cutBetweenSamples : List SendCall :=
  [⟨[1, -2], .complete⟩, ⟨[3, 4], .failed 2 "timed out"⟩, ⟨[5], .complete⟩]

theorem recovered_iff_cutBetweenSamples :
    ∃ moves final, callMachine.exec [] cutBetweenSamples = some (moves, final) ∧
      ∀ earlier move later, moves = earlier ++ move :: later →
        move.input.outcome = .complete → Recovered final move := by
  obtain ⟨moves, final, hexec⟩ :
      ∃ moves final, callMachine.exec [] cutBetweenSamples = some (moves, final) := ⟨_, _, rfl⟩
  have hwhole : ∀ move ∈ moves, cutsSample move.input = false :=
    Machine.forall_input_of_exec (cutsSample · = false) hexec (by decide)
  refine ⟨moves, final, hexec, (recovered_iff (Machine.exec_run hexec)).mpr ?_⟩
  rintro earlier move later rfl -
  have hnone : cuts earlier = 0 := by
    rw [cuts, List.countP_eq_zero]
    intro other hmem
    rw [hwhole other (List.mem_append_left _ hmem)]
    exact Bool.false_ne_true
  rw [hnone]

/-- A sample fails after its first byte, and another one is written. -/
def cutWithinSample : List SendCall := [⟨[1], .failed 1 "timed out"⟩, ⟨[513], .complete⟩]

/-- The receiver finds one sample, which is neither of them. -/
theorem sample_shifted :
    ∃ first second final, callMachine.exec [] cutWithinSample = some ([first, second], final) ∧
      second.input = ⟨[513], .complete⟩ ∧ ¬ Recovered final second ∧
      Samples.pairs final = [257] := by
  refine ⟨_, _, _, rfl, rfl, ?_, by decide⟩
  intro hrecovered
  exact absurd hrecovered.even (by decide)

end SimulStreamingClient

/-! ## The session -/

/-- A session with a `SimulStreamingClient`, and what the client has written. -/
structure SimulStreamingSession (δ : Type) where
  session : TranscriptionSession δ
  stream : Bytes

namespace SimulStreamingSession

open SimulStreamingClient

variable {δ : Type}

/-- A packet, and how the write of its samples ends. -/
structure PacketWrite where
  opusData : Bytes
  outcome : WriteOutcome

/-- `process_audio`: whatever it returns, the session is there for the next packet. -/
def processAudio (codec : Codec δ) (state : SimulStreamingSession δ) (packet : PacketWrite) :
    SimulStreamingSession δ × Except String Unit :=
  let (session, result, sent) := state.session.processAudio codec packet.opusData
    { Environment.allSucceed with sendAudio := packet.outcome.result }
  ({ session := session
     stream := sent.foldl (fun stream block => (sendAudio stream ⟨block.pcm, packet.outcome⟩).1)
      state.stream }, result)

/-- The session under every sequence of packets; the outputs are what `process_audio`
returns. -/
def machine (codec : Codec δ) :
    Machine (SimulStreamingSession δ) PacketWrite (Except String Unit) where
  step := fun state packet =>
    let (state, result) := state.processAudio codec packet
    some (state, [result])

/-- A packet with the session before and after it. -/
abbrev PacketMove (δ : Type) :=
  Transition (SimulStreamingSession δ) PacketWrite (Except String Unit)

/-- The call of `send_audio` for a packet, if it is decoded. -/
def seenByClient (codec : Codec δ) (move : PacketMove δ) : List CallMove :=
  match (codec.decode move.pre.session.decoder move.input.opusData).1 with
  | .error _ => []
  | .ok pcm => [⟨move.pre.stream, ⟨pcm, move.input.outcome⟩, move.post.stream, move.outputs⟩]

theorem seenByClient_of_fires {codec : Codec δ} {move : PacketMove δ}
    (hfires : (machine codec).Fires move) :
    callMachine.Run move.pre.stream (seenByClient codec move) move.post.stream := by
  obtain ⟨pre, packet, post, outputs⟩ := move
  have hstep : some ((pre.processAudio codec packet).1, [(pre.processAudio codec packet).2]) =
      some (post, outputs) := hfires
  obtain ⟨rfl, rfl⟩ := Prod.mk.inj (Option.some.inj hstep)
  simp only [seenByClient, processAudio, TranscriptionSession.processAudio]
  rcases codec.decode pre.session.decoder packet.opusData with ⟨reason | pcm, decoder⟩
  · exact .nil _
  · have hsent : callMachine.Fires ⟨pre.stream, ⟨pcm, packet.outcome⟩,
        (sendAudio pre.stream ⟨pcm, packet.outcome⟩).1, [packet.outcome.result]⟩ := rfl
    exact .cons hsent (.nil _)

/-- The packets of a session make calls on one stream. -/
theorem stream_run {codec : Codec δ} {start final : SimulStreamingSession δ}
    {moves : List (PacketMove δ)} (hrun : (machine codec).Run start moves final) :
    callMachine.Run start.stream (moves.flatMap (seenByClient codec)) final.stream :=
  hrun.simulate SimulStreamingSession.stream (seenByClient codec) fun _ hfires =>
    seenByClient_of_fires hfires

end SimulStreamingSession
end Transcription
end MediaServer
