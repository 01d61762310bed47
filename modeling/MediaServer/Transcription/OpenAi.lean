import MediaServer.Foundation.Receiver
import MediaServer.Foundation.Text
import MediaServer.Transcription.Manager
import MediaServer.Transcription.Wav

/-!
# The synchronous OpenAI backend

`OpenAiSyncBackend` of `backends/openai.rs`.  A worker thread collects the blocks it
receives and hands the whole buffer to `transcribe_chunk_sync` when it is long enough,
or not too short and five seconds have passed since the last time.  It counts the
milliseconds it has handed on, each chunk rounded down.

`OpenAiSession` is a session with such a backend: packets come in on one side, the
worker loop runs on the other, and the channel between them may hold any number of
blocks.  The transcription service is a function of the WAV file it is sent.
-/

namespace MediaServer
namespace Transcription

open Foundation

/-- `SAMPLE_RATE` -/
def openAiSampleRate : UInt32 := 16000

/-! ## The worker loop -/

/-- What the worker loop hands to `transcribe_chunk_sync`. -/
structure Chunk where
  pcmData : Pcm
  startMs : UInt64
  deriving DecidableEq

/-- `(len as u64 * 1000) / SAMPLE_RATE as u64`, in wrapping arithmetic. -/
def durationMs (pcmData : Pcm) : UInt64 :=
  UInt64.ofNat pcmData.length * 1000 / openAiSampleRate.toUInt64

/-- The end of the segment that `transcribe_chunk_sync` makes of a chunk. -/
def Chunk.endMs (chunk : Chunk) : UInt64 := chunk.startMs + durationMs chunk.pcmData

/-- `OpenAiSyncBackend::transcribe_chunk_sync`: the segment it sends, if any.  `service`
stands for everything between the WAV file and the text in the answer. -/
def transcribeChunkSync (service : Bytes → Except String String) (chunk : Chunk) :
    Except String (Option TranscriptionSegment) :=
  if chunk.pcmData = [] then .ok none
  else
    match service (Wav.createWav chunk.pcmData openAiSampleRate 1) with
    | .error reason => .error reason
    | .ok text =>
        if Text.trim text.toList = [] then .ok none
        else .ok (some { startMs := chunk.startMs, endMs := chunk.endMs, text := text })

/-- What `transcribe_chunk_sync` has put on the channel, if anything. -/
def sentSegment : Except String (Option TranscriptionSegment) → Option TranscriptionSegment
  | .ok segment => segment
  | .error _ => none

/-- What `recv_timeout` returns while the loop goes on. -/
inductive Received
  | data (block : Pcm)
  | timeout
  deriving DecidableEq

/-- The variables of `worker_loop`. -/
structure WorkerLoop where
  buffer : Pcm
  streamTimeMs : UInt64
  deriving DecidableEq

namespace WorkerLoop

def start : WorkerLoop := ⟨[], 0⟩

/-- `should_flush`; `elapsed` says that five seconds have passed since the last send. -/
def shouldFlush (buffer : Pcm) (elapsed : Bool) : Bool :=
  let minSamples := (openAiSampleRate / 10).toNat
  decide (buffer.length > openAiSampleRate.toNat * 5) ||
    (decide (buffer.length ≥ minSamples) && elapsed)

/-- The buffer after a receive. -/
def extend (buffer : Pcm) : Received → Pcm
  | .data block => buffer ++ block
  | .timeout => buffer

/-- One iteration of the loop: the chunk it hands on, if any. -/
def iterate (loop : WorkerLoop) (received : Received) (elapsed : Bool) :
    WorkerLoop × Option Chunk :=
  let buffer := extend loop.buffer received
  if shouldFlush buffer elapsed then
    ({ buffer := [], streamTimeMs := loop.streamTimeMs + durationMs buffer },
      some { pcmData := buffer, startMs := loop.streamTimeMs })
  else ({ loop with buffer := buffer }, none)

/-- What one iteration can do: hand on the whole buffer, or keep a buffer of at most
five seconds. -/
theorem iterate_cases (loop : WorkerLoop) (received : Received) (elapsed : Bool) :
    (loop.iterate received elapsed =
        (⟨[], loop.streamTimeMs + durationMs (extend loop.buffer received)⟩,
          some ⟨extend loop.buffer received, loop.streamTimeMs⟩) ∧
      1600 ≤ (extend loop.buffer received).length) ∨
    (loop.iterate received elapsed =
        (⟨extend loop.buffer received, loop.streamTimeMs⟩, none) ∧
      (extend loop.buffer received).length ≤ 80000) := by
  have hrate : openAiSampleRate.toNat = 16000 := rfl
  have hmin : (openAiSampleRate / 10).toNat = 1600 := rfl
  unfold iterate shouldFlush
  rw [hrate, hmin]
  generalize extend loop.buffer received = buffer
  by_cases hlong : buffer.length > 16000 * 5
  · left
    simp only [hlong, decide_true, Bool.true_or, if_true]
    exact ⟨trivial, by omega⟩
  · by_cases hperiodic : (decide (buffer.length ≥ 1600) && elapsed) = true
    · left
      obtain ⟨hmin, -⟩ := Bool.and_eq_true_iff.mp hperiodic
      simp only [hperiodic, Bool.or_true, if_true]
      exact ⟨trivial, of_decide_eq_true hmin⟩
    · right
      simp only [hlong, hperiodic, decide_false, Bool.or_self, Bool.false_eq_true, if_false]
      exact ⟨trivial, by omega⟩

end WorkerLoop

/-! ## The backend and its session -/

/-- An `OpenAiSyncBackend` with its worker thread. -/
structure OpenAiSyncBackend where
  /-- `audio_tx` and `audio_rx` -/
  audio : Fifo Pcm
  /-- the backend, and with it `audio_tx`, has not been dropped -/
  held : Bool
  worker : WorkerLoop
  /-- the worker is in its loop -/
  running : Bool
  /-- `result_tx` and `result_rx` -/
  results : Receiver TranscriptionSegment

namespace OpenAiSyncBackend

/-- `OpenAiSyncBackend::new` -/
def new : OpenAiSyncBackend where
  audio := Fifo.empty
  held := true
  worker := .start
  running := true
  results := .empty

/-- The outcome of `send_audio`. -/
def sendOutcome (backend : OpenAiSyncBackend) : Except String Unit :=
  if backend.running then .ok () else .error "Worker thread dead"

/-- `send_audio` -/
def sendAudio (backend : OpenAiSyncBackend) (data : Pcm) : OpenAiSyncBackend :=
  if backend.running then { backend with audio := backend.audio.push data } else backend

/-- The segment of a chunk is put on the channel of the results, if there is one. -/
def transcribed (backend : OpenAiSyncBackend) (service : Bytes → Except String String)
    (chunk : Chunk) : OpenAiSyncBackend :=
  match transcribeChunkSync service chunk with
  | .ok (some segment) => { backend with results := backend.results.send segment }
  -- an error is only logged
  | _ => backend

/-- The worker thread goes through its loop once. -/
def workerLoop (backend : OpenAiSyncBackend) (elapsed : Bool)
    (service : Bytes → Except String String) : Option (OpenAiSyncBackend × List Chunk) :=
  if backend.running then
    let iterated (audio : Fifo Pcm) (received : Received) : OpenAiSyncBackend × List Chunk :=
      let (worker, handed) := backend.worker.iterate received elapsed
      let next := { backend with audio := audio, worker := worker }
      match handed with
      | none => (next, [])
      | some chunk => (next.transcribed service chunk, [chunk])
    match backend.audio.pop with
    | some (block, rest) => some (iterated rest (.data block))
    | none =>
        if backend.held then some (iterated backend.audio .timeout)
        -- `RecvTimeoutError::Disconnected`
        else some ({ backend with running := false }, [])
  else none

/-- Drop the backend. -/
def drop (backend : OpenAiSyncBackend) : OpenAiSyncBackend :=
  { backend with held := false, results := backend.results.close }

end OpenAiSyncBackend

/-- A session whose backend is an `OpenAiSyncBackend`. -/
structure OpenAiSession (δ : Type) where
  session : TranscriptionSession δ
  backend : OpenAiSyncBackend

/-- What happens to such a session. -/
inductive OpenAiInput
  | processAudio (opusData : Bytes)
  /-- `try_recv` -/
  | tryRecv
  /-- an iteration of the worker loop -/
  | iterate (elapsed : Bool) (service : Bytes → Except String String)
  /-- the session is dropped -/
  | drop

namespace OpenAiSession

variable {δ : Type}

/-- The session that `TranscriptionSession::new` creates. -/
def new (codec : Codec δ) (sessionId endpointId : UInt64) (handle : Nat) (apiKey : String)
    (baseUrl model : Option String) : OpenAiSession δ where
  session := ⟨sessionId, endpointId, codec.new, ⟨handle, .openAi apiKey baseUrl model⟩⟩
  backend := .new

/-- The packet goes through the decoder of the session, and what this yields to the
backend. -/
def processAudio (codec : Codec δ) (state : OpenAiSession δ) (opusData : Bytes) :
    OpenAiSession δ :=
  let (session, _, sent) := state.session.processAudio codec opusData
    { Environment.allSucceed with sendAudio := state.backend.sendOutcome }
  { session := session
    backend := sent.foldl (fun backend block => backend.sendAudio block.pcm) state.backend }

/-- One step of the session or of its worker. -/
def step (codec : Codec δ) (state : OpenAiSession δ) :
    OpenAiInput → Option (OpenAiSession δ × List Chunk)
  | .processAudio opusData =>
      if state.backend.held then some (state.processAudio codec opusData, []) else none
  | .tryRecv =>
      if state.backend.held then
        match state.backend.results.tryRecv with
        | none => some (state, [])
        | some (_, results) =>
            some ({ state with backend := { state.backend with results := results } }, [])
      else none
  | .iterate elapsed service =>
      (state.backend.workerLoop elapsed service).map fun (backend, handed) =>
        ({ state with backend := backend }, handed)
  | .drop =>
      if state.backend.held then some ({ state with backend := state.backend.drop }, []) else none

/-- The session under every interleaving of its packets with the worker loop; the
outputs are the chunks handed to `transcribe_chunk_sync`. -/
def machine (codec : Codec δ) : Machine (OpenAiSession δ) OpenAiInput Chunk where
  step := step codec

/-- A step of the session with the states around it. -/
abbrev OpenAiMove (δ : Type) := Transition (OpenAiSession δ) OpenAiInput Chunk

/-- What a step can do to the decoder, the channel of the blocks and the worker. -/
inductive OpenAiStep (codec : Codec δ) (move : OpenAiMove δ) : Prop
  | quiet (hdecoder : move.post.session.decoder = move.pre.session.decoder)
      (haudio : move.post.backend.audio = move.pre.backend.audio)
      (hworker : move.post.backend.worker = move.pre.backend.worker)
      (houtputs : move.outputs = [])
  /-- a packet is decoded, and the block is sent if there is one and the worker runs -/
  | packet (opusData : Bytes)
      (hdecoder : move.post.session.decoder =
        (codec.decode move.pre.session.decoder opusData).2)
      (haudio : move.post.backend.audio = move.pre.backend.audio ∨
        ∃ pcm, (codec.decode move.pre.session.decoder opusData).1 = .ok pcm ∧
          move.post.backend.audio = move.pre.backend.audio.push pcm)
      (hworker : move.post.backend.worker = move.pre.backend.worker)
      (houtputs : move.outputs = [])
  /-- the worker takes a block, or waits in vain -/
  | iterated (received : Received) (elapsed : Bool)
      (hdecoder : move.post.session.decoder = move.pre.session.decoder)
      (hreceived : (received = .timeout ∧ move.post.backend.audio = move.pre.backend.audio) ∨
        ∃ block, received = .data block ∧
          move.pre.backend.audio.pop = some (block, move.post.backend.audio))
      (hworker : move.post.backend.worker =
        (move.pre.backend.worker.iterate received elapsed).1)
      (houtputs : move.outputs =
        (move.pre.backend.worker.iterate received elapsed).2.toList)

/-- A transcription only concerns the channel of the results. -/
theorem transcribed_eq (backend : OpenAiSyncBackend) (service : Bytes → Except String String)
    (chunk : Chunk) :
    backend.transcribed service chunk = { backend with
      results := (sentSegment (transcribeChunkSync service chunk)).toList.foldl Receiver.send
        backend.results } := by
  unfold OpenAiSyncBackend.transcribed sentSegment
  rcases transcribeChunkSync service chunk with reason | _ | segment <;> rfl

/-- What a packet does. -/
theorem processAudio_frame (codec : Codec δ) (state : OpenAiSession δ) (opusData : Bytes) :
    (state.processAudio codec opusData).session.decoder =
        (codec.decode state.session.decoder opusData).2 ∧
      ((state.processAudio codec opusData).backend.audio = state.backend.audio ∨
        ∃ pcm, (codec.decode state.session.decoder opusData).1 = .ok pcm ∧
          (state.processAudio codec opusData).backend.audio = state.backend.audio.push pcm) ∧
      (state.processAudio codec opusData).backend.worker = state.backend.worker := by
  simp only [processAudio, TranscriptionSession.processAudio]
  rcases hdecode : codec.decode state.session.decoder opusData with ⟨result, decoder⟩
  cases result with
  | error reason => exact ⟨rfl, .inl rfl, rfl⟩
  | ok pcm =>
      simp only [List.foldl_cons, List.foldl_nil, OpenAiSyncBackend.sendAudio]
      split
      · exact ⟨trivial, .inr ⟨pcm, rfl, rfl⟩, rfl⟩
      · exact ⟨trivial, .inl rfl, rfl⟩

/-- What an iteration of the worker thread does: it ends, or goes through the loop on what
it received. -/
theorem workerLoop_cases {backend next : OpenAiSyncBackend} {elapsed : Bool}
    {service : Bytes → Except String String} {handed : List Chunk}
    (hstep : backend.workerLoop elapsed service = some (next, handed)) :
    backend.running = true ∧
    ((backend.audio.pop = none ∧ backend.held = false ∧
        next = { backend with running := false } ∧ handed = []) ∨
      ∃ received audio,
        ((received = .timeout ∧ backend.audio.pop = none ∧ backend.held = true ∧
            audio = backend.audio) ∨
          ∃ block, received = .data block ∧ backend.audio.pop = some (block, audio)) ∧
        handed = (backend.worker.iterate received elapsed).2.toList ∧
        next = { backend with
          audio := audio
          worker := (backend.worker.iterate received elapsed).1
          results := (handed.filterMap fun chunk =>
            sentSegment (transcribeChunkSync service chunk)).foldl Receiver.send
              backend.results }) := by
  unfold OpenAiSyncBackend.workerLoop at hstep
  split at hstep
  · rename_i hrunning
    -- one iteration, on what was received and what is left in the channel
    have hiterated : ∀ (audio : Fifo Pcm) (received : Received),
        (match (backend.worker.iterate received elapsed).2 with
          | none => ({ backend with
              audio := audio, worker := (backend.worker.iterate received elapsed).1 }, [])
          | some chunk => (OpenAiSyncBackend.transcribed { backend with
              audio := audio, worker := (backend.worker.iterate received elapsed).1 } service chunk,
              [chunk])) = (next, handed) →
        handed = (backend.worker.iterate received elapsed).2.toList ∧
          next = { backend with
            audio := audio
            worker := (backend.worker.iterate received elapsed).1
            results := (handed.filterMap fun chunk =>
              sentSegment (transcribeChunkSync service chunk)).foldl Receiver.send
                backend.results } := by
      intro audio received hnext
      cases hchunk : (backend.worker.iterate received elapsed).2 with
      | none =>
          rw [hchunk] at hnext
          obtain ⟨rfl, rfl⟩ := Prod.mk.inj hnext
          exact ⟨rfl, rfl⟩
      | some chunk =>
          rw [hchunk] at hnext
          obtain ⟨rfl, rfl⟩ := Prod.mk.inj hnext
          refine ⟨rfl, ?_⟩
          rw [transcribed_eq, List.filterMap_cons, List.filterMap_nil]
          cases sentSegment (transcribeChunkSync service chunk) <;> rfl
    refine ⟨hrunning, ?_⟩
    dsimp only at hstep
    split at hstep
    · rename_i block rest hpop
      exact .inr ⟨.data block, rest, .inr ⟨block, rfl, hpop⟩,
        hiterated rest (.data block) (Option.some.inj hstep)⟩
    · rename_i hpop
      split at hstep
      · rename_i hheld
        exact .inr ⟨.timeout, backend.audio, .inl ⟨rfl, hpop, hheld, rfl⟩,
          hiterated backend.audio .timeout (Option.some.inj hstep)⟩
      · rename_i hdropped
        obtain ⟨rfl, rfl⟩ := Prod.mk.inj (Option.some.inj hstep)
        exact .inl ⟨hpop, Bool.eq_false_iff.mpr hdropped, rfl, rfl⟩
  · contradiction

/-- Every step is one of these. -/
theorem openAiStep_of_fires {codec : Codec δ} {move : OpenAiMove δ}
    (hfires : (machine codec).Fires move) : OpenAiStep codec move := by
  obtain ⟨state, input, next, outputs⟩ := move
  have hstep : state.step codec input = some (next, outputs) := hfires
  cases input with
  | processAudio opusData =>
      simp only [step] at hstep
      split at hstep
      · obtain ⟨rfl, rfl⟩ := Prod.mk.inj (Option.some.inj hstep)
        obtain ⟨hdecoder, haudio, hworker⟩ := processAudio_frame codec state opusData
        exact .packet opusData hdecoder haudio hworker rfl
      · contradiction
  | tryRecv =>
      simp only [step] at hstep
      split at hstep
      · split at hstep
        · obtain ⟨rfl, rfl⟩ := Prod.mk.inj (Option.some.inj hstep)
          exact .quiet rfl rfl rfl rfl
        · obtain ⟨rfl, rfl⟩ := Prod.mk.inj (Option.some.inj hstep)
          exact .quiet rfl rfl rfl rfl
      · contradiction
  | iterate elapsed service =>
      obtain ⟨⟨backend, handed⟩, hloop, hboth⟩ := Option.map_eq_some_iff.mp hstep
      obtain ⟨rfl, rfl⟩ := Prod.mk.inj hboth
      obtain ⟨-, ⟨-, -, rfl, rfl⟩ | ⟨received, audio, hreceived, rfl, rfl⟩⟩ :=
        workerLoop_cases hloop
      · exact .quiet rfl rfl rfl rfl
      · refine .iterated received elapsed rfl ?_ rfl rfl
        rcases hreceived with ⟨rfl, -, -, haudio⟩ | hblock
        · exact .inl ⟨rfl, haudio⟩
        · exact .inr hblock
  | drop =>
      simp only [step] at hstep
      split at hstep
      · obtain ⟨rfl, rfl⟩ := Prod.mk.inj (Option.some.inj hstep)
        exact .quiet rfl rfl rfl rfl
      · contradiction

end OpenAiSession
end Transcription
end MediaServer
