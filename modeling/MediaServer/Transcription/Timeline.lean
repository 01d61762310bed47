import MediaServer.Foundation.Log
import MediaServer.Transcription.Decoder
import MediaServer.Transcription.OpenAi

/-!
# The timeline of the transcribed chunks

Each chunk starts where the one before it ends, because both are the same sum of
rounded durations.  That nothing is lost by the rounding is due to the decoder: all
blocks it puts out are multiples of 320 samples, and 320 samples are exactly 20ms.

* `OnTime`: the starts are the sums of the durations before them, for any decoder;
* `Framed`: what is on its way to the worker is cut into blocks of 320 samples, for
  the decoder of a session;
* `chunks_on_timeline`: both together, as long as the clock does not wrap;
* `start_wraps`: after `2 ^ 64` milliseconds of audio it does.
-/

namespace MediaServer
namespace Transcription

open Foundation

/-! ## The clock of the worker -/

/-- The sum of the durations of some chunks. -/
def elapsedMs : List Chunk → UInt64
  | [] => 0
  | chunk :: rest => durationMs chunk.pcmData + elapsedMs rest

theorem elapsedMs_append (chunks : List Chunk) (last : Chunk) :
    elapsedMs (chunks ++ [last]) = elapsedMs chunks + durationMs last.pcmData := by
  induction chunks with
  | nil => simp [elapsedMs]
  | cons chunk rest ih =>
      rw [List.cons_append, elapsedMs, elapsedMs, ih, UInt64.add_assoc]

/-- Every chunk starts after the chunks before it. -/
def OnTime (chunks : List Chunk) : Prop :=
  ∀ before chunk after, chunks = before ++ chunk :: after → chunk.startMs = elapsedMs before

theorem onTime_nil : OnTime [] := by
  intro before chunk after hnil
  simp at hnil

theorem onTime_append {chunks : List Chunk} {last : Chunk} (hchunks : OnTime chunks)
    (hlast : last.startMs = elapsedMs chunks) : OnTime (chunks ++ [last]) := by
  intro before chunk after hsplit
  rcases Log.concat_eq_split_iff.mp hsplit with ⟨rfl, rfl, -⟩ | ⟨others, -, hearlier⟩
  · exact hlast
  · exact hchunks before chunk others hearlier

/-- A chunk ends where the next one starts. -/
theorem endMs_eq_startMs {chunks before after : List Chunk} {chunk next : Chunk}
    (hchunks : OnTime chunks) (hsplit : chunks = before ++ chunk :: next :: after) :
    chunk.endMs = next.startMs := by
  have hnext : next.startMs = elapsedMs (before ++ [chunk]) :=
    hchunks (before ++ [chunk]) next after (by simp [hsplit])
  rw [hnext, elapsedMs_append, Chunk.endMs, hchunks before chunk (next :: after) hsplit]

/-- The samples of some chunks. -/
def sampleCount (chunks : List Chunk) : Nat := (chunks.map fun chunk => chunk.pcmData.length).sum

/-- The duration of a chunk of a bearable length does not wrap. -/
theorem durationMs_of_le {pcmData : Pcm} (hle : pcmData.length ≤ 81920) :
    durationMs pcmData = UInt64.ofNat (pcmData.length * 1000 / 16000) := by
  apply UInt64.toNat_inj.mp
  have hrate : openAiSampleRate.toUInt64.toNat = 16000 := rfl
  have hthousand : (1000 : UInt64).toNat = 1000 := rfl
  have hlength : pcmData.length % 2 ^ 64 = pcmData.length := Nat.mod_eq_of_lt (by omega)
  have hproduct : pcmData.length * 1000 % 2 ^ 64 = pcmData.length * 1000 :=
    Nat.mod_eq_of_lt (by omega)
  have hquotient : pcmData.length * 1000 / 16000 % 2 ^ 64 = pcmData.length * 1000 / 16000 :=
    Nat.mod_eq_of_lt (by omega)
  unfold durationMs
  rw [UInt64.toNat_div, UInt64.toNat_mul, UInt64.toNat_ofNat', UInt64.toNat_ofNat', hrate,
    hthousand, hlength, hproduct, hquotient]

/-- The durations of chunks of whole blocks add up without a loss. -/
theorem elapsedMs_of_dvd {chunks : List Chunk}
    (hchunks : ∀ chunk ∈ chunks, 320 ∣ chunk.pcmData.length ∧ chunk.pcmData.length ≤ 81920) :
    320 ∣ sampleCount chunks ∧
      elapsedMs chunks = UInt64.ofNat (sampleCount chunks * 1000 / 16000) := by
  induction chunks with
  | nil => exact ⟨⟨0, rfl⟩, rfl⟩
  | cons chunk rest ih =>
      obtain ⟨hdvd, hle⟩ := hchunks chunk List.mem_cons_self
      obtain ⟨hrest, helapsed⟩ := ih fun other hmem => hchunks other (List.mem_cons_of_mem _ hmem)
      have hcount : sampleCount (chunk :: rest) = chunk.pcmData.length + sampleCount rest := by
        simp [sampleCount]
      have hsum : (chunk.pcmData.length + sampleCount rest) * 1000 / 16000 =
          chunk.pcmData.length * 1000 / 16000 + sampleCount rest * 1000 / 16000 := by
        omega
      constructor
      · rw [hcount]
        exact Nat.dvd_add hdvd hrest
      · rw [elapsedMs, helapsed, durationMs_of_le hle, hcount, hsum, UInt64.ofNat_add]

namespace OpenAiSession

variable {δ : Type}

/-- The chunks handed to `transcribe_chunk_sync` in a run. -/
def handed (moves : List (OpenAiMove δ)) : List Chunk := moves.flatMap fun move => move.outputs

theorem handed_append (moves : List (OpenAiMove δ)) (move : OpenAiMove δ) :
    handed (moves ++ [move]) = handed moves ++ move.outputs := by
  simp [handed]

section Clock

variable {codec : Codec δ} {start final : OpenAiSession δ} {moves : List (OpenAiMove δ)}

/-- The clock shows the sum of the durations so far, and every chunk is handed on with
what it shows. -/
theorem onTime_run (hrun : (machine codec).Run start moves final)
    (hstart : start.backend.worker.streamTimeMs = 0) :
    OnTime (handed moves) ∧ final.backend.worker.streamTimeMs = elapsedMs (handed moves) := by
  refine hrun.history (fun moves state =>
    OnTime (handed moves) ∧ state.backend.worker.streamTimeMs = elapsedMs (handed moves)) ?_
    ⟨onTime_nil, hstart⟩
  rintro earlier move - hfires ⟨honTime, hclock⟩
  rw [handed_append]
  cases openAiStep_of_fires hfires with
  | quiet hdecoder haudio hworker houtputs =>
      rw [houtputs, hworker, List.append_nil]
      exact ⟨honTime, hclock⟩
  | packet opusData hdecoder haudio hworker houtputs =>
      rw [houtputs, hworker, List.append_nil]
      exact ⟨honTime, hclock⟩
  | iterated received elapsed hdecoder hreceived hworker houtputs =>
      rcases WorkerLoop.iterate_cases move.pre.backend.worker received elapsed with
        ⟨hflush, -⟩ | ⟨hkeep, -⟩
      · rw [houtputs, hworker, hflush]
        refine ⟨onTime_append honTime hclock, ?_⟩
        rw [Option.toList_some, elapsedMs_append, ← hclock]
      · rw [houtputs, hworker, hkeep]
        rw [Option.toList_none, List.append_nil]
        exact ⟨honTime, hclock⟩

end Clock

/-! ## Blocks of 320 samples -/

section Blocks

variable {ω ρ φ : Type} {library : DecoderLibrary ω ρ φ}

/-- What is on its way from the decoder to the service is cut into whole blocks. -/
structure Framed (state : OpenAiSession (AudioDecoder ω ρ φ)) : Prop where
  decoder : state.session.decoder.resampler.Settled
  waiting : ∀ block ∈ state.backend.audio.waiting, 320 ∣ block.length ∧ block.length ≤ 1920
  buffer_dvd : 320 ∣ state.backend.worker.buffer.length
  buffer_le : state.backend.worker.buffer.length ≤ 80000

theorem framed_new (library : DecoderLibrary ω ρ φ) (sessionId endpointId : UInt64)
    (handle : Nat) (apiKey : String) (baseUrl model : Option String) :
    (new (AudioDecoder.codec library) sessionId endpointId handle apiKey baseUrl model).Framed where
  decoder := AudioDecoder.resampler_new library
  waiting := by simp [new, OpenAiSyncBackend.new]
  buffer_dvd := ⟨0, rfl⟩
  buffer_le := Nat.zero_le 80000

variable {move : OpenAiMove (AudioDecoder ω ρ φ)}

/-- What the worker has after a receive: whole blocks, and at most one block of a packet
more than five seconds. -/
theorem extend_framed (hframed : move.pre.Framed) {received : Received}
    (hreceived : (received = .timeout ∧ move.post.backend.audio = move.pre.backend.audio) ∨
      ∃ block, received = .data block ∧
        move.pre.backend.audio.pop = some (block, move.post.backend.audio)) :
    320 ∣ (WorkerLoop.extend move.pre.backend.worker.buffer received).length ∧
      (WorkerLoop.extend move.pre.backend.worker.buffer received).length ≤ 81920 ∧
      ∀ block ∈ move.post.backend.audio.waiting, 320 ∣ block.length ∧ block.length ≤ 1920 := by
  have hle := hframed.buffer_le
  rcases hreceived with ⟨rfl, haudio⟩ | ⟨block, rfl, hpop⟩
  · rw [haudio]
    refine ⟨hframed.buffer_dvd, ?_, hframed.waiting⟩
    show move.pre.backend.worker.buffer.length ≤ 81920
    omega
  · obtain ⟨rest, hwaiting, hrest⟩ := Fifo.pop_eq_some_iff.mp hpop
    have hblocks := hframed.waiting
    rw [hwaiting] at hblocks
    obtain ⟨hdvd, hblock⟩ := hblocks block List.mem_cons_self
    rw [hrest]
    refine ⟨?_, ?_, fun other hmem => hblocks other (List.mem_cons_of_mem _ hmem)⟩
    · rw [WorkerLoop.extend, List.length_append]
      exact Nat.dvd_add hframed.buffer_dvd hdvd
    · rw [WorkerLoop.extend, List.length_append]
      omega

/-- A step that leaves the worker alone concerns the decoder and the channel only. -/
theorem framed_of_worker (hframed : move.pre.Framed)
    (hworker : move.post.backend.worker = move.pre.backend.worker)
    (hsettled : move.post.session.decoder.resampler.Settled)
    (hwaiting : ∀ block ∈ move.post.backend.audio.waiting,
      320 ∣ block.length ∧ block.length ≤ 1920) : move.post.Framed := by
  refine ⟨hsettled, hwaiting, ?_, ?_⟩
  · rw [hworker]
    exact hframed.buffer_dvd
  · rw [hworker]
    exact hframed.buffer_le

/-- A step keeps all blocks whole, and hands on whole blocks. -/
theorem framed_fires (hconforms : library.Conforms)
    (hfires : (machine (AudioDecoder.codec library)).Fires move) (hframed : move.pre.Framed) :
    move.post.Framed ∧
      ∀ chunk ∈ move.outputs, 320 ∣ chunk.pcmData.length ∧ chunk.pcmData.length ≤ 81920 := by
  have hdecoder := hframed.decoder
  have hwaiting := hframed.waiting
  cases openAiStep_of_fires hfires with
  | quiet hsame haudio hworker houtputs =>
      rw [houtputs]
      refine ⟨framed_of_worker hframed hworker ?_ ?_, by simp⟩
      · rw [hsame]
        exact hdecoder
      · rw [haudio]
        exact hwaiting
  | packet opusData hdecoded haudio hworker houtputs =>
      obtain ⟨hnext, hblock⟩ := AudioDecoder.decode_settled hconforms hdecoder opusData
      rw [houtputs]
      refine ⟨framed_of_worker hframed hworker ?_ ?_, by simp⟩
      · rw [hdecoded]
        exact hnext
      · rcases haudio with hsame | ⟨pcm, hpcm, hpush⟩
        · rw [hsame]
          exact hwaiting
        · rw [hpush, Fifo.waiting_push]
          intro block hmem
          rcases List.mem_append.mp hmem with hearlier | hlast
          · exact hwaiting block hearlier
          · rw [List.mem_singleton.mp hlast]
            exact hblock pcm hpcm
  | iterated received elapsed hsame hreceived hworker houtputs =>
      obtain ⟨hdvd, hle, hwaiting⟩ := extend_framed hframed hreceived
      rw [← hsame] at hdecoder
      rcases WorkerLoop.iterate_cases move.pre.backend.worker received elapsed with
        ⟨hflush, -⟩ | ⟨hkeep, hshort⟩
      · rw [hflush] at hworker houtputs
        constructor
        · refine ⟨hdecoder, hwaiting, ?_, ?_⟩
          · rw [hworker]
            exact ⟨0, rfl⟩
          · rw [hworker]
            exact Nat.zero_le 80000
        · intro chunk hmem
          rw [houtputs] at hmem
          obtain rfl := List.mem_singleton.mp hmem
          exact ⟨hdvd, hle⟩
      · rw [hkeep] at hworker houtputs
        constructor
        · refine ⟨hdecoder, hwaiting, ?_, ?_⟩
          · rw [hworker]
            exact hdvd
          · rw [hworker]
            exact hshort
        · intro chunk hmem
          rw [houtputs] at hmem
          contradiction

/-- All chunks of a run are whole blocks. -/
theorem framed_run (hconforms : library.Conforms) {start final : OpenAiSession (AudioDecoder ω ρ φ)}
    {moves : List (OpenAiMove (AudioDecoder ω ρ φ))}
    (hrun : (machine (AudioDecoder.codec library)).Run start moves final)
    (hstart : start.Framed) :
    ∀ chunk ∈ handed moves, 320 ∣ chunk.pcmData.length ∧ chunk.pcmData.length ≤ 81920 := by
  intro chunk hmem
  obtain ⟨move, hmove, hchunk⟩ := List.mem_flatMap.mp hmem
  obtain ⟨earlier, later, rfl⟩ := List.append_of_mem hmove
  obtain ⟨hbefore, hfires, -⟩ := hrun.split_at
  have hframed : move.pre.Framed := hbefore.invariant Framed
    (fun _ hfires hpre => (framed_fires hconforms hfires hpre).1) hstart
  exact (framed_fires hconforms hfires hframed).2 chunk hchunk

/-- The segment of a chunk has the times of the chunk. -/
theorem segment_of_transcribe {service : Bytes → Except String String} {chunk : Chunk}
    {segment : TranscriptionSegment}
    (hsegment : transcribeChunkSync service chunk = .ok (some segment)) :
    segment.startMs = chunk.startMs ∧ segment.endMs = chunk.endMs := by
  unfold transcribeChunkSync at hsegment
  split at hsegment
  · simp at hsegment
  · split at hsegment
    · contradiction
    · split at hsegment
      · simp at hsegment
      · obtain rfl := Option.some.inj (Except.ok.inj hsegment)
        exact ⟨rfl, rfl⟩

/-- A WAV file of a chunk of whole blocks has exact lengths in its header. -/
theorem wav_exact {pcmData : Pcm} (hle : pcmData.length ≤ 81920) :
    Wav.Exact pcmData openAiSampleRate 1 := by
  have hrate : openAiSampleRate.toNat = 16000 := rfl
  have hone : (1 : UInt16).toNat = 1 := rfl
  apply Wav.exact_of_lt
  · omega
  · omega
  · rw [hrate, hone]
    omega
  · omega

/-- Every chunk of a session is whole blocks of 320 samples and at most 81920 samples,
starts at the exact time of its first sample, if that fits into the clock, and ends where
the next one starts, and its WAV file is computed without a wrap. -/
theorem chunks_on_timeline (hconforms : library.Conforms) {sessionId endpointId : UInt64}
    {handle : Nat} {apiKey : String} {baseUrl model : Option String}
    {final : OpenAiSession (AudioDecoder ω ρ φ)} {moves : List (OpenAiMove (AudioDecoder ω ρ φ))}
    (hrun : (machine (AudioDecoder.codec library)).Run
      (new (AudioDecoder.codec library) sessionId endpointId handle apiKey baseUrl model) moves
      final) :
    ∀ before chunk after, handed moves = before ++ chunk :: after →
      320 ∣ chunk.pcmData.length ∧ chunk.pcmData.length ≤ 81920 ∧
      16000 ∣ sampleCount before * 1000 ∧
      chunk.startMs = UInt64.ofNat (sampleCount before * 1000 / 16000) ∧
      (sampleCount before * 1000 / 16000 < 2 ^ 64 →
        chunk.startMs.toNat = sampleCount before * 1000 / 16000) ∧
      (∀ next rest, after = next :: rest → chunk.endMs = next.startMs) ∧
      (∀ service segment, transcribeChunkSync service chunk = .ok (some segment) →
        segment.startMs = chunk.startMs ∧ segment.endMs = chunk.endMs) ∧
      Wav.Exact chunk.pcmData openAiSampleRate 1 := by
  intro before chunk after hsplit
  have hblocks := framed_run hconforms hrun (framed_new library sessionId endpointId handle apiKey
    baseUrl model)
  rw [hsplit] at hblocks
  obtain ⟨honTime, -⟩ := onTime_run hrun rfl
  obtain ⟨hdvd, hle⟩ := hblocks chunk (by simp)
  obtain ⟨hcount, helapsed⟩ := elapsedMs_of_dvd fun other hmem =>
    hblocks other (List.mem_append_left _ hmem)
  have hstart : chunk.startMs = UInt64.ofNat (sampleCount before * 1000 / 16000) := by
    rw [honTime before chunk after hsplit, helapsed]
  refine ⟨hdvd, hle, by omega, hstart, ?_, ?_, ?_, wav_exact hle⟩
  · intro hbound
    rw [hstart, UInt64.toNat_ofNat']
    exact Nat.mod_eq_of_lt hbound
  · rintro next rest rfl
    exact endMs_eq_startMs honTime hsplit
  · intro service segment hsegment
    exact segment_of_transcribe hsegment

end Blocks

/-- The number of frames of an Opus packet. -/
def frameCount : Bytes → Nat
  | [] => 0
  | toc :: rest =>
      if toc &&& 3 = 0 then 1
      else if toc &&& 3 = 3 then
        match rest with
        | [] => 0
        | count :: _ => (count &&& 0x3F).toNat
      else 2

/-- Libraries in which every frame is 20ms of silence, for concrete runs.  A packet has one
to six frames. -/
def silentLibrary : DecoderLibrary Unit Unit Unit where
  opus := ()
  decode := fun _ opusData =>
    if frameCount opusData = 0 ∨ 6 < frameCount opusData then (.error "invalid packet", ())
    else (.ok (List.replicate (960 * frameCount opusData) 0), ())
  fft := ()
  process := fun _ _ => (.ok (List.replicate 320 ()), ())
  reset := fun _ => ()
  toFloat := fun _ => ()
  ofFloat := fun _ => 0
  zero := ()

theorem silentLibrary_conforms : silentLibrary.Conforms where
  decode := by
    intro state opusData samples next hdecode
    unfold silentLibrary at hdecode
    dsimp only at hdecode
    split at hdecode
    · simp at hdecode
    · rename_i hframes
      rw [← Except.ok.inj (Prod.mk.inj hdecode).1, List.length_replicate]
      omega
  process := fun _ _ _ => ⟨_, _, rfl, List.length_replicate⟩

/-- Five packets of a frame come in, and the worker takes them when five seconds have
passed. -/
def fivePackets : List OpenAiInput :=
  List.replicate 5 (.processAudio [0xF8, 0xFF, 0xFE]) ++
    List.replicate 4 (.iterate false fun _ => .ok "silence") ++
      [.iterate true fun _ => .ok "silence"]

set_option maxRecDepth 20000 in
theorem chunks_on_timeline_tenPackets :
    ∃ moves final first second,
      (machine (AudioDecoder.codec silentLibrary)).exec
        (new (AudioDecoder.codec silentLibrary) 1 2 0 "key" none none)
        (fivePackets ++ fivePackets) = some (moves, final) ∧
      handed moves = [first, second] ∧ first.pcmData.length = 1600 ∧
      second.startMs.toNat = 100 ∧ first.endMs = second.startMs := by
  have hexec : ∃ moves final first second,
      (machine (AudioDecoder.codec silentLibrary)).exec
        (new (AudioDecoder.codec silentLibrary) 1 2 0 "key" none none)
        (fivePackets ++ fivePackets) = some (moves, final) ∧
      handed moves = [first, second] ∧ first.pcmData.length = 1600 :=
    ⟨_, _, _, _, rfl, rfl, rfl⟩
  obtain ⟨moves, final, first, second, hexec, hhanded, hlength⟩ := hexec
  have htimeline := chunks_on_timeline silentLibrary_conforms (Machine.exec_run hexec)
  obtain ⟨-, -, -, -, hsecond, -⟩ := htimeline [first] second [] hhanded
  obtain ⟨-, -, -, -, -, hnext, -⟩ := htimeline [] first [second] hhanded
  have hcount : sampleCount [first] = 1600 := by
    rw [sampleCount, List.map_singleton, List.sum_singleton, hlength]
  rw [hcount] at hsecond
  exact ⟨moves, final, first, second, hexec, hhanded, hlength, hsecond (by decide),
    hnext second [] rfl⟩

/-! ## The end of the clock -/

/-- A packet of six frames. -/
def sixFrames : Bytes := [0xFB, 6, 0xFF, 0xFF, 0xFF, 0xFF, 0xFF, 0xFF]

/-- Between two packets, at a time of the worker's clock. -/
structure Rests (state : OpenAiSession (AudioDecoder Unit Unit Unit)) (time : UInt64) : Prop where
  chunkSize : state.session.decoder.resampler.chunkSize = 960
  residual : state.session.decoder.resampler.inputBuffer = []
  waiting : state.backend.audio.waiting = []
  held : state.backend.held = true
  worker : state.backend.worker = ⟨[], time⟩
  running : state.backend.running = true

/-- Six frames are 1920 samples, and leave nothing behind. -/
theorem decode_sixFrames {decoder : AudioDecoder Unit Unit Unit}
    (hchunkSize : decoder.resampler.chunkSize = 960)
    (hresidual : decoder.resampler.inputBuffer = []) :
    ∃ pcm next, decoder.decode silentLibrary sixFrames = (.ok pcm, next) ∧ pcm.length = 1920 ∧
      next.resampler.chunkSize = 960 ∧ next.resampler.inputBuffer = [] := by
  obtain ⟨opus, ⟨fft, buffer, chunkSize, hpos⟩⟩ := decoder
  obtain rfl : chunkSize = 960 := hchunkSize
  obtain rfl : buffer = [] := hresidual
  have hdecode : silentLibrary.decode opus sixFrames = (.ok (List.replicate 5760 0), ()) := rfl
  have hlength : (List.replicate 5760 (0 : Int16)).length = 5760 := List.length_replicate
  generalize List.replicate 5760 (0 : Int16) = samples at hdecode hlength
  have hmapped : (samples.map silentLibrary.toFloat).length = 5760 := by
    rw [List.length_map, hlength]
  obtain ⟨pcm, next, rest, hloop, hpcm, hrest⟩ :=
    AudioResampler.processChunks_length hpos silentLibrary_conforms.process
      (samples.map silentLibrary.toFloat).length fft (samples.map silentLibrary.toFloat) []
      (Nat.div_le_self _ _)
  rw [hmapped] at hpcm hrest
  refine ⟨pcm, ⟨(), ⟨next, rest, 960, hpos⟩⟩, ?_, hpcm, rfl, List.eq_nil_of_length_eq_zero hrest⟩
  simp only [AudioDecoder.decode, hdecode, AudioResampler.resample, List.nil_append, hloop]

/-- Such a packet comes in, and the worker takes it when five seconds have passed. -/
def takenAtOnce : List OpenAiInput :=
  [.processAudio sixFrames, .iterate true fun _ => .ok "silence"]

theorem run_takenAtOnce {state : OpenAiSession (AudioDecoder Unit Unit Unit)} {time : UInt64}
    (hrests : Rests state time) :
    ∃ moves next chunk,
      (machine (AudioDecoder.codec silentLibrary)).Run state moves next ∧
      moves.map Transition.input = takenAtOnce ∧ handed moves = [chunk] ∧
      chunk.pcmData.length = 1920 ∧ chunk.startMs = time ∧ Rests next (time + 120) := by
  obtain ⟨⟨sessionId, endpointId, decoder, backend⟩,
    ⟨⟨taken, waiting⟩, held, worker, running, results⟩⟩ := state
  obtain ⟨hchunkSize, hresidual, rfl, rfl, rfl, rfl⟩ := hrests
  obtain ⟨pcm, after, hdecode, hlength, hsize, hempty⟩ := decode_sixFrames hchunkSize hresidual
  dsimp only at hdecode
  have hduration : durationMs pcm = 120 := by
    rw [durationMs_of_le (by omega), hlength]
    rfl
  have hflush : WorkerLoop.shouldFlush pcm true = true := by
    rw [WorkerLoop.shouldFlush, hlength]
    rfl
  have hiterate : WorkerLoop.iterate ⟨[], time⟩ (.data pcm) true =
      (⟨[], time + 120⟩, some ⟨pcm, time⟩) := by
    simp only [WorkerLoop.iterate, WorkerLoop.extend, List.nil_append, hflush, if_true, hduration]
  -- the decoded packet goes into the channel, and the next iteration takes it out
  have hpacket : (machine (AudioDecoder.codec silentLibrary)).Fires
      ⟨⟨⟨sessionId, endpointId, decoder, backend⟩,
          ⟨⟨taken, []⟩, true, ⟨[], time⟩, true, results⟩⟩,
        .processAudio sixFrames,
        ⟨⟨sessionId, endpointId, after, backend⟩,
          ⟨⟨taken, [pcm]⟩, true, ⟨[], time⟩, true, results⟩⟩, []⟩ := by
    simp only [Machine.Fires, machine, step, if_true, processAudio,
      TranscriptionSession.processAudio, AudioDecoder.codec, hdecode]
    rfl
  obtain ⟨later, htaken⟩ : ∃ later, (machine (AudioDecoder.codec silentLibrary)).Fires
      ⟨⟨⟨sessionId, endpointId, after, backend⟩,
          ⟨⟨taken, [pcm]⟩, true, ⟨[], time⟩, true, results⟩⟩,
        .iterate true fun _ => .ok "silence",
        ⟨⟨sessionId, endpointId, after, backend⟩,
          ⟨⟨taken ++ [pcm], []⟩, true, ⟨[], time + 120⟩, true, later⟩⟩, [⟨pcm, time⟩]⟩ := by
    simp only [Machine.Fires, machine, step, OpenAiSyncBackend.workerLoop, Fifo.pop, if_true,
      hiterate, transcribed_eq]
    exact ⟨_, rfl⟩
  exact ⟨_, _, ⟨pcm, time⟩, .cons hpacket (.cons htaken (.nil _)), rfl, rfl, hlength, rfl,
    ⟨hsize, hempty, rfl, rfl, rfl, rfl⟩⟩

/-- Any number of such packets, each handed on at its time by the clock. -/
theorem run_sixFrames (count : Nat) {state : OpenAiSession (AudioDecoder Unit Unit Unit)}
    {time : UInt64} (hrests : Rests state time) :
    ∃ moves final, (machine (AudioDecoder.codec silentLibrary)).Run state moves final ∧
      moves.map Transition.input = (List.replicate count takenAtOnce).flatten ∧
      (handed moves).length = count ∧
      ∀ before chunk after, handed moves = before ++ chunk :: after →
        sampleCount before = 1920 * before.length ∧
        chunk.startMs = time + UInt64.ofNat (120 * before.length) := by
  induction count generalizing state time with
  | zero => exact ⟨[], _, .nil _, rfl, rfl, by simp [handed]⟩
  | succ count ih =>
      obtain ⟨moves, next, first, hrun, hinputs, hfirst, hlength, hstart, hnext⟩ :=
        run_takenAtOnce hrests
      obtain ⟨others, final, hothers, hotherInputs, hcount, htimes⟩ := ih hnext
      have hall : handed (moves ++ others) = first :: handed others := by
        rw [handed, List.flatMap_append, ← handed, ← handed, hfirst]
        rfl
      refine ⟨moves ++ others, final, hrun.append hothers, ?_, ?_, ?_⟩
      · rw [List.map_append, hinputs, hotherInputs, List.replicate_succ, List.flatten_cons]
      · rw [hall, List.length_cons, hcount]
      · intro before chunk after hsplit
        rw [hall] at hsplit
        cases before with
        | nil =>
            obtain rfl := (List.cons.inj hsplit).1
            refine ⟨rfl, hstart.trans ?_⟩
            exact (UInt64.add_zero time).symm
        | cons other before =>
            obtain ⟨rfl, hlater⟩ := List.cons.inj hsplit
            obtain ⟨hsamples, htime⟩ := htimes before chunk after hlater
            -- the first chunk is 1920 samples and 120ms ahead of those of the rest of the run
            constructor
            · rw [sampleCount, List.map_cons, List.sum_cons, ← sampleCount, hsamples, hlength,
                List.length_cons]
              omega
            · rw [htime, List.length_cons, Nat.mul_add, Nat.add_comm, UInt64.ofNat_add,
                UInt64.add_assoc]
              rfl

/-- After 153722867280912931 such packets, at 120ms each, the clock has wrapped: the next
chunk starts at 104 by its `start_ms`. -/
theorem start_wraps :
    ¬ ∀ (library : DecoderLibrary Unit Unit Unit), library.Conforms →
      ∀ (moves : List (OpenAiMove (AudioDecoder Unit Unit Unit)))
        (final : OpenAiSession (AudioDecoder Unit Unit Unit)),
      (machine (AudioDecoder.codec library)).Run
        (new (AudioDecoder.codec library) 1 2 0 "key" none none) moves final →
      ∀ before chunk after, handed moves = before ++ chunk :: after →
        chunk.startMs.toNat = sampleCount before * 1000 / 16000 := by
  intro hexact
  have hrests : Rests (new (AudioDecoder.codec silentLibrary) 1 2 0 "key" none none) 0 :=
    ⟨rfl, rfl, rfl, rfl, rfl, rfl⟩
  obtain ⟨moves, final, hrun, -, hcount, htimes⟩ := run_sixFrames 153722867280912932 hrests
  -- the last of the chunks
  have hnonempty : handed moves ≠ [] := by
    intro hnil
    rw [hnil] at hcount
    contradiction
  have hsplit : handed moves =
      (handed moves).dropLast ++ [(handed moves).getLast hnonempty] :=
    (List.dropLast_append_getLast hnonempty).symm
  generalize (handed moves).getLast hnonempty = last at hsplit
  generalize (handed moves).dropLast = before at hsplit
  obtain ⟨hsamples, hstart⟩ := htimes before last [] hsplit
  have hbefore : before.length = 153722867280912931 := by
    rw [hsplit, List.length_append, List.length_singleton] at hcount
    omega
  have hsame := hexact silentLibrary silentLibrary_conforms moves final hrun before last [] hsplit
  rw [hsamples, hstart, hbefore] at hsame
  exact absurd hsame (by decide)

end OpenAiSession
end Transcription
end MediaServer
