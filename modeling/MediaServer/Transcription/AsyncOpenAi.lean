import MediaServer.Transcription.WorkerRuns

/-!
# The asynchronous OpenAI backend

`OpenAiBackend` of `backends/openai.rs` collects and cuts the audio in `send_audio` and
`flush`, with its buffer and its clock behind locks, where `OpenAiSyncBackend` does so in
the variables of `worker_loop`.  A flush hands its chunk to a task, with the time at which
it starts and its duration.

* `sendAudio_eq` and `iterate_of_untimed`: what a block does to either of them;
* `run_untimed`: a run of the loop whose flushes all come from the length of the buffer is,
  block for block, a run of the asynchronous backend;
* `cuts_eq`: what both cut, and what they keep.
-/

namespace MediaServer
namespace Transcription

open Foundation

/-- What `flush` gives the task it spawns. -/
structure SpawnedTask where
  audioData : Pcm
  startMs : UInt64
  durationMs : UInt64
  deriving DecidableEq

/-- The end of the segment that the task makes of its chunk. -/
def SpawnedTask.endMs (task : SpawnedTask) : UInt64 := task.startMs + task.durationMs

/-- The task: `transcribe_chunk`, and the segment it sends, if any.  `service` stands for
everything between the WAV file and the text in the answer. -/
def SpawnedTask.transcribe (service : Bytes → Except String String) (task : SpawnedTask) :
    Option TranscriptionSegment :=
  match service (Wav.createWav task.audioData openAiSampleRate 1) with
  -- an error is only logged
  | .error _ => none
  | .ok text =>
      if Text.trim text.toList = [] then none
      else some { startMs := task.startMs, endMs := task.endMs, text := text }

/-- The fields of `OpenAiBackend` that its buffering works on. -/
structure OpenAiBackend where
  audioBuffer : Pcm
  streamTimeMs : UInt64
  deriving DecidableEq

namespace OpenAiBackend

/-- `OpenAiBackend::new` -/
def new : OpenAiBackend := ⟨[], 0⟩

/-- `OpenAiBackend::flush`: the task it spawns, if any. -/
def flush (backend : OpenAiBackend) : OpenAiBackend × Option SpawnedTask :=
  if backend.audioBuffer = [] then (backend, none)
  else
    let audioData := backend.audioBuffer
    let durationMs := Transcription.durationMs audioData
    let startMs := backend.streamTimeMs
    ({ audioBuffer := [], streamTimeMs := startMs + durationMs },
      some { audioData := audioData, startMs := startMs, durationMs := durationMs })

/-- `send_audio`.  It holds the backend exclusively, so nothing happens to the buffer
between the release of the lock and `flush`. -/
def sendAudio (backend : OpenAiBackend) (data : Pcm) : OpenAiBackend × Option SpawnedTask :=
  let extended := { backend with audioBuffer := backend.audioBuffer ++ data }
  if extended.audioBuffer.length > openAiSampleRate.toNat * 5 then extended.flush
  else (extended, none)

/-- The backend under every sequence of blocks. -/
def machine : Machine OpenAiBackend Pcm SpawnedTask where
  step backend data := some ((backend.sendAudio data).1, (backend.sendAudio data).2.toList)

/-- A block with the states around it. -/
abbrev BlockMove := Transition OpenAiBackend Pcm SpawnedTask

/-- A block is kept, or everything collected so far is handed on with it. -/
theorem sendAudio_eq (backend : OpenAiBackend) (data : Pcm) :
    backend.sendAudio data =
      if 80000 < (backend.audioBuffer ++ data).length then
        (⟨[], backend.streamTimeMs + durationMs (backend.audioBuffer ++ data)⟩,
          some ⟨backend.audioBuffer ++ data, backend.streamTimeMs,
            durationMs (backend.audioBuffer ++ data)⟩)
      else (⟨backend.audioBuffer ++ data, backend.streamTimeMs⟩, none) := by
  have hfive : openAiSampleRate.toNat * 5 = 80000 := rfl
  unfold sendAudio
  rw [hfive]
  dsimp only
  split
  · rename_i hlong
    have hnonempty : backend.audioBuffer ++ data ≠ [] := by
      intro hempty
      simp [hempty] at hlong
    rw [flush, if_neg hnonempty]
  · rfl

end OpenAiBackend

/-! ## The loop without its periodic flush -/

namespace WorkerThread

/-- The block that an iteration receives. -/
def receivedBlock (move : LoopMove) : Option Pcm :=
  match move.input with
  | .received (.data block) _ _ => some block
  | _ => none

/-- The iteration flushes because of the time: the buffer is not long enough for a flush,
but long enough for a periodic one, and five seconds have passed. -/
def TimedFlush (move : LoopMove) : Prop :=
  ∃ received service, move.input = .received received true service ∧
    1600 ≤ (WorkerLoop.extend move.pre.loop.buffer received).length ∧
    (WorkerLoop.extend move.pre.loop.buffer received).length ≤ 80000

/-- An iteration that does not flush because of the time goes by the length alone. -/
theorem iterate_of_untimed (loop : WorkerLoop) (received : Received) (elapsed : Bool)
    (huntimed : ¬ (elapsed = true ∧ 1600 ≤ (WorkerLoop.extend loop.buffer received).length ∧
      (WorkerLoop.extend loop.buffer received).length ≤ 80000)) :
    loop.iterate received elapsed =
      if 80000 < (WorkerLoop.extend loop.buffer received).length then
        (⟨[], loop.streamTimeMs + durationMs (WorkerLoop.extend loop.buffer received)⟩,
          some ⟨WorkerLoop.extend loop.buffer received, loop.streamTimeMs⟩)
      else (⟨WorkerLoop.extend loop.buffer received, loop.streamTimeMs⟩, none) := by
  have hfive : openAiSampleRate.toNat * 5 = 80000 := rfl
  have hmin : (openAiSampleRate / 10).toNat = 1600 := rfl
  unfold WorkerLoop.iterate WorkerLoop.shouldFlush
  rw [hfive, hmin]
  generalize WorkerLoop.extend loop.buffer received = buffer at huntimed ⊢
  by_cases hlong : 80000 < buffer.length
  · simp [hlong]
  · have hperiodic : (decide (buffer.length ≥ 1600) && elapsed) = false := by
      cases elapsed with
      | false => exact Bool.and_false _
      | true =>
          have hshort : ¬ 1600 ≤ buffer.length := by
            intro hle
            exact huntimed ⟨rfl, hle, by omega⟩
          simp [hshort]
    simp [hlong, hperiodic]

/-- A run of the loop seen from the asynchronous backend: its variables are the fields, and
what it hands on is what a task is given. -/
def asBackend (thread : WorkerThread) : OpenAiBackend :=
  { audioBuffer := thread.loop.buffer, streamTimeMs := thread.loop.streamTimeMs }

def asTask (chunk : Chunk) : SpawnedTask :=
  { audioData := chunk.pcmData, startMs := chunk.startMs, durationMs := durationMs chunk.pcmData }

/-- An iteration on a block as a step of the asynchronous backend; no other iteration is
one. -/
def asBlockMoves (move : LoopMove) : List OpenAiBackend.BlockMove :=
  match receivedBlock move with
  | some block => [⟨asBackend move.pre, block, asBackend move.post,
      move.outputs.map fun handed => asTask handed.chunk⟩]
  | none => []

/-- An iteration on a block, when it does not flush because of the time, is `send_audio`. -/
theorem sendAudio_asBackend (thread : WorkerThread) (block : Pcm) (elapsed : Bool)
    (huntimed : ¬ (elapsed = true ∧ 1600 ≤ (thread.loop.buffer ++ block).length ∧
      (thread.loop.buffer ++ block).length ≤ 80000)) :
    (asBackend thread).sendAudio block =
      (asBackend { thread with loop := (thread.loop.iterate (.data block) elapsed).1 },
        (thread.loop.iterate (.data block) elapsed).2.map asTask) := by
  have hsend := (asBackend thread).sendAudio_eq block
  have hiterate := iterate_of_untimed thread.loop (.data block) elapsed huntimed
  by_cases hlong : 80000 < (thread.loop.buffer ++ block).length
  · rw [hsend.trans (if_pos hlong), hiterate.trans (if_pos hlong)]
    rfl
  · rw [hsend.trans (if_neg hlong), hiterate.trans (if_neg hlong)]
    rfl

/-- An iteration that hands nothing on and leaves the buffer as it was. -/
def Idles (move : LoopMove) : Prop :=
  move.outputs = [] ∧ move.post.loop = move.pre.loop

/-- An iteration without a periodic flush is a step of the asynchronous backend, or it
idles. -/
theorem asBlockMoves_run {move : LoopMove} (hfires : machine.Fires move)
    (huntimed : ¬ TimedFlush move) (hbuffered : move.pre.loop.buffer.length ≤ 80000) :
    OpenAiBackend.machine.Run (asBackend move.pre) (asBlockMoves move) (asBackend move.post) ∧
      (receivedBlock move = none → Idles move) := by
  obtain ⟨pre, input, post, outputs⟩ := move
  have hstep : pre.step input = some (post, outputs) := hfires
  cases input with
  | disconnected =>
      simp only [step] at hstep
      split at hstep
      · obtain ⟨rfl, rfl⟩ := Prod.mk.inj (Option.some.inj hstep)
        exact ⟨.nil _, fun _ => ⟨rfl, rfl⟩⟩
      · contradiction
  | received received elapsed service =>
      have hbyLength : ¬ (elapsed = true ∧
          1600 ≤ (WorkerLoop.extend pre.loop.buffer received).length ∧
          (WorkerLoop.extend pre.loop.buffer received).length ≤ 80000) := by
        rintro ⟨rfl, hlong, hshort⟩
        exact huntimed ⟨received, service, rfl, hlong, hshort⟩
      simp only [step] at hstep
      split at hstep
      · obtain ⟨rfl, rfl⟩ := Prod.mk.inj (Option.some.inj hstep)
        cases received with
        | timeout =>
            have hidle := (iterate_of_untimed pre.loop .timeout elapsed hbyLength).trans
              (if_neg (Nat.not_lt.mpr hbuffered))
            rw [hidle]
            exact ⟨.nil _, fun _ => ⟨rfl, rfl⟩⟩
        | data block =>
            refine ⟨?_, fun hnone => by simp [receivedBlock] at hnone⟩
            have hmove : OpenAiBackend.machine.Fires (⟨asBackend pre, block,
                ((asBackend pre).sendAudio block).1, ((asBackend pre).sendAudio block).2.toList⟩ :
                OpenAiBackend.BlockMove) := rfl
            rw [sendAudio_asBackend pre block elapsed hbyLength] at hmove
            cases hchunk : (pre.loop.iterate (.data block) elapsed).2 <;>
              exact .cons (by simpa [hchunk] using hmove) (.nil _)
      · contradiction

/-- Without its periodic flush a run of the loop is a run of the asynchronous backend on
the blocks alone, and its other iterations idle. -/
theorem run_untimed {moves : List LoopMove} {final : WorkerThread}
    (hrun : machine.Run start moves final) (huntimed : ∀ move ∈ moves, ¬ TimedFlush move) :
    OpenAiBackend.machine.Run .new (moves.flatMap asBlockMoves) (asBackend final) ∧
      ∀ move ∈ moves, receivedBlock move = none → Idles move := by
  have hsteps : ∀ move ∈ moves,
      OpenAiBackend.machine.Run (asBackend move.pre) (asBlockMoves move) (asBackend move.post) ∧
        (receivedBlock move = none → Idles move) := by
    intro move hmem
    obtain ⟨earlier, later, rfl⟩ := List.append_of_mem hmem
    obtain ⟨hbefore, hfires, -⟩ := hrun.split_at
    exact asBlockMoves_run hfires (huntimed move hmem) (accounted_run hbefore).buffered
  exact ⟨Machine.Run.simulate_of_mem asBackend asBlockMoves hrun
    fun move hmem => (hsteps move hmem).1, fun move hmem => (hsteps move hmem).2⟩

/-- Where five seconds never pass, nothing is flushed because of the time. -/
theorem not_timedFlush {move : LoopMove}
    (helapsed : ∀ received service, move.input ≠ .received received true service) :
    ¬ TimedFlush move := by
  rintro ⟨received, service, hinput, -⟩
  exact helapsed received service hinput

/-- Every sequence of blocks has a run of the loop without a periodic flush. -/
theorem exists_untimed_run (blocks : List Pcm) (loop : WorkerLoop) :
    ∃ moves final, machine.Run ⟨loop, true⟩ moves final ∧
      (∀ move ∈ moves, ¬ TimedFlush move) ∧ moves.filterMap receivedBlock = blocks := by
  induction blocks generalizing loop with
  | nil => exact ⟨[], _, .nil _, by simp, rfl⟩
  | cons block rest ih =>
      obtain ⟨moves, final, hrun, huntimed, hblocks⟩ :=
        ih (loop.iterate (.data block) false).1
      let first : LoopMove := ⟨⟨loop, true⟩, .received (.data block) false fun _ => .ok "",
        ⟨(loop.iterate (.data block) false).1, true⟩,
        (loop.iterate (.data block) false).2.toList.map fun chunk =>
          ⟨chunk, transcribeChunkSync (fun _ => .ok "") chunk⟩⟩
      have hfires : machine.Fires first := rfl
      refine ⟨first :: moves, final, .cons hfires hrun, ?_, ?_⟩
      · intro move hmem
        rcases List.mem_cons.mp hmem with rfl | hlater
        · exact not_timedFlush (by simp [first])
        · exact huntimed move hlater
      · rw [List.filterMap_cons, hblocks]
        rfl

/-- A task makes the segment of its chunk that `transcribe_chunk_sync` makes of it. -/
theorem transcribe_asTask (service : Bytes → Except String String) {chunk : Chunk}
    (hnonempty : chunk.pcmData ≠ []) :
    (asTask chunk).transcribe service = sentSegment (transcribeChunkSync service chunk) := by
  unfold SpawnedTask.transcribe transcribeChunkSync
  rw [if_neg hnonempty]
  simp only [asTask]
  cases service (Wav.createWav chunk.pcmData openAiSampleRate 1) with
  | error reason => rfl
  | ok text =>
      by_cases hblank : Text.trim text.toList = []
      · simp [hblank, sentSegment]
      · simp [hblank, sentSegment, SpawnedTask.endMs, Chunk.endMs]

end WorkerThread

/-! ## What is cut -/

/-- What a block leads to: the chunks cut at it, each with its samples, its start and its
end, and the samples kept after it. -/
structure BlockCut where
  block : Pcm
  chunks : List (Pcm × UInt64 × UInt64)
  residual : Pcm
  deriving DecidableEq

/-- What a block leads to in the asynchronous backend. -/
def OpenAiBackend.cut (move : OpenAiBackend.BlockMove) : BlockCut where
  block := move.input
  chunks := move.outputs.map fun task => (task.audioData, task.startMs, task.endMs)
  residual := move.post.audioBuffer

/-- What a block leads to in the worker loop. -/
def WorkerThread.cut (move : WorkerThread.LoopMove) : Option BlockCut :=
  (WorkerThread.receivedBlock move).map fun block =>
    { block := block
      chunks := move.outputs.map fun handed =>
        (handed.chunk.pcmData, handed.chunk.startMs, handed.chunk.endMs)
      residual := move.post.loop.buffer }

theorem WorkerThread.cut_eq (move : WorkerThread.LoopMove) :
    (WorkerThread.cut move).toList =
      (WorkerThread.asBlockMoves move).map OpenAiBackend.cut := by
  unfold WorkerThread.cut WorkerThread.asBlockMoves
  cases WorkerThread.receivedBlock move with
  | none => rfl
  | some block => simp [OpenAiBackend.cut, WorkerThread.asTask, WorkerThread.asBackend,
      SpawnedTask.endMs, Chunk.endMs, Function.comp_def]

/-- For every sequence of blocks: the asynchronous backend and the worker loop without its
periodic flush, however many timeouts there are between the blocks, cut the same chunks at
the same blocks, with the same start and the same end, and keep the same samples after
every block; a timeout cuts nothing and changes nothing. -/
theorem cuts_eq {syncMoves : List WorkerThread.LoopMove} {thread : WorkerThread}
    {asyncMoves : List OpenAiBackend.BlockMove} {backend : OpenAiBackend}
    (hsync : WorkerThread.machine.Run .start syncMoves thread)
    (huntimed : ∀ move ∈ syncMoves, ¬ WorkerThread.TimedFlush move)
    (hasync : OpenAiBackend.machine.Run .new asyncMoves backend)
    (hblocks : asyncMoves.map Transition.input =
      syncMoves.filterMap WorkerThread.receivedBlock) :
    asyncMoves.map OpenAiBackend.cut = syncMoves.filterMap WorkerThread.cut ∧
      ∀ move ∈ syncMoves, WorkerThread.receivedBlock move = none → WorkerThread.Idles move := by
  obtain ⟨hseen, hidles⟩ := WorkerThread.run_untimed hsync huntimed
  refine ⟨?_, hidles⟩
  have hinputs : asyncMoves.map Transition.input =
      (syncMoves.flatMap WorkerThread.asBlockMoves).map Transition.input := by
    rw [hblocks, List.map_flatMap, List.filterMap_eq_flatMap_toList]
    congr
    funext move
    unfold WorkerThread.asBlockMoves
    cases WorkerThread.receivedBlock move <;> rfl
  obtain ⟨rfl, -⟩ := hasync.unique hseen hinputs
  rw [List.map_flatMap, List.filterMap_eq_flatMap_toList]
  congr
  funext move
  exact (WorkerThread.cut_eq move).symm

/-- A block of a little more than five seconds, a timeout, and a short block. -/
def twoBlocks : List ReceiveOutcome :=
  [WorkerThread.fiveSeconds, .received .timeout false fun _ => .ok "none",
    .received (.data [3]) false fun _ => .ok "two", .disconnected]

/-- A block of this length is handed to a task at once. -/
theorem OpenAiBackend.fires_block {block : Pcm} (hlength : block.length = 80001) :
    machine.Fires ⟨.new, block, ⟨[], 5000⟩, [⟨block, 0, 5000⟩]⟩ := by
  have hduration : durationMs block = 5000 := by
    rw [durationMs_of_le (by omega), hlength]
    rfl
  simp [Machine.Fires, machine, sendAudio_eq, new, hlength, hduration]

/-- Both cut the first block from `0` to `5000`, and keep the second one. -/
theorem cuts_eq_twoBlocks :
    ∃ syncMoves thread asyncMoves backend,
      WorkerThread.machine.Run .start syncMoves thread ∧
      syncMoves.map Transition.input = twoBlocks ∧
      OpenAiBackend.machine.Run .new asyncMoves backend ∧
      asyncMoves.map OpenAiBackend.cut = syncMoves.filterMap WorkerThread.cut ∧
      syncMoves.filterMap WorkerThread.cut =
        [⟨List.replicate 80001 0, [(List.replicate 80001 0, 0, 5000)], []⟩, ⟨[3], [], [3]⟩] := by
  have hlength : (List.replicate 80001 (0 : Int16)).length = 80001 := List.length_replicate
  -- the first block
  obtain ⟨item, hfires, -⟩ := WorkerThread.fires_data hlength 0
  -- what follows it
  have hrest : ∃ syncRest thread asyncRest backend,
      WorkerThread.machine.exec ⟨⟨[], 0 + 5000⟩, true⟩ twoBlocks.tail =
        some (syncRest, thread) ∧
      OpenAiBackend.machine.exec ⟨[], 5000⟩ [[3]] = some (asyncRest, backend) ∧
      syncRest.filterMap WorkerThread.receivedBlock = [[3]] ∧
      asyncRest.map OpenAiBackend.cut = [⟨[3], [], [3]⟩] :=
    ⟨_, _, _, _, rfl, rfl, rfl, rfl⟩
  obtain ⟨syncRest, thread, asyncRest, backend, hsyncRest, hasyncRest, hreceived, hcuts⟩ := hrest
  have hsync := Machine.Run.cons hfires (Machine.exec_run hsyncRest)
  have hasync := Machine.Run.cons (OpenAiBackend.fires_block hlength)
    (Machine.exec_run hasyncRest)
  have huntimed : ∀ move ∈ syncRest, ¬ WorkerThread.TimedFlush move := by
    intro move hmem
    apply WorkerThread.not_timedFlush
    exact Machine.forall_input_of_exec
      (fun input => ∀ received service, input ≠ .received received true service) hsyncRest
      (by simp [twoBlocks]) move hmem
  have hsame := (cuts_eq hsync ?_ hasync ?_).1
  · refine ⟨_, thread, _, backend, hsync, ?_, hasync, hsame, ?_⟩
    · rw [List.map_cons, Machine.exec_inputs hsyncRest]
      rfl
    · rw [← hsame, List.map_cons, hcuts]
      rfl
  · intro move hmem
    rcases List.mem_cons.mp hmem with rfl | hmem
    · exact WorkerThread.not_timedFlush fun _ _ => nofun
    · exact huntimed move hmem
  · rw [List.map_cons, Machine.exec_inputs hasyncRest, List.filterMap_cons, hreceived]
    rfl

end Transcription
end MediaServer
