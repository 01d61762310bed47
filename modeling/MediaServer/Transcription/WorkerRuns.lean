import MediaServer.Foundation.Machine
import MediaServer.Transcription.Timeline

/-!
# Runs of the worker loop

`worker_loop` of the synchronous OpenAI backend on whatever it receives: blocks of any
length, timeouts, and perhaps at last the disconnect that ends it; with every outcome of
the elapsed-time test and of the service.

* `Accounted`: samples, lengths and times of the chunks, for every run;
* `pairwise_of_onTime`: the intervals of the chunks follow each other as long as their
  durations add up to a number of 64 bits, which is where the clock wraps;
* `chunks_and_segments`: both together, with the segments that are put on the channel.
-/

namespace MediaServer
namespace Transcription

open Foundation

/-! ## Intervals -/

/-- The sum of the durations of some chunks, without a bound. -/
def totalMs (chunks : List Chunk) : Nat :=
  (chunks.map fun chunk => (durationMs chunk.pcmData).toNat).sum

theorem totalMs_append (chunks : List Chunk) (last : Chunk) :
    totalMs (chunks ++ [last]) = totalMs chunks + (durationMs last.pcmData).toNat := by
  simp [totalMs]

/-- The clock shows the sum as long as it does not wrap. -/
theorem toNat_elapsedMs {chunks : List Chunk} (hbound : totalMs chunks < 2 ^ 64) :
    (elapsedMs chunks).toNat = totalMs chunks := by
  induction chunks with
  | nil => rfl
  | cons chunk rest ih =>
      have hcons : totalMs (chunk :: rest) =
          (durationMs chunk.pcmData).toNat + totalMs rest := by
        simp [totalMs]
      rw [hcons] at hbound ⊢
      rw [elapsedMs, UInt64.toNat_add, ih (by omega)]
      exact Nat.mod_eq_of_lt hbound

/-- Chunks that start after the chunks before them have intervals that follow each
other. -/
theorem pairwise_of_onTime {chunks : List Chunk} (honTime : OnTime chunks)
    (hbound : totalMs chunks < 2 ^ 64) :
    (chunks.Pairwise fun earlier later => earlier.endMs ≤ later.startMs) ∧
      ∀ chunk ∈ chunks, chunk.startMs ≤ chunk.endMs ∧ chunk.endMs.toNat ≤ totalMs chunks := by
  induction chunks using List.reverseRecOn with
  | nil => exact ⟨.nil, by simp⟩
  | append_singleton chunks last ih =>
      rw [totalMs_append] at hbound ⊢
      have hearlier : OnTime chunks := by
        intro before chunk after hsplit
        exact honTime before chunk (after ++ [last]) (by simp [hsplit])
      obtain ⟨hpairs, hintervals⟩ := ih hearlier (by omega)
      have hstart : last.startMs.toNat = totalMs chunks := by
        rw [honTime chunks last [] rfl]
        exact toNat_elapsedMs (by omega)
      have hend : last.endMs.toNat = totalMs chunks + (durationMs last.pcmData).toNat := by
        rw [Chunk.endMs, UInt64.toNat_add, hstart]
        exact Nat.mod_eq_of_lt hbound
      constructor
      · rw [List.pairwise_append]
        refine ⟨hpairs, List.pairwise_singleton _ _, ?_⟩
        intro chunk hmem other hlast
        rw [List.mem_singleton.mp hlast, UInt64.le_iff_toNat_le, hstart]
        exact (hintervals chunk hmem).2
      · intro chunk hmem
        rcases List.mem_append.mp hmem with hchunk | hlast
        · obtain ⟨hle, hbefore⟩ := hintervals chunk hchunk
          exact ⟨hle, by omega⟩
        · rw [List.mem_singleton.mp hlast, UInt64.le_iff_toNat_le, hstart, hend]
          omega

/-! ## The loop on what it receives -/

/-- What an iteration of the loop meets. -/
inductive ReceiveOutcome
  | received (received : Received) (elapsed : Bool) (service : Bytes → Except String String)
  /-- `RecvTimeoutError::Disconnected` -/
  | disconnected

/-- A chunk and what `transcribe_chunk_sync` makes of it. -/
structure Handed where
  chunk : Chunk
  result : Except String (Option TranscriptionSegment)

/-- The segment that is put on the channel, if any. -/
def Handed.segment (handed : Handed) : Option TranscriptionSegment := sentSegment handed.result

/-- The worker thread: the variables of its loop, and whether it is in the loop. -/
structure WorkerThread where
  loop : WorkerLoop
  running : Bool

namespace WorkerThread

def start : WorkerThread := ⟨.start, true⟩

/-- One iteration of the loop. -/
def step (thread : WorkerThread) : ReceiveOutcome → Option (WorkerThread × List Handed)
  | .received received elapsed service =>
      if thread.running then
        let (loop, chunk) := thread.loop.iterate received elapsed
        some ({ thread with loop := loop },
          chunk.toList.map fun chunk => ⟨chunk, transcribeChunkSync service chunk⟩)
      else none
  | .disconnected => if thread.running then some ({ thread with running := false }, []) else none

/-- The loop under every sequence of receive outcomes. -/
def machine : Machine WorkerThread ReceiveOutcome Handed where
  step := step

/-- A step of the loop with the states around it. -/
abbrev LoopMove := Transition WorkerThread ReceiveOutcome Handed

/-- What an iteration can do. -/
inductive LoopStep (move : LoopMove) : Prop
  | ended (hinput : move.input = .disconnected) (hloop : move.post.loop = move.pre.loop)
      (houtputs : move.outputs = [])
  | flushed (received : Received) (elapsed : Bool) (service : Bytes → Except String String)
      (hinput : move.input = .received received elapsed service)
      (hloop : move.post.loop = ⟨[], move.pre.loop.streamTimeMs +
        durationMs (WorkerLoop.extend move.pre.loop.buffer received)⟩)
      (houtputs : move.outputs =
        [⟨⟨WorkerLoop.extend move.pre.loop.buffer received, move.pre.loop.streamTimeMs⟩,
          transcribeChunkSync service
            ⟨WorkerLoop.extend move.pre.loop.buffer received, move.pre.loop.streamTimeMs⟩⟩])
      (hlong : 1600 ≤ (WorkerLoop.extend move.pre.loop.buffer received).length)
  | kept (received : Received) (elapsed : Bool) (service : Bytes → Except String String)
      (hinput : move.input = .received received elapsed service)
      (hloop : move.post.loop = ⟨WorkerLoop.extend move.pre.loop.buffer received,
        move.pre.loop.streamTimeMs⟩)
      (houtputs : move.outputs = [])
      (hshort : (WorkerLoop.extend move.pre.loop.buffer received).length ≤ 80000)

theorem loopStep_of_fires {move : LoopMove} (hfires : machine.Fires move) : LoopStep move := by
  obtain ⟨pre, input, post, outputs⟩ := move
  have hstep : pre.step input = some (post, outputs) := hfires
  cases input with
  | disconnected =>
      simp only [step] at hstep
      split at hstep
      · obtain ⟨rfl, rfl⟩ := Prod.mk.inj (Option.some.inj hstep)
        exact .ended rfl rfl rfl
      · contradiction
  | received received elapsed service =>
      simp only [step] at hstep
      split at hstep
      · obtain ⟨rfl, rfl⟩ := Prod.mk.inj (Option.some.inj hstep)
        rcases pre.loop.iterate_cases received elapsed with
          ⟨hflush, hlong⟩ | ⟨hkeep, hshort⟩
        · exact .flushed received elapsed service rfl (by rw [hflush]) (by rw [hflush]; rfl) hlong
        · exact .kept received elapsed service rfl (by rw [hkeep]) (by rw [hkeep]; rfl) hshort
      · contradiction

/-! ## What a run hands on -/

/-- The samples of what was received. -/
def samplesOf : ReceiveOutcome → Pcm
  | .received (.data block) _ _ => block
  | .received .timeout _ _ | .disconnected => []

def receivedSamples (moves : List LoopMove) : Pcm := moves.flatMap fun move => samplesOf move.input

/-- The chunks handed to `transcribe_chunk_sync`, with what it made of them. -/
def handed (moves : List LoopMove) : List Handed := moves.flatMap fun move => move.outputs

def chunks (moves : List LoopMove) : List Chunk := (handed moves).map Handed.chunk

/-- The segments put on the channel of the results. -/
def segments (moves : List LoopMove) : List TranscriptionSegment :=
  (handed moves).filterMap Handed.segment

section Append

variable (moves : List LoopMove) (move : LoopMove)

theorem receivedSamples_append :
    receivedSamples (moves ++ [move]) = receivedSamples moves ++ samplesOf move.input := by
  simp [receivedSamples]

theorem handed_append : handed (moves ++ [move]) = handed moves ++ move.outputs := by
  simp [handed]

theorem chunks_append :
    chunks (moves ++ [move]) = chunks moves ++ move.outputs.map Handed.chunk := by
  simp [chunks, handed_append]

end Append

/-- The samples of a receive are what the buffer is extended by. -/
theorem extend_eq (buffer : Pcm) (received : Received) (elapsed : Bool)
    (service : Bytes → Except String String) :
    WorkerLoop.extend buffer received =
      buffer ++ samplesOf (.received received elapsed service) := by
  cases received with
  | data block => rfl
  | timeout => exact (List.append_nil buffer).symm

/-! ## Samples, lengths and times -/

/-- What holds of the chunks handed on so far and of the variables of the loop. -/
structure Accounted (moves : List LoopMove) (thread : WorkerThread) : Prop where
  samples : (chunks moves).flatMap Chunk.pcmData ++ thread.loop.buffer = receivedSamples moves
  long : ∀ chunk ∈ chunks moves, 1600 ≤ chunk.pcmData.length
  buffered : thread.loop.buffer.length ≤ 80000
  onTime : OnTime (chunks moves)
  clock : thread.loop.streamTimeMs = elapsedMs (chunks moves)
  results : ∀ item ∈ handed moves,
    ∃ service, item.result = transcribeChunkSync service item.chunk

theorem accounted_start : Accounted [] start where
  samples := rfl
  long := by simp [chunks, handed]
  buffered := Nat.zero_le 80000
  onTime := onTime_nil
  clock := rfl
  results := by simp [handed]

/-- An iteration that hands nothing on, and keeps what it receives. -/
theorem Accounted.of_kept {moves : List LoopMove} {move : LoopMove}
    (haccount : Accounted moves move.pre) (houtputs : move.outputs = [])
    (hbuffer : move.post.loop.buffer = move.pre.loop.buffer ++ samplesOf move.input)
    (htime : move.post.loop.streamTimeMs = move.pre.loop.streamTimeMs)
    (hshort : move.post.loop.buffer.length ≤ 80000) : Accounted (moves ++ [move]) move.post := by
  have hhanded : handed (moves ++ [move]) = handed moves := by
    rw [handed_append, houtputs, List.append_nil]
  have hchunks : chunks (moves ++ [move]) = chunks moves := by rw [chunks, hhanded, chunks]
  refine ⟨?_, ?_, hshort, ?_, ?_, ?_⟩
  · rw [hchunks, hbuffer, receivedSamples_append, ← haccount.samples, List.append_assoc]
  · rw [hchunks]
    exact haccount.long
  · rw [hchunks]
    exact haccount.onTime
  · rw [hchunks, htime]
    exact haccount.clock
  · rw [hhanded]
    exact haccount.results

/-- An iteration keeps the account. -/
theorem Accounted.fires {moves : List LoopMove} {move : LoopMove}
    (haccount : Accounted moves move.pre) (hfires : machine.Fires move) :
    Accounted (moves ++ [move]) move.post := by
  cases loopStep_of_fires hfires with
  | ended hinput hloop houtputs =>
      apply haccount.of_kept houtputs
      · rw [hloop, hinput, samplesOf, List.append_nil]
      · rw [hloop]
      · rw [hloop]
        exact haccount.buffered
  | kept received elapsed service hinput hloop houtputs hshort =>
      apply haccount.of_kept houtputs
      · rw [hloop, hinput, ← extend_eq]
      · rw [hloop]
      · rwa [hloop]
  | flushed received elapsed service hinput hloop houtputs hlength =>
      obtain ⟨hsamples, hlong, -, honTime, hclock, hresults⟩ := haccount
      have hchunks : chunks (moves ++ [move]) = chunks moves ++
          [⟨WorkerLoop.extend move.pre.loop.buffer received, move.pre.loop.streamTimeMs⟩] := by
        simp [chunks_append, houtputs]
      refine ⟨?_, ?_, ?_, ?_, ?_, ?_⟩
      · rw [hchunks, hloop, receivedSamples_append, hinput, ← hsamples, List.append_assoc,
          ← extend_eq]
        simp
      · rw [hchunks]
        intro chunk hmem
        rcases List.mem_append.mp hmem with hearlier | hlast
        · exact hlong chunk hearlier
        · rw [List.mem_singleton.mp hlast]
          exact hlength
      · rw [hloop]
        exact Nat.zero_le 80000
      · rw [hchunks]
        exact onTime_append honTime hclock
      · rw [hchunks, hloop, elapsedMs_append, ← hclock]
      · rw [handed_append, houtputs]
        intro item hmem
        rcases List.mem_append.mp hmem with hearlier | hlast
        · exact hresults item hearlier
        · rw [List.mem_singleton.mp hlast]
          exact ⟨service, rfl⟩

section Run

variable {final : WorkerThread} {moves : List LoopMove}

theorem accounted_run (hrun : machine.Run start moves final) : Accounted moves final :=
  hrun.history Accounted (fun _ _ _ hfires haccount => haccount.fires hfires) accounted_start

/-- A segment has the times of its chunk. -/
theorem Accounted.segment_times (haccount : Accounted moves final) {item : Handed}
    (hmem : item ∈ handed moves) {segment : TranscriptionSegment}
    (hsegment : item.segment = some segment) :
    segment.startMs = item.chunk.startMs ∧ segment.endMs = item.chunk.endMs := by
  obtain ⟨service, hresult⟩ := haccount.results item hmem
  have hok : transcribeChunkSync service item.chunk = .ok (some segment) := by
    unfold Handed.segment sentSegment at hsegment
    split at hsegment
    · rename_i result hresult'
      rw [← hresult, hresult', hsegment]
    · contradiction
  exact OpenAiSession.segment_of_transcribe hok

/-- The segments follow each other as their chunks do. -/
theorem Accounted.segments_pairwise (haccount : Accounted moves final)
    (hbound : totalMs (chunks moves) < 2 ^ 64) :
    ((segments moves).Pairwise fun earlier later => earlier.endMs ≤ later.startMs) ∧
      ∀ segment ∈ segments moves, segment.startMs ≤ segment.endMs := by
  obtain ⟨hpairs, hintervals⟩ := pairwise_of_onTime haccount.onTime hbound
  constructor
  · rw [chunks, List.pairwise_map] at hpairs
    rw [segments, List.pairwise_filterMap]
    refine hpairs.imp_of_mem ?_
    intro earlier later hearlier hlater hle first hfirst second hsecond
    rw [(haccount.segment_times hearlier hfirst).2, (haccount.segment_times hlater hsecond).1]
    exact hle
  · intro segment hmem
    obtain ⟨item, hitem, hsegment⟩ := List.mem_filterMap.mp hmem
    obtain ⟨hstart, hend⟩ := haccount.segment_times hitem hsegment
    rw [hstart, hend]
    exact (hintervals item.chunk (List.mem_map_of_mem hitem)).1

/-- Whatever the loop receives: the chunks and then the buffer are the samples received,
no chunk is shorter than a tenth of a second, no more than five seconds stay in the
buffer, the chunks start at 0 and follow each other, and each segment has the times of
its chunk.  As long as the clock does not wrap the segments are in order and do not
overlap. -/
theorem chunks_and_segments (hrun : machine.Run start moves final) :
    (chunks moves).flatMap Chunk.pcmData ++ final.loop.buffer = receivedSamples moves ∧
      (∀ chunk ∈ chunks moves, 1600 ≤ chunk.pcmData.length) ∧
      final.loop.buffer.length ≤ 80000 ∧
      (∀ first later, chunks moves = first :: later → first.startMs = 0) ∧
      (∀ before chunk next after, chunks moves = before ++ chunk :: next :: after →
        chunk.endMs = next.startMs) ∧
      (∀ item ∈ handed moves, ∀ segment, item.segment = some segment →
        segment.startMs = item.chunk.startMs ∧ segment.endMs = item.chunk.endMs) ∧
      (totalMs (chunks moves) < 2 ^ 64 →
        ((segments moves).Pairwise fun earlier later => earlier.endMs ≤ later.startMs) ∧
          ∀ segment ∈ segments moves, segment.startMs ≤ segment.endMs) := by
  have haccount := accounted_run hrun
  refine ⟨haccount.samples, haccount.long, haccount.buffered, ?_, ?_, ?_,
    haccount.segments_pairwise⟩
  · intro first later hsplit
    exact haccount.onTime [] first later hsplit
  · intro before chunk next after hsplit
    exact endMs_eq_startMs haccount.onTime hsplit
  · intro item hmem segment hsegment
    exact haccount.segment_times hmem hsegment

end Run

/-- A tenth of a second when five seconds have passed, twice, and the end. -/
def twoTenths : List ReceiveOutcome :=
  [.received (.data (List.replicate 1600 0)) true fun _ => .ok "one",
    .received .timeout true fun _ => .error "no answer",
    .received (.data (List.replicate 1600 0)) true fun _ => .ok "two", .disconnected]

set_option maxRecDepth 20000 in
theorem chunks_and_segments_twoTenths :
    ∃ moves final first second,
      machine.exec start twoTenths = some (moves, final) ∧ chunks moves = [first, second] ∧
      first.startMs = 0 ∧ first.endMs = second.startMs ∧
      (segments moves).Pairwise fun earlier later => earlier.endMs ≤ later.startMs := by
  have hexec : ∃ moves final first second,
      machine.exec start twoTenths = some (moves, final) ∧ chunks moves = [first, second] ∧
      totalMs (chunks moves) < 2 ^ 64 :=
    ⟨_, _, _, _, rfl, rfl, by decide⟩
  obtain ⟨moves, final, first, second, hexec, hchunks, hbound⟩ := hexec
  obtain ⟨-, -, -, hfirst, hnext, -, hsegments⟩ := chunks_and_segments (Machine.exec_run hexec)
  exact ⟨moves, final, first, second, hexec, hchunks, hfirst first [second] hchunks,
    hnext [] first second [] hchunks, (hsegments hbound).1⟩

/-! ## The end of the clock -/

/-- A block of a little more than five seconds, and a word for it. -/
def fiveSeconds : ReceiveOutcome :=
  .received (.data (List.replicate 80001 0)) false fun _ => .ok "word"

/-- The segment of such a block. -/
def wordAt (startMs : UInt64) : TranscriptionSegment :=
  { startMs := startMs, endMs := startMs + 5000, text := "word" }

/-- A block of this length is handed on at once. -/
theorem fires_data {block : Pcm} (hlength : block.length = 80001) (time : UInt64) :
    ∃ item : Handed, machine.Fires
        ⟨⟨⟨[], time⟩, true⟩, .received (.data block) false fun _ => .ok "word",
          ⟨⟨[], time + 5000⟩, true⟩, [item]⟩ ∧
      item.segment = some (wordAt time) := by
  have hduration : durationMs block = 5000 := by
    rw [durationMs_of_le (by omega), hlength]
    rfl
  have hnonempty : block ≠ [] := by
    rintro rfl
    contradiction
  refine ⟨⟨⟨block, time⟩, transcribeChunkSync (fun _ => .ok "word") ⟨block, time⟩⟩, ?_, ?_⟩
  · rcases WorkerLoop.iterate_cases ⟨[], time⟩ (.data block) false with
      ⟨hflush, -⟩ | ⟨-, hshort⟩
    · simp only [Machine.Fires, machine, step, if_true, hflush, WorkerLoop.extend,
        List.nil_append, hduration]
      rfl
    · simp only [WorkerLoop.extend, List.nil_append] at hshort
      omega
  · have htext : ¬ Text.trim "word".toList = [] := by decide
    simp only [Handed.segment, sentSegment, transcribeChunkSync, if_neg hnonempty, if_neg htext]
    simp [wordAt, Chunk.endMs, hduration]

theorem fires_fiveSeconds (time : UInt64) :
    ∃ item : Handed, machine.Fires
        ⟨⟨⟨[], time⟩, true⟩, fiveSeconds, ⟨⟨[], time + 5000⟩, true⟩, [item]⟩ ∧
      item.segment = some (wordAt time) :=
  fires_data List.length_replicate time

/-- Any number of such blocks. -/
theorem run_fiveSeconds (count : Nat) (time : UInt64) :
    ∃ moves final, machine.Run ⟨⟨[], time⟩, true⟩ moves final ∧
      moves.map Transition.input = List.replicate count fiveSeconds ∧
      segments moves = (List.range count).map fun k => wordAt (time + UInt64.ofNat (5000 * k)) := by
  induction count generalizing time with
  | zero => exact ⟨[], _, .nil _, rfl, rfl⟩
  | succ count ih =>
      obtain ⟨item, hfires, hsegment⟩ := fires_fiveSeconds time
      obtain ⟨moves, final, hrun, hinputs, hsegments⟩ := ih (time + 5000)
      refine ⟨_ :: moves, final, .cons hfires hrun, ?_, ?_⟩
      · rw [List.map_cons, hinputs, List.replicate_succ]
      · have hlater : ∀ k : Nat, time + 5000 + UInt64.ofNat (5000 * k) =
            time + UInt64.ofNat (5000 * (k + 1)) := by
          intro k
          rw [Nat.mul_add, Nat.add_comm, UInt64.ofNat_add, UInt64.add_assoc]
          rfl
        have hfirst : time + UInt64.ofNat (5000 * 0) = time := UInt64.add_zero time
        rw [List.range_succ_eq_map, List.map_cons, List.map_map, hfirst]
        simp only [hlater] at hsegments
        show List.filterMap Handed.segment (item :: handed moves) = _
        rw [List.filterMap_cons_some hsegment]
        exact congrArg (wordAt time :: ·) hsegments

/-- After 3689348814741911 blocks, at 5000ms each, the clock has wrapped: the segment of
the next block starts before the first segment ends. -/
theorem segments_overlap : ∃ moves final, machine.Run start moves final ∧
    moves.map Transition.input = List.replicate 3689348814741912 fiveSeconds ∧
    ¬ (segments moves).Pairwise fun earlier later => earlier.endMs ≤ later.startMs := by
  obtain ⟨moves, final, hrun, hinputs, hsegments⟩ := run_fiveSeconds 3689348814741912 0
  refine ⟨moves, final, hrun, hinputs, ?_⟩
  intro hpairs
  rw [hsegments, List.pairwise_map, List.pairwise_iff_getElem] at hpairs
  have hwrapped := hpairs 0 3689348814741911 (by rw [List.length_range]; decide)
    (by rw [List.length_range]; decide) (by decide)
  rw [List.getElem_range, List.getElem_range] at hwrapped
  exact absurd hwrapped (by decide)

end WorkerThread
end Transcription
end MediaServer
