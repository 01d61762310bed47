import MediaServer.Transcription.WorkerRuns

/-!
# The end of an OpenAI session

When `OpenAiSyncBackend` is dropped its worker still takes the blocks that wait, and
leaves its loop at the first receive after them.  It leaves before the test that could
hand on the buffer once more.

* `passes`: the iterations of a backend's worker are a run of the worker loop;
* `Balanced`: what was accepted is what was handed on, what is in the buffer and what
  waits, and the channel of the results has taken the segments;
* `handed_eq_accepted_iff`: when the worker is done, everything accepted was handed on
  exactly if nothing came in after the last flush.
-/

namespace MediaServer
namespace Transcription

open Foundation

/-! ## What is left of the samples received -/

/-- The samples not handed on after a receive, when there were `pending` before. -/
def pendingNext (pending : Nat) : ReceiveOutcome → Nat
  | .received received elapsed service =>
      let pending := pending + (WorkerThread.samplesOf (.received received elapsed service)).length
      if pending > 80000 ∨ (pending ≥ 1600 ∧ elapsed) then 0 else pending
  | .disconnected => pending

/-- The samples received after the last flush. -/
def pendingAfter (outcomes : List ReceiveOutcome) : Nat := outcomes.foldl pendingNext 0

theorem pendingAfter_append (outcomes : List ReceiveOutcome) (outcome : ReceiveOutcome) :
    pendingAfter (outcomes ++ [outcome]) = pendingNext (pendingAfter outcomes) outcome := by
  simp [pendingAfter]

theorem WorkerLoop.shouldFlush_iff {buffer : Pcm} {elapsed : Bool} :
    WorkerLoop.shouldFlush buffer elapsed = true ↔
      buffer.length > 80000 ∨ (buffer.length ≥ 1600 ∧ elapsed) := by
  have hrate : openAiSampleRate.toNat * 5 = 80000 := rfl
  have hmin : (openAiSampleRate / 10).toNat = 1600 := rfl
  simp [shouldFlush, hrate, hmin]

namespace WorkerThread

/-- An iteration leaves in the buffer what is pending after it. -/
theorem length_buffer_of_fires {move : LoopMove} (hfires : machine.Fires move) :
    move.post.loop.buffer.length = pendingNext move.pre.loop.buffer.length move.input := by
  obtain ⟨pre, input, post, outputs⟩ := move
  have hstep : pre.step input = some (post, outputs) := hfires
  cases input with
  | disconnected =>
      simp only [step] at hstep
      split at hstep
      · obtain ⟨rfl, rfl⟩ := Prod.mk.inj (Option.some.inj hstep)
        rfl
      · contradiction
  | received received elapsed service =>
      simp only [step] at hstep
      split at hstep
      · obtain ⟨rfl, rfl⟩ := Prod.mk.inj (Option.some.inj hstep)
        have hlength : (WorkerLoop.extend pre.loop.buffer received).length =
            pre.loop.buffer.length +
              (samplesOf (.received received elapsed service)).length := by
          rw [extend_eq, List.length_append]
        simp only [pendingNext, WorkerLoop.iterate, WorkerLoop.shouldFlush_iff, ← hlength]
        split <;> rfl
      · contradiction

/-- What came in after the last flush is in the buffer. -/
theorem length_buffer_of_run {final : WorkerThread} {moves : List LoopMove}
    (hrun : machine.Run start moves final) :
    final.loop.buffer.length = pendingAfter (moves.map Transition.input) := by
  refine hrun.history (fun moves thread =>
    thread.loop.buffer.length = pendingAfter (moves.map Transition.input)) ?_ rfl
  rintro moves move - hfires hlength
  rw [List.map_append, List.map_singleton, pendingAfter_append, ← hlength]
  exact length_buffer_of_fires hfires

end WorkerThread

/-! ## A backend and its worker -/

/-- What happens to a backend. -/
inductive BackendInput
  | sendAudio (data : Pcm)
  | tryRecv
  /-- an iteration of the worker loop -/
  | iterate (elapsed : Bool) (service : Bytes → Except String String)
  | drop

namespace OpenAiSyncBackend

/-- The worker thread of a backend. -/
def thread (backend : OpenAiSyncBackend) : WorkerThread := ⟨backend.worker, backend.running⟩

/-- What the worker meets in its next iteration. -/
def outcome (backend : OpenAiSyncBackend) (elapsed : Bool)
    (service : Bytes → Except String String) : ReceiveOutcome :=
  match backend.audio.pop with
  | some (block, _) => .received (.data block) elapsed service
  | none => if backend.held then .received .timeout elapsed service else .disconnected

/-- One step of the backend or of its worker. -/
def step (backend : OpenAiSyncBackend) :
    BackendInput → Option (OpenAiSyncBackend × List Chunk)
  | .sendAudio data => if backend.held then some (backend.sendAudio data, []) else none
  | .tryRecv =>
      if backend.held then
        match backend.results.tryRecv with
        | none => some (backend, [])
        | some (_, results) => some ({ backend with results := results }, [])
      else none
  | .iterate elapsed service => backend.workerLoop elapsed service
  | .drop => if backend.held then some (backend.drop, []) else none

/-- The backend under every interleaving of its callers with its worker; the outputs are
the chunks handed to `transcribe_chunk_sync`. -/
def machine : Machine OpenAiSyncBackend BackendInput Chunk where
  step := step

/-- A step of the backend with the states around it. -/
abbrev BackendMove := Transition OpenAiSyncBackend BackendInput Chunk

/-- The iteration of the worker loop in a step, if it is one. -/
def pass (move : BackendMove) : List WorkerThread.LoopMove :=
  match move.input with
  | .iterate elapsed service =>
      [⟨move.pre.thread, move.pre.outcome elapsed service, move.post.thread,
        move.outputs.map fun chunk => ⟨chunk, transcribeChunkSync service chunk⟩⟩]
  | _ => []

/-- The iterations of the worker loop in a run. -/
def passes (moves : List BackendMove) : List WorkerThread.LoopMove := moves.flatMap pass

/-- An iteration of the worker of a backend is one of the worker loop, on the block that
waited longest. -/
theorem workerLoop_spec {backend next : OpenAiSyncBackend} {elapsed : Bool}
    {service : Bytes → Except String String} {handed : List Chunk}
    (hloop : backend.workerLoop elapsed service = some (next, handed)) :
    WorkerThread.machine.Fires ⟨backend.thread, backend.outcome elapsed service, next.thread,
        handed.map fun chunk => ⟨chunk, transcribeChunkSync service chunk⟩⟩ ∧
      next.held = backend.held ∧
      backend.audio.waiting.flatten =
        WorkerThread.samplesOf (backend.outcome elapsed service) ++ next.audio.waiting.flatten ∧
      (next.running = false → next.held = false ∧ next.audio.waiting = []) ∧
      next.results = (handed.filterMap fun chunk =>
        Handed.segment ⟨chunk, transcribeChunkSync service chunk⟩).foldl Receiver.send
          backend.results := by
  obtain ⟨hrunning, ⟨hpop, hdropped, rfl, rfl⟩ |
    ⟨received, audio, hreceived, rfl, rfl⟩⟩ := OpenAiSession.workerLoop_cases hloop
  · have houtcome : backend.outcome elapsed service = .disconnected := by
      rw [outcome, hpop, hdropped]
      rfl
    rw [houtcome]
    refine ⟨?_, rfl, rfl, fun _ => ⟨hdropped, Fifo.pop_eq_none_iff.mp hpop⟩, rfl⟩
    exact if_pos hrunning
  · have houtcome : backend.outcome elapsed service = .received received elapsed service := by
      rcases hreceived with ⟨rfl, hpop, hheld, -⟩ | ⟨block, rfl, hpop⟩
      · rw [outcome, hpop, hheld]
        rfl
      · rw [outcome, hpop]
    have hwaiting : backend.audio.waiting.flatten =
        WorkerThread.samplesOf (.received received elapsed service) ++ audio.waiting.flatten := by
      rcases hreceived with ⟨rfl, -, -, rfl⟩ | ⟨block, rfl, hpop⟩
      · rfl
      · obtain ⟨rest, hwaiting, rfl⟩ := Fifo.pop_eq_some_iff.mp hpop
        rw [hwaiting]
        rfl
    rw [houtcome]
    refine ⟨?_, rfl, hwaiting, ?_, rfl⟩
    · simp only [Machine.Fires, WorkerThread.machine, WorkerThread.step, thread, hrunning, if_true]
    · intro hended
      rw [hrunning] at hended
      contradiction

/-- What a step can do. -/
inductive BackendStep (move : BackendMove) : Prop
  | sent (data : Pcm) (hinput : move.input = .sendAudio data)
      (hpost : move.post = move.pre.sendAudio data) (houtputs : move.outputs = [])
      (hheld : move.pre.held = true)
  | quiet (hinput : move.input = .tryRecv ∨ move.input = .drop)
      (hthread : move.post.thread = move.pre.thread) (haudio : move.post.audio = move.pre.audio)
      (houtputs : move.outputs = []) (hheld : move.pre.held = true)
      (hresults : move.post.held = true → move.pre.results.isLive = true →
        move.post.results.isLive = true ∧ move.post.results.received = move.pre.results.received)
  | iterated (elapsed : Bool) (service : Bytes → Except String String)
      (hinput : move.input = .iterate elapsed service)
      (hloop : move.pre.workerLoop elapsed service = some (move.post, move.outputs))

theorem backendStep_of_fires {move : BackendMove} (hfires : machine.Fires move) :
    BackendStep move := by
  obtain ⟨pre, input, post, outputs⟩ := move
  have hstep : pre.step input = some (post, outputs) := hfires
  cases input with
  | sendAudio data =>
      simp only [step] at hstep
      split at hstep
      · rename_i hheld
        obtain ⟨rfl, rfl⟩ := Prod.mk.inj (Option.some.inj hstep)
        exact .sent data rfl rfl rfl hheld
      · contradiction
  | tryRecv =>
      simp only [step] at hstep
      split at hstep
      · rename_i hheld
        split at hstep
        · obtain ⟨rfl, rfl⟩ := Prod.mk.inj (Option.some.inj hstep)
          exact .quiet (.inl rfl) rfl rfl rfl hheld fun _ hlive => ⟨hlive, rfl⟩
        · rename_i segment results hrecv
          obtain ⟨rfl, rfl⟩ := Prod.mk.inj (Option.some.inj hstep)
          obtain ⟨-, -, -, -, hstill⟩ := Receiver.tryRecv_eq_some hrecv
          exact .quiet (.inl rfl) rfl rfl rfl hheld
            fun _ _ => ⟨hstill, Receiver.received_tryRecv hrecv⟩
      · contradiction
  | iterate elapsed service => exact .iterated elapsed service rfl hstep
  | drop =>
      simp only [step] at hstep
      split at hstep
      · rename_i hheld
        obtain ⟨rfl, rfl⟩ := Prod.mk.inj (Option.some.inj hstep)
        exact .quiet (.inr rfl) rfl rfl rfl hheld fun hdropped => by contradiction
      · contradiction

theorem thread_sendAudio (backend : OpenAiSyncBackend) (data : Pcm) :
    (backend.sendAudio data).thread = backend.thread := by
  unfold sendAudio
  split <;> rfl

/-- A step of the backend seen by the worker thread. -/
theorem pass_of_fires {move : BackendMove} (hfires : machine.Fires move) :
    WorkerThread.machine.Run move.pre.thread (pass move) move.post.thread := by
  cases backendStep_of_fires hfires with
  | sent data hinput hpost houtputs hheld =>
      simp only [pass, hinput, hpost]
      rw [thread_sendAudio]
      exact .nil _
  | quiet hinput hthread haudio houtputs hheld hresults =>
      rw [hthread]
      rcases hinput with hinput | hinput
      · simp only [pass, hinput]
        exact .nil _
      · simp only [pass, hinput]
        exact .nil _
  | iterated elapsed service hinput hloop =>
      simp only [pass, hinput]
      exact .cons (workerLoop_spec hloop).1 (.nil _)

/-! ## What was accepted -/

/-- The samples that a step has `send_audio` accept. -/
def acceptedBy (move : BackendMove) : Pcm :=
  match move.input, move.pre.sendOutcome with
  | .sendAudio data, .ok _ => data
  | _, _ => []

/-- The samples accepted by `send_audio`. -/
def accepted (moves : List BackendMove) : Pcm := moves.flatMap acceptedBy

/-- The samples handed to `transcribe_chunk_sync`. -/
def handed (moves : List BackendMove) : Pcm :=
  (moves.flatMap fun move => move.outputs).flatMap Chunk.pcmData

/-- The worker has received what was accepted and does not wait, it stays in its loop until
there is nothing more to come, and its segments are on the channel of the results. -/
structure Balanced (moves : List BackendMove) (backend : OpenAiSyncBackend) : Prop where
  samples : WorkerThread.receivedSamples (passes moves) ++ backend.audio.waiting.flatten =
    accepted moves
  ended : backend.running = false → backend.held = false ∧ backend.audio.waiting = []
  results : backend.held = true → backend.results.isLive = true ∧
    backend.results.received = WorkerThread.segments (passes moves)

theorem balanced_new : Balanced [] new := ⟨rfl, by simp [new], fun _ => ⟨rfl, rfl⟩⟩

theorem Balanced.fires {moves : List BackendMove} {move : BackendMove}
    (hbalanced : Balanced moves move.pre) (hfires : machine.Fires move) :
    Balanced (moves ++ [move]) move.post := by
  obtain ⟨hsamples, hended, hsegments⟩ := hbalanced
  have hpasses : WorkerThread.receivedSamples (passes (moves ++ [move])) =
      WorkerThread.receivedSamples (passes moves) ++
        WorkerThread.receivedSamples (pass move) := by
    simp [passes, WorkerThread.receivedSamples]
  have hmore : WorkerThread.segments (passes (moves ++ [move])) =
      WorkerThread.segments (passes moves) ++ WorkerThread.segments (pass move) := by
    simp [passes, WorkerThread.segments, WorkerThread.handed]
  have haccepted : accepted (moves ++ [move]) = accepted moves ++ acceptedBy move := by
    simp [accepted]
  rw [← hsamples] at haccepted
  cases backendStep_of_fires hfires with
  | sent data hinput hpost houtputs hheld =>
      have hrunning : move.pre.running = true := by
        by_contra hnot
        obtain ⟨hdropped, -⟩ := hended (Bool.eq_false_of_not_eq_true hnot)
        rw [hdropped] at hheld
        contradiction
      have hpass : pass move = [] := by simp only [pass, hinput]
      have hdata : acceptedBy move = data := by
        simp only [acceptedBy, hinput, sendOutcome, hrunning, if_true]
      have hsent : move.post = { move.pre with audio := move.pre.audio.push data } := by
        rw [hpost, sendAudio, if_pos hrunning]
      refine ⟨?_, ?_, ?_⟩
      · rw [hpasses, hpass, haccepted, hdata, hsent]
        simp [WorkerThread.receivedSamples]
      · rw [hsent]
        intro hstopped
        rw [hrunning] at hstopped
        contradiction
      · rw [hsent, hmore, hpass]
        intro _
        obtain ⟨hlive, hreceived⟩ := hsegments hheld
        exact ⟨hlive, hreceived.trans (List.append_nil _).symm⟩
  | quiet hinput hthread haudio houtputs hheld hresults =>
      have hpass : pass move = [] := by
        rcases hinput with hinput | hinput <;> simp only [pass, hinput]
      have hdata : acceptedBy move = [] := by
        rcases hinput with hinput | hinput <;> simp only [acceptedBy, hinput]
      have hrunning : move.post.running = move.pre.running := congrArg WorkerThread.running hthread
      refine ⟨?_, ?_, ?_⟩
      · rw [hpasses, hpass, haccepted, hdata, haudio]
        simp [WorkerThread.receivedSamples]
      · rw [hrunning]
        intro hstopped
        rw [(hended hstopped).1] at hheld
        contradiction
      · rw [hmore, hpass]
        intro hstill
        obtain ⟨hlive, hreceived⟩ := hsegments hheld
        obtain ⟨hnext, hsame⟩ := hresults hstill hlive
        exact ⟨hnext, (hsame.trans hreceived).trans (List.append_nil _).symm⟩
  | iterated elapsed service hinput hloop =>
      obtain ⟨-, hsame, hwaiting, hstops, hresults⟩ := workerLoop_spec hloop
      have hpass : WorkerThread.receivedSamples (pass move) =
          WorkerThread.samplesOf (move.pre.outcome elapsed service) := by
        simp [pass, hinput, WorkerThread.receivedSamples]
      have hsent : WorkerThread.segments (pass move) = move.outputs.filterMap fun chunk =>
          Handed.segment ⟨chunk, transcribeChunkSync service chunk⟩ := by
        simp only [pass, hinput, WorkerThread.segments, WorkerThread.handed,
          List.flatMap_singleton, List.filterMap_map]
        rfl
      have hdata : acceptedBy move = [] := by simp only [acceptedBy, hinput]
      refine ⟨?_, hstops, ?_⟩
      · rw [hpasses, hpass, haccepted, hdata, hwaiting, List.append_nil, List.append_assoc]
      · rw [hsame, hresults, hmore, hsent]
        intro hheld
        obtain ⟨hlive, hreceived⟩ := hsegments hheld
        obtain ⟨hnext, hstill⟩ := Receiver.received_foldl_send move.pre.results _ hlive
        rw [← hreceived]
        exact ⟨hstill, hnext⟩

section Run

variable {final : OpenAiSyncBackend} {moves : List BackendMove}

/-- The worker of a backend runs its loop. -/
theorem passes_run (hrun : machine.Run new moves final) :
    WorkerThread.machine.Run .start (passes moves) final.thread :=
  hrun.simulate thread pass fun _ hfires => pass_of_fires hfires

theorem balanced_run (hrun : machine.Run new moves final) : Balanced moves final :=
  hrun.history Balanced (fun _ _ _ hfires hbalanced => hbalanced.fires hfires) balanced_new

/-- The chunks of the backend are those of its worker. -/
theorem handed_eq_chunks (hrun : machine.Run new moves final) :
    handed moves = (WorkerThread.chunks (passes moves)).flatMap Chunk.pcmData := by
  have hchunks : ∀ move ∈ moves, move.outputs = WorkerThread.chunks (pass move) := by
    intro move hmem
    cases backendStep_of_fires (hrun.fires_of_mem hmem) with
    | sent data hinput hpost houtputs hheld => simp only [pass, hinput, houtputs]; rfl
    | quiet hinput hthread haudio houtputs hheld hresults =>
        rcases hinput with hinput | hinput <;> simp only [pass, hinput, houtputs] <;> rfl
    | iterated elapsed service hinput hloop =>
        simp only [pass, hinput, WorkerThread.chunks, WorkerThread.handed, List.flatMap_singleton,
          List.map_map]
        exact (List.map_id move.outputs).symm
  have hall : (moves.flatMap fun move => move.outputs) =
      moves.flatMap fun move => WorkerThread.chunks (pass move) :=
    List.flatMap_congr hchunks
  rw [handed, hall]
  simp only [passes, WorkerThread.chunks, WorkerThread.handed, List.flatMap_assoc,
    List.map_flatMap]

/-- At any time the samples accepted are those handed on, then those in the buffer, then
those that wait. -/
theorem accepted_eq (hrun : machine.Run new moves final) :
    accepted moves = handed moves ++ final.worker.buffer ++ final.audio.waiting.flatten := by
  have hsamples := (WorkerThread.accounted_run (passes_run hrun)).samples
  rw [handed_eq_chunks hrun, ← (balanced_run hrun).samples, ← hsamples]
  rfl

/-- Until the backend is dropped, the channel of the results has taken the segments of the
chunks. -/
theorem received_eq_segments (hrun : machine.Run new moves final) (hheld : final.held = true) :
    final.results.received = WorkerThread.segments (passes moves) :=
  ((balanced_run hrun).results hheld).2

/-- When the worker of a dropped backend has ended, all accepted samples have been handed
on exactly if no samples were received after the last flush. -/
theorem handed_eq_accepted_iff (hrun : machine.Run new moves final)
    (hended : final.running = false) :
    handed moves = accepted moves ↔
      pendingAfter ((passes moves).map Transition.input) = 0 := by
  have hwaiting : final.audio.waiting.flatten = [] := by
    rw [((balanced_run hrun).ended hended).2]
    rfl
  have hbuffer : final.worker.buffer.length =
      pendingAfter ((passes moves).map Transition.input) :=
    WorkerThread.length_buffer_of_run (passes_run hrun)
  rw [accepted_eq hrun, hwaiting, List.append_nil, ← hbuffer, List.length_eq_zero_iff]
  constructor
  · intro hall
    simpa using hall.symm
  · intro hempty
    rw [hempty, List.append_nil]

end Run

/-- A tenth of a second is handed on because five seconds have passed. -/
def flushedInTime : List BackendInput :=
  [.sendAudio (List.replicate 1600 0), .iterate true fun _ => .ok "word", .drop,
    .iterate false fun _ => .ok "word"]

set_option maxRecDepth 20000 in
theorem handed_eq_accepted_iff_flushedInTime :
    ∃ moves final, machine.exec new flushedInTime = some (moves, final) ∧
      final.running = false ∧ handed moves = accepted moves := by
  have hexec : ∃ moves final, machine.exec new flushedInTime = some (moves, final) ∧
      final.running = false ∧ pendingAfter ((passes moves).map Transition.input) = 0 :=
    ⟨_, _, rfl, rfl, rfl⟩
  obtain ⟨moves, final, hexec, hended, hpending⟩ := hexec
  exact ⟨moves, final, hexec, hended,
    (handed_eq_accepted_iff (Machine.exec_run hexec) hended).mpr hpending⟩

/-- A block of 20ms comes in, and the backend is dropped. -/
def droppedAfterBlock : List BackendInput :=
  [.sendAudio (List.replicate 320 7), .drop, .iterate false fun _ => .ok "word",
    .iterate false fun _ => .ok "word"]

set_option maxRecDepth 20000 in
/-- The worker receives the block, and ends without handing it on. -/
theorem block_lost :
    ∃ moves final, machine.exec new droppedAfterBlock = some (moves, final) ∧
      final.running = false ∧ accepted moves = List.replicate 320 7 ∧ handed moves = [] :=
  ⟨_, _, rfl, rfl, rfl, rfl⟩

end OpenAiSyncBackend

namespace OpenAiSession

variable {δ : Type}

/-- A step of a session seen by its backend. -/
def seenByBackend (codec : Codec δ) (move : OpenAiMove δ) : List OpenAiSyncBackend.BackendMove :=
  match move.input with
  | .processAudio opusData =>
      match (codec.decode move.pre.session.decoder opusData).1 with
      | .error _ => []
      | .ok pcm => [⟨move.pre.backend, .sendAudio pcm, move.post.backend, []⟩]
  | .tryRecv => [⟨move.pre.backend, .tryRecv, move.post.backend, []⟩]
  | .iterate elapsed service =>
      [⟨move.pre.backend, .iterate elapsed service, move.post.backend, move.outputs⟩]
  | .drop => [⟨move.pre.backend, .drop, move.post.backend, []⟩]

theorem seenByBackend_of_fires {codec : Codec δ} {move : OpenAiMove δ}
    (hfires : (machine codec).Fires move) :
    OpenAiSyncBackend.machine.Run move.pre.backend (seenByBackend codec move)
      move.post.backend := by
  obtain ⟨pre, input, post, outputs⟩ := move
  have hstep : pre.step codec input = some (post, outputs) := hfires
  cases input with
  | processAudio opusData =>
      simp only [step] at hstep
      split at hstep
      · rename_i hheld
        obtain ⟨rfl, rfl⟩ := Prod.mk.inj (Option.some.inj hstep)
        simp only [seenByBackend, processAudio, TranscriptionSession.processAudio]
        rcases codec.decode pre.session.decoder opusData with ⟨reason | pcm, decoder⟩
        · exact .nil _
        · have hsent : OpenAiSyncBackend.machine.Fires
              ⟨pre.backend, .sendAudio pcm, pre.backend.sendAudio pcm, []⟩ := if_pos hheld
          exact .cons hsent (.nil _)
      · contradiction
  | tryRecv =>
      have hreceived : OpenAiSyncBackend.machine.Fires
          ⟨pre.backend, .tryRecv, post.backend, []⟩ := by
        simp only [step] at hstep
        simp only [Machine.Fires, OpenAiSyncBackend.machine, OpenAiSyncBackend.step]
        split at hstep
        · rename_i hheld
          rw [if_pos hheld]
          cases hrecv : pre.backend.results.tryRecv with
          | none =>
              rw [hrecv] at hstep
              obtain ⟨rfl, rfl⟩ := Prod.mk.inj (Option.some.inj hstep)
              rfl
          | some found =>
              rw [hrecv] at hstep
              obtain ⟨rfl, rfl⟩ := Prod.mk.inj (Option.some.inj hstep)
              rfl
        · contradiction
      exact .cons hreceived (.nil _)
  | iterate elapsed service =>
      obtain ⟨⟨backend, handed⟩, hloop, hboth⟩ := Option.map_eq_some_iff.mp hstep
      obtain ⟨rfl, rfl⟩ := Prod.mk.inj hboth
      have hiterated : OpenAiSyncBackend.machine.Fires
          ⟨pre.backend, .iterate elapsed service, backend, handed⟩ := hloop
      exact .cons hiterated (.nil _)
  | drop =>
      have hdropped : OpenAiSyncBackend.machine.Fires
          ⟨pre.backend, .drop, post.backend, []⟩ := by
        simp only [step] at hstep
        split at hstep
        · rename_i hheld
          obtain ⟨rfl, rfl⟩ := Prod.mk.inj (Option.some.inj hstep)
          exact if_pos hheld
        · contradiction
      exact .cons hdropped (.nil _)

/-- A run of a session is one of its backend. -/
theorem backend_run {codec : Codec δ} {start final : OpenAiSession δ}
    {moves : List (OpenAiMove δ)} (hrun : (machine codec).Run start moves final) :
    OpenAiSyncBackend.machine.Run start.backend (moves.flatMap (seenByBackend codec))
      final.backend :=
  hrun.simulate OpenAiSession.backend (seenByBackend codec) fun _ hfires =>
    seenByBackend_of_fires hfires

end OpenAiSession
end Transcription
end MediaServer
