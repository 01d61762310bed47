import MediaServer.Grpc.Components

/-!
# The transcription worker inside the server

Whatever the other threads do, the worker takes the commands of its channel one
by one in the order in which they were sent, and nobody else touches its state:
over every run of the server it computes `TranscriptionWorker.run` on the
commands it has taken.
-/

namespace MediaServer
namespace Grpc

open Foundation Signal Transcription

variable {σ δ : Type}

namespace Server

/-- The command the transcription worker processes in a step, with the outcomes
it meets. -/
def processedIn (move : ServerMove σ δ) : Option (TranscriptionCommand × Environment) :=
  match move.input with
  | .transcribe env => move.pre.transcriber.commands.pop.map fun popped => (popped.1, env)
  | _ => none

variable {deployment : Deployment σ δ} {move : ServerMove σ δ}

/-- What a step does to the transcription worker and its channel: it processes
the oldest waiting command, or leaves the worker alone. -/
theorem fires_transcriber (hfires : (machine deployment).Fires move) :
    (∃ command env commands, processedIn move = some (command, env) ∧
      move.pre.transcriber.running = true ∧
      move.pre.transcriber.commands.pop = some (command, commands) ∧
      move.post.transcriber.commands = commands ∧
      move.post.transcriber.worker =
        (move.pre.transcriber.worker.processCommand deployment.codec command env).worker ∧
      move.post.transcriber.running =
        (move.pre.transcriber.worker.processCommand deployment.codec command env).running) ∨
    (processedIn move = none ∧
      move.post.transcriber.worker = move.pre.transcriber.worker ∧
      move.post.transcriber.running = move.pre.transcriber.running ∧
      move.post.transcriber.commands.taken = move.pre.transcriber.commands.taken ∧
      ∃ added, move.post.transcriber.commands.waiting =
        move.pre.transcriber.commands.waiting ++ added) := by
  have hstep := transcriberStep_of_fires hfires
  have hother : (∀ env, move.input ≠ .transcribe env) → processedIn move = none := by
    intro hinput
    unfold processedIn
    split
    · rename_i env hprocess
      exact absurd hprocess (hinput env)
    · rfl
  generalize move.post.transcriber = after at hstep ⊢
  cases hstep with
  | unchanged hinput =>
      exact .inr ⟨hother hinput, rfl, rfl, rfl, [], (List.append_nil _).symm⟩
  | commanded id request point after command htakes hrunning =>
      obtain ⟨keys, env, hinput⟩ := htakes.advances
      exact .inr ⟨hother (by simp [hinput]), rfl, rfl, rfl, [command], rfl⟩
  | forwarded port thread info command hinput hthread hsent =>
      obtain ⟨input, hinput⟩ := hinput
      exact .inr ⟨hother (by simp [hinput]), rfl, rfl, rfl, [command], rfl⟩
  | processed env command commands hinput hrunning hpop =>
      refine .inl ⟨command, env, commands, ?_, hrunning, hpop, rfl, rfl, rfl⟩
      unfold processedIn
      rw [hinput, hpop]
      rfl

/-- A step only appends to the history of the command channel. -/
theorem fires_history (hfires : (machine deployment).Fires move) :
    ∃ added, move.post.transcriber.commands.history =
      move.pre.transcriber.commands.history ++ added := by
  rcases fires_transcriber hfires with
    ⟨command, env, commands, -, -, hpop, hcommands, -⟩ | ⟨-, -, -, htaken, added, hwaiting⟩
  · refine ⟨[], ?_⟩
    rw [hcommands, Fifo.history_pop hpop, List.append_nil]
  · refine ⟨added, ?_⟩
    rw [Fifo.history, Fifo.history, htaken, hwaiting, List.append_assoc]

variable {start final : Server σ δ} {moves : List (ServerMove σ δ)}

theorem run_history (hrun : (machine deployment).Run start moves final) :
    ∃ added, final.transcriber.commands.history =
      start.transcriber.commands.history ++ added := by
  induction hrun with
  | nil state => exact ⟨[], (List.append_nil _).symm⟩
  | cons hfires hrest ih =>
      obtain ⟨here, hhere⟩ := fires_history hfires
      obtain ⟨later, hlater⟩ := ih
      exact ⟨here ++ later, by rw [hlater, hhere, List.append_assoc]⟩

/-- A worker that has ended does not come back. -/
theorem running_of_run (hrun : (machine deployment).Run start moves final)
    (hrunning : final.transcriber.running = true) : start.transcriber.running = true := by
  induction hrun with
  | nil state => exact hrunning
  | cons hfires hrest ih =>
      rcases fires_transcriber hfires with ⟨_, _, _, -, hpre, -⟩ | ⟨-, -, hsame, -⟩
      · exact hpre
      · rw [← hsame]
        exact ih hrunning

/-- A worker that processes a command in a run is running when the run starts. -/
theorem running_of_processed (hrun : (machine deployment).Run start moves final)
    (hprocessed : moves.filterMap processedIn ≠ []) : start.transcriber.running = true := by
  induction hrun with
  | nil state => exact absurd rfl hprocessed
  | @cons move moves final hfires hrest ih =>
      rcases fires_transcriber hfires with ⟨_, _, _, -, hpre, -⟩ | ⟨hnone, -, hsame, -⟩
      · exact hpre
      · rw [List.filterMap_cons_none hnone] at hprocessed
        rw [← hsame]
        exact ih hprocessed

/-- Over a run the worker processes the commands it takes from its channel as
`TranscriptionWorker.run` does, and goes on at least until the last of them. -/
theorem run_transcriber (hrun : (machine deployment).Run start moves final) :
    (start.transcriber.worker.run deployment.codec (moves.filterMap processedIn)).worker =
        final.transcriber.worker ∧
      (start.transcriber.worker.run deployment.codec
        (moves.filterMap processedIn).dropLast).running = true ∧
      final.transcriber.commands.taken =
        start.transcriber.commands.taken ++ (moves.filterMap processedIn).map Prod.fst := by
  induction hrun with
  | nil state => exact ⟨rfl, rfl, (List.append_nil _).symm⟩
  | @cons move moves final hfires hrest ih =>
      obtain ⟨hworker, hreaches, htaken⟩ := ih
      rcases fires_transcriber hfires with
        ⟨command, env, commands, hprocessed, -, hpop, hcommands, hnext, hgoes⟩ |
        ⟨hprocessed, hnext, -, hsame, -⟩
      · rw [List.filterMap_cons_some hprocessed]
        have htaken : final.transcriber.commands.taken =
            move.pre.transcriber.commands.taken ++
              ((command, env) :: moves.filterMap processedIn).map Prod.fst := by
          rw [htaken, hcommands, Fifo.taken_pop hpop, List.map_cons, List.append_assoc]
          rfl
        refine ⟨?_, ?_, htaken⟩
        · cases hcontinues : (move.pre.transcriber.worker.processCommand deployment.codec command
              env).running with
          | true => rw [TranscriptionWorker.run_cons_of_running hcontinues, ← hnext, ← hworker]
          | false =>
              -- the worker ended with this command, so it was the last one
              have hlast : moves.filterMap processedIn = [] := by
                by_contra hmore
                rw [← hgoes, running_of_processed hrest hmore] at hcontinues
                contradiction
              rw [hlast] at hworker
              rw [TranscriptionWorker.run_cons_of_stopped hcontinues, ← hworker, ← hnext]
              rfl
        · cases hmore : moves.filterMap processedIn with
          | nil => rfl
          | cons head rest =>
              have hcontinues : (move.pre.transcriber.worker.processCommand deployment.codec
                  command env).running = true := by
                rw [← hgoes]
                exact running_of_processed hrest (by simp [hmore])
              rw [hmore] at hreaches
              rw [List.dropLast_cons_of_ne_nil (List.cons_ne_nil head rest),
                TranscriptionWorker.run_cons_of_running hcontinues, ← hnext]
              exact hreaches
      · rw [List.filterMap_cons_none hprocessed, ← hnext, ← hsame]
        exact ⟨hworker, hreaches, htaken⟩

/-- Once the channel is drained, the commands processed in a run are those that
waited when the run began and those sent in it. -/
theorem history_of_drained (hrun : (machine deployment).Run start moves final)
    (hdrained : final.transcriber.commands.waiting = []) :
    final.transcriber.commands.history =
      start.transcriber.commands.taken ++ (moves.filterMap processedIn).map Prod.fst := by
  rw [Fifo.history, hdrained, List.append_nil]
  exact (run_transcriber hrun).2.2

end Server
end Grpc
end MediaServer
