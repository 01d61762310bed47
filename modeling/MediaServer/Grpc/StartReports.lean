import MediaServer.Grpc.CallCourse
import MediaServer.Grpc.CommandQueue
import MediaServer.Transcription.Creation

/-!
# What a successful reply says about the session

`start_transcription_session` has two branches.  The direct one passes on the
outcome of the manager's `start_session`; the channel one reports that a command
could be sent.  The start is processed later, on another thread, which logs a
failure.  So `ok` in the reply of `enable_transcription` promises a session only
when the start succeeds as it is processed.  This file follows the command from
the call to the worker and states exactly when it does.
-/

namespace MediaServer
namespace Grpc

open Foundation Signal Transcription

variable {σ δ : Type}

/-- The two branches report the same for a start exactly when the channel is open
just in case the start would succeed now. -/
theorem channel_agrees_with_direct_iff (codec : Codec δ) (transcriptionManager : Bool)
    (transcriber : Transcriber δ) (sessionId endpointId : UInt64)
    (config : Option TranscriptionConfig) (env : Environment) :
    ((startTranscriptionSession codec ⟨true, transcriptionManager⟩ transcriber sessionId endpointId
        config env).2 = .ok () ↔
      (startTranscriptionSession codec ⟨false, true⟩ transcriber sessionId endpointId config
        env).2 = .ok ()) ↔
    (transcriber.running = true ↔
      transcriber.worker.StartSucceeds (sessionId, endpointId) config env) := by
  have hchannel : (startTranscriptionSession codec ⟨true, transcriptionManager⟩ transcriber
      sessionId endpointId config env).2 = .ok () ↔ transcriber.running = true := by
    unfold startTranscriptionSession
    cases transcriber.running <;> simp
  have hdirect : (startTranscriptionSession codec ⟨false, true⟩ transcriber sessionId endpointId
      config env).2 = .ok () ↔
      transcriber.worker.StartSucceeds (sessionId, endpointId) config env := by
    unfold startTranscriptionSession TranscriptionWorker.StartSucceeds
    exact TranscriptionManager.startSession_eq_ok_iff
  rw [hchannel, hdirect]

namespace Server

variable {deployment : Deployment σ δ}

/-- Where the start of a call ends up in a run: the call sends it with the
configuration its request asks for, and the worker processes it after the
commands `earlier` and before the commands `later`. -/
structure StartProcessed (deployment : Deployment σ δ) (start : Server σ δ)
    (moves : List (ServerMove σ δ)) (id : Nat) (request : EnableTranscriptionRequest)
    (config : Option TranscriptionConfig) (env : Environment)
    (earlier later : List (TranscriptionCommand × Environment)) : Prop where
  requested : configOverride request = .ok config
  sent : ∃ move ∈ moves,
    TakesTransition deployment move id (.enableTranscription request) .entered
      (.command (.startSession request.sessionId request.endpointId config)) .enableNotifying ∧
    move.pre.transcriber.commands.history =
      start.transcriber.commands.taken ++ earlier.map Prod.fst
  processed : moves.filterMap processedIn =
    earlier ++ (.startSession request.sessionId request.endpointId config, env) :: later

/-- A call that replies `ok` has sent its start, and once the channel is drained
the worker has processed it. -/
theorem exists_startProcessed {start final : Server σ δ} {moves : List (ServerMove σ δ)} {id : Nat}
    {request : EnableTranscriptionRequest} {response : EnableTranscriptionResponse}
    (hrun : (machine deployment).Run start moves final)
    (hentered : start.callAt id = some (.enableTranscription request, .entered))
    (hreturned : final.callAt id =
      some (.enableTranscription request, .returned (.enableTranscription response)))
    (hok : response.ok = true) (hdrained : final.transcriber.commands.waiting = []) :
    ∃ config env earlier later,
      StartProcessed deployment start moves id request config env earlier later := by
  obtain ⟨before, move, after, effect, point, rfl, htakes⟩ :=
    exists_transition hrun hentered hreturned (by simp)
  obtain ⟨hfirst, hfires, hrest⟩ := hrun.split_at
  have hpost : move.post.callAt id = some (.enableTranscription request, point) :=
    htakes.callAt
  cases htakes.callStep with
  | enableRejected request error hrejected =>
      -- a rejected request is never answered with `ok`
      have hlast := callAt_returned hrest hpost
      rw [hlast] at hreturned
      simp only [Option.some.injEq, Prod.mk.injEq, CallPoint.returned.injEq,
        Reply.enableTranscription.injEq, true_and] at hreturned
      rw [← hreturned] at hok
      contradiction
  | enableStarted request config hconfig hopen =>
      obtain ⟨waited, hwaited⟩ := run_history hfirst
      obtain ⟨added, hadded⟩ := run_history hrest
      have hsend : move.post.transcriber.commands.history =
          move.pre.transcriber.commands.history ++
            [.startSession request.sessionId request.endpointId config] := by
        rw [htakes.affects.2.2, Fifo.history_push]
      have hhistory := history_of_drained hrun hdrained
      rw [hadded, hsend, hwaited, Fifo.history] at hhistory
      -- the start among the commands sent after those already taken
      have hprocessed : ((before ++ move :: after).filterMap processedIn).map Prod.fst =
          (start.transcriber.commands.waiting ++ waited) ++
            .startSession request.sessionId request.endpointId config :: added := by
        have hsplit := hhistory.symm
        simp only [List.append_assoc] at hsplit ⊢
        exact List.append_cancel_left hsplit
      obtain ⟨earlier, rest, hcommands, hearlier, hlater⟩ := List.map_eq_append_iff.mp hprocessed
      obtain ⟨⟨command, env⟩, later, rfl, hcommand, -⟩ := List.map_eq_cons_iff.mp hlater
      obtain rfl : command = _ := hcommand
      refine ⟨config, env, earlier, later, hconfig, ⟨move, by simp, htakes, ?_⟩, hcommands⟩
      rw [hwaited, hearlier, Fifo.history, List.append_assoc]

/-- When a call of `enable_transcription` has replied `ok`, its start has been
processed, and no stop of the session was sent after it, then there is a session
exactly when the start or a later one of the same key found the session live or
could create it.  Likewise the two branches of `start_transcription_session`
agree exactly when an open channel goes with a start that succeeds. -/
theorem ok_reply_session_iff {start final : Server σ δ} {moves : List (ServerMove σ δ)} {id : Nat}
    {request : EnableTranscriptionRequest} {response : EnableTranscriptionResponse}
    (hrun : (machine deployment).Run start moves final)
    (hentered : start.callAt id = some (.enableTranscription request, .entered))
    (hreturned : final.callAt id =
      some (.enableTranscription request, .returned (.enableTranscription response)))
    (hok : response.ok = true) (hdrained : final.transcriber.commands.waiting = []) :
    (∃ config env earlier later,
      StartProcessed deployment start moves id request config env earlier later ∧
      (.stopSession request.sessionId request.endpointId ∉ later.map Prod.fst →
        (final.transcriber.worker.manager.hasSession request.sessionId request.endpointId = true ↔
          TranscriptionWorker.SomeStartSucceeds deployment.codec
            (start.transcriber.worker.run deployment.codec earlier).worker
            (request.sessionId, request.endpointId)
            ((.startSession request.sessionId request.endpointId config, env) :: later)))) ∧
    ∀ (transcriptionManager : Bool) (transcriber : Transcriber δ)
      (config : Option TranscriptionConfig) (env : Environment),
      ((startTranscriptionSession deployment.codec ⟨true, transcriptionManager⟩ transcriber
          request.sessionId request.endpointId config env).2 = .ok () ↔
        (startTranscriptionSession deployment.codec ⟨false, true⟩ transcriber request.sessionId
          request.endpointId config env).2 = .ok ()) ↔
      (transcriber.running = true ↔ transcriber.worker.StartSucceeds
        (request.sessionId, request.endpointId) config env) := by
  constructor
  · obtain ⟨config, env, earlier, later, hstart⟩ :=
      exists_startProcessed hrun hentered hreturned hok hdrained
    refine ⟨config, env, earlier, later, hstart, fun hstops => ?_⟩
    obtain ⟨hworker, hreaches, -⟩ := run_transcriber hrun
    rw [hstart.processed] at hworker hreaches
    rw [← hworker]
    exact TranscriptionWorker.hasSession_run_start_iff
      (request.sessionId, request.endpointId) hstops hreaches
  · intro transcriptionManager transcriber config env
    exact channel_agrees_with_direct_iff deployment.codec transcriptionManager transcriber
      request.sessionId request.endpointId config env

/-- A request that leaves the backend to the server. -/
def withoutBackend : EnableTranscriptionRequest := ⟨1, 2, "", "", "", "", ""⟩

/-- Endpoint `(1, 2)` is enabled, and the worker processes the start. -/
def enabledAndStarted : List ServerInput :=
  [.advance 0 [3478] .allSucceed, .advance 0 [3478] .allSucceed, .transcribe .allSucceed]

/-- The server with the request of `withoutBackend` arrived. -/
def requestedWithoutBackend (deployment : Deployment σ δ) : Server σ δ :=
  { new deployment with calls := [⟨.enableTranscription withoutBackend, .entered, none⟩] }

theorem ok_reply_session_iff_enabledAndStarted :
    ∃ moves final,
      (machine .single).exec (requestedWithoutBackend .single) enabledAndStarted =
        some (moves, final) ∧
      final.transcriber.worker.manager.hasSession 1 2 = true ∧
      ∃ config env earlier later,
        StartProcessed .single (requestedWithoutBackend .single) moves 0 withoutBackend config env
          earlier later := by
  have hexec : ∃ moves final,
      (machine .single).exec (requestedWithoutBackend .single) enabledAndStarted =
        some (moves, final) ∧
      final.callAt 0 = some (.enableTranscription withoutBackend,
        .returned (.enableTranscription ⟨true, ""⟩)) ∧
      final.transcriber.commands.waiting = [] ∧
      final.transcriber.worker.manager.hasSession 1 2 = true :=
    ⟨_, _, rfl, rfl, rfl, rfl⟩
  obtain ⟨moves, final, hexec, hreturned, hdrained, hsession⟩ := hexec
  obtain ⟨config, env, earlier, later, hstart, -⟩ :=
    (ok_reply_session_iff (Machine.exec_run hexec) rfl hreturned rfl hdrained).1
  exact ⟨moves, final, hexec, hsession, config, env, earlier, later, hstart⟩

/-- A server without a backend of its own. -/
def unconfigured : Deployment Unit Unit := { Deployment.single with config := .none }

/-- Without a backend in the request or on the server the reply is `ok`, no stop is
ever sent, and there is no session. -/
theorem ok_reply_without_session :
    ¬ ∀ (moves : List (ServerMove Unit Unit)) (final : Server Unit Unit)
        (response : EnableTranscriptionResponse),
      (machine unconfigured).Run (requestedWithoutBackend unconfigured) moves final →
      final.callAt 0 = some (.enableTranscription withoutBackend,
        .returned (.enableTranscription response)) →
      response.ok = true → final.transcriber.commands.waiting = [] →
      .stopSession 1 2 ∉ final.transcriber.commands.history →
      final.transcriber.worker.manager.hasSession 1 2 = true := by
  intro hreported
  have hexec : ∃ moves final,
      (machine unconfigured).exec (requestedWithoutBackend unconfigured) enabledAndStarted =
        some (moves, final) ∧
      final.callAt 0 = some (.enableTranscription withoutBackend,
        .returned (.enableTranscription ⟨true, ""⟩)) ∧
      final.transcriber.commands.waiting = [] ∧
      final.transcriber.commands.history = [.startSession 1 2 none] ∧
      final.transcriber.worker.manager.hasSession 1 2 = false :=
    ⟨_, _, rfl, rfl, rfl, rfl, rfl⟩
  obtain ⟨moves, final, hexec, hreturned, hdrained, hhistory, hnone⟩ := hexec
  have hsession := hreported moves final ⟨true, ""⟩ (Machine.exec_run hexec) hreturned rfl hdrained
    (by simp [hhistory])
  rw [hnone] at hsession
  contradiction

end Server
end Grpc
end MediaServer
