import MediaServer.Foundation.Log
import MediaServer.Grpc.CommandQueue
import MediaServer.Transcription.Creation

/-!
# Transcription of an endpoint as two registers

Whether an endpoint has a session, and whether a media worker has transcription
enabled for it, are two registers that the starts and stops, and the messages
enabling and disabling, write to.  Each is read off its own channel: it holds
what the last element taken from the channel has written.
-/

namespace MediaServer
namespace Grpc

open Foundation Signal Transcription

/-- What a command writes to the session register of a key. -/
def commandWrite (key : SessionKey) : TranscriptionCommand → Option Bool
  | .startSession sessionId endpointId _ =>
      if (sessionId, endpointId) = key then some true else none
  | .stopSession sessionId endpointId =>
      if (sessionId, endpointId) = key then some false else none
  | _ => none

/-- What a message writes to the register of enabled endpoints. -/
def messageWrite (key : SessionKey) (message : SignalingMessage) : Option Bool :=
  match message.request with
  | .enableTranscription sessionId endpointId =>
      if (sessionId, endpointId) = key then some true else none
  | .disableTranscription sessionId endpointId =>
      if (sessionId, endpointId) = key then some false else none
  | _ => none

/-- A packet writes nothing to the session register. -/
theorem commandWrite_of_forwarded {key : SessionKey} {extractor : RtpAudioExtractor}
    {info : AudioPacketInfo} {command : TranscriptionCommand}
    (hsent : (forwardAudio extractor info).2 = some command) : commandWrite key command = none := by
  obtain ⟨ids, -, -, rfl⟩ := forwardAudio_eq_some_iff.mp hsent
  rfl

/-- The handler of a message writes what the message writes. -/
theorem isTranscriptionEnabled_update (key : SessionKey) (extractor : RtpAudioExtractor)
    (message : SignalingMessage) :
    (updateExtractor extractor message.request).isTranscriptionEnabled key.1 key.2 =
      (messageWrite key message).getD (extractor.isTranscriptionEnabled key.1 key.2) := by
  unfold messageWrite
  cases message.request with
  | enableTranscription sessionId endpointId =>
      by_cases hkey : (sessionId, endpointId) = key
      · simp [updateExtractor, ← hkey]
      · simp [updateExtractor, hkey, Ne.symm hkey]
  | disableTranscription sessionId endpointId =>
      by_cases hkey : (sessionId, endpointId) = key
      · simp [updateExtractor, ← hkey]
      · simp [updateExtractor, hkey, Ne.symm hkey]
  | ok _ _ | err _ _ _ | offer _ _ _ | answer _ _ _ | leave _ _ => rfl
  | registerSsrc _ _ _ => rfl

variable {σ δ : Type}

namespace Server

/-- If the step processes a start, the start succeeds. -/
def createsSession (codec : Codec δ) (move : ServerMove σ δ) : Bool :=
  match processedIn move with
  | some (.startSession sessionId endpointId config, env) =>
      (move.pre.transcriber.worker.manager.startSession codec sessionId endpointId config
        env).2.isOk
  | _ => true

variable {deployment : Deployment σ δ} {move : ServerMove σ δ} {key : SessionKey}

/-- The session register holds what the last processed command has written. -/
def SessionRegister (server : Server σ δ) (key : SessionKey) : Prop :=
  server.transcriber.worker.manager.hasSession key.1 key.2 = true ↔
    Log.lastWrite (commandWrite key) server.transcriber.commands.taken = some true

/-- The register of enabled endpoints holds what the last handled message has
written. -/
def EnabledRegister (thread : MediaThread σ) (key : SessionKey) : Prop :=
  thread.worker.audioExtractor.isTranscriptionEnabled key.1 key.2 = true ↔
    Log.lastWrite (messageWrite key) thread.rx.taken = some true

/-- Processing a command writes what the command writes, when its start
succeeds. -/
theorem hasSession_processCommand {codec : Codec δ} {worker : TranscriptionWorker δ}
    {command : TranscriptionCommand} {env : Environment}
    (hcreates : ∀ config, command = .startSession key.1 key.2 config →
      (worker.manager.startSession codec key.1 key.2 config env).2 = .ok ()) :
    (worker.processCommand codec command env).worker.manager.hasSession key.1 key.2 =
      (commandWrite key command).getD (worker.manager.hasSession key.1 key.2) := by
  by_cases hstart : ∃ config, command = .startSession key.1 key.2 config
  · obtain ⟨config, rfl⟩ := hstart
    rw [TranscriptionWorker.manager_startSession,
      (TranscriptionManager.hasSession_startSession _ _ _ _ _ _).mpr (hcreates config rfl)]
    simp [commandWrite]
  · by_cases hstop : command = .stopSession key.1 key.2
    · subst hstop
      simp [commandWrite, TranscriptionWorker.processCommand, TranscriptionManager.hasSession]
    · have hother : ∀ config, command ≠ .startSession key.1 key.2 config := by
        intro config heq
        exact hstart ⟨config, heq⟩
      have hwrite : commandWrite key command = none := by
        unfold commandWrite
        split
        · rename_i sessionId endpointId config
          rw [if_neg]
          rintro rfl
          exact hother config rfl
        · rename_i sessionId endpointId
          rw [if_neg]
          rintro rfl
          exact hstop rfl
        · rfl
      rw [TranscriptionWorker.hasSession_other hother hstop, hwrite]
      rfl

theorem sessionRegister_step (hfires : (machine deployment).Fires move)
    (hcreates : createsSession deployment.codec move = true)
    (hregister : SessionRegister move.pre key) : SessionRegister move.post key := by
  unfold SessionRegister at hregister ⊢
  have hstep := transcriberStep_of_fires hfires
  generalize move.post.transcriber = after at hstep ⊢
  cases hstep with
  | unchanged hinput => exact hregister
  | commanded id request point after command htakes hrunning => exact hregister
  | forwarded port thread info command hinput hthread hsent => exact hregister
  | processed env command commands hinput hrunning hpop =>
      have hsucceeds : ∀ config, command = .startSession key.1 key.2 config →
          (move.pre.transcriber.worker.manager.startSession deployment.codec key.1 key.2 config
            env).2 = .ok () := by
        rintro config rfl
        have hprocessed : processedIn move = some (.startSession key.1 key.2 config, env) := by
          unfold processedIn
          rw [hinput, hpop]
          rfl
        unfold createsSession at hcreates
        rw [hprocessed] at hcreates
        dsimp only at hcreates
        generalize (move.pre.transcriber.worker.manager.startSession deployment.codec key.1 key.2
          config env).2 = result at hcreates ⊢
        cases result with
        | error reason => contradiction
        | ok _ => rfl
      dsimp only
      rw [hasSession_processCommand hsucceeds, Fifo.taken_pop hpop, Log.lastWrite_concat]
      cases commandWrite key command with
      | none => exact hregister
      | some value => simp

/-- Over a run from the start, with every start succeeding, an endpoint has a
session exactly when the last start or stop processed for it was a start. -/
theorem sessionRegister_of_run {moves : List (ServerMove σ δ)} {final : Server σ δ}
    (hrun : (machine deployment).Run (new deployment) moves final)
    (hcreates : ∀ move ∈ moves, createsSession deployment.codec move = true) :
    SessionRegister final key := by
  have hkeeps : ∀ move : ServerMove σ δ, (machine deployment).Fires move →
      createsSession deployment.codec move = true →
      SessionRegister move.pre key → SessionRegister move.post key :=
    fun move hfires hmove hpre => sessionRegister_step hfires hmove hpre
  have hnew : SessionRegister (new deployment) key := by
    unfold SessionRegister
    simp [new, TranscriptionWorker.new, TranscriptionManager.hasSession]
  exact Machine.Run.invariant_of_steps (fun server => SessionRegister server key) hkeeps hrun
    hcreates hnew

/-- Over a run from the start, a media worker has transcription enabled for an
endpoint exactly when the last message it has handled for it enabled it. -/
theorem enabledRegister_of_run {moves : List (ServerMove σ δ)} {final : Server σ δ}
    (hrun : (machine deployment).Run (new deployment) moves final) :
    ∀ port thread, final.media.get port = some thread → EnabledRegister thread key := by
  have hkeeps : ∀ move : ServerMove σ δ, (machine deployment).Fires move →
      (∀ port thread, move.pre.media.get port = some thread → EnabledRegister thread key) →
      ∀ port thread, move.post.media.get port = some thread → EnabledRegister thread key := by
    intro move hfires hpre
    refine forall_thread_post hfires hpre ?_
    intro port thread after hthread hstep hregister
    unfold EnabledRegister at hregister ⊢
    cases hstep with
    | unchanged => exact hregister
    | received id request point after message kept htakes hempty => exact hregister
    | handled message rest worker hinput hrunning hpop hextractor htranscriber =>
        dsimp only
        rw [hextractor, isTranscriptionEnabled_update, Fifo.taken_pop hpop, Log.lastWrite_concat]
        cases messageWrite key message with
        | none => exact hregister
        | some value => simp
    | continued input worker hinput hrunning hpoll hextractor =>
        dsimp only
        rcases hextractor with hsame | ⟨info, hforward⟩
        · rw [hsame]
          exact hregister
        · rw [hforward, isTranscriptionEnabled_forwardAudio]
          exact hregister
    | stopped hinput => exact hregister
  have hnew : ∀ port thread, (new deployment).media.get port = some thread →
      EnabledRegister thread key := by
    intro port thread hthread
    obtain rfl := thread_of_new hthread
    unfold EnabledRegister
    simp [MediaThread.new, MediaWorker.new]
  exact hrun.invariant (fun server => ∀ port thread, server.media.get port = some thread →
    EnabledRegister thread key) hkeeps hnew

end Server
end Grpc
end MediaServer
