import MediaServer.Transcription.Manager

/-!
# The transcription worker

`TranscriptionWorker` of `transcription/handler.rs`: it takes commands from its
channel one by one, drives the manager with them and keeps a decoder for each
key of its own, through which every packet has to pass before the manager sees
it.  `run` processes a list of commands, each with the outcomes it meets, until
the list is exhausted or the worker ends.
-/

namespace MediaServer
namespace Transcription

open Foundation

variable {δ : Type}

/-- Transcription worker that runs on a separate thread. -/
structure TranscriptionWorker (δ : Type) where
  manager : TranscriptionManager δ
  /-- per-session decoders -/
  decoders : HashMap SessionKey δ

/-- What processing commands leaves behind. -/
structure Processed (δ : Type) where
  worker : TranscriptionWorker δ
  /-- the worker goes on with its loop -/
  running : Bool
  /-- the calls of `send_audio` made on the way, in order -/
  sent : List SendAudio

namespace TranscriptionWorker

/-- `TranscriptionWorker::new` -/
def new (manager : TranscriptionManager δ) : TranscriptionWorker δ := ⟨manager, HashMap.empty⟩

/-- The part of `process_audio_packet` below the choice of the decoder.  The
manager decodes the packet once more, so only its bytes are passed on. -/
def forwardPacket (codec : Codec δ) (worker : TranscriptionWorker δ) (decoder : δ)
    (packet : AudioPacket) (env : Environment) : Processed δ :=
  match codec.decode decoder packet.opusData with
  | (.ok _, decoder) =>
      let (manager, _, sent) := worker.manager.processAudio codec packet.sessionId
        packet.endpointId packet.opusData env
      { worker := ⟨manager, worker.decoders.insert packet.key decoder⟩
        running := true
        sent := sent }
  | (.error _, decoder) =>
      { worker := { worker with decoders := worker.decoders.insert packet.key decoder }
        running := true
        sent := [] }

/-- Process an audio packet.  A decoder that is missing and cannot be created
ends the worker (`expect`). -/
def processAudioPacket (codec : Codec δ) (worker : TranscriptionWorker δ) (packet : AudioPacket)
    (env : Environment) : Processed δ :=
  match worker.decoders.get packet.key with
  | some decoder => worker.forwardPacket codec decoder packet env
  | none =>
      match env.workerDecoder with
      | .ok () => worker.forwardPacket codec codec.new packet env
      | .error _ => ⟨worker, false, []⟩

/-- The body of the loop of `run`. -/
def processCommand (codec : Codec δ) (worker : TranscriptionWorker δ)
    (command : TranscriptionCommand) (env : Environment) : Processed δ :=
  match command with
  | .startSession sessionId endpointId config =>
      -- a failing start is logged, the decoder is created all the same
      let (manager, _) := worker.manager.startSession codec sessionId endpointId config env
      match env.workerDecoder with
      | .ok () => ⟨⟨manager, worker.decoders.insert (sessionId, endpointId) codec.new⟩, true, []⟩
      | .error _ => ⟨{ worker with manager := manager }, true, []⟩
  | .stopSession sessionId endpointId =>
      { worker :=
          { manager := worker.manager.stopSession sessionId endpointId
            decoders := worker.decoders.remove (sessionId, endpointId) }
        running := true
        sent := [] }
  | .audio packet => worker.processAudioPacket codec packet env
  | .shutdown => ⟨worker, false, []⟩

/-- `TranscriptionWorker::run` on a list of commands. -/
def run (codec : Codec δ) (worker : TranscriptionWorker δ) :
    List (TranscriptionCommand × Environment) → Processed δ
  | [] => ⟨worker, true, []⟩
  | (command, env) :: rest =>
      let processed := worker.processCommand codec command env
      if processed.running then
        let later := processed.worker.run codec rest
        { later with sent := processed.sent ++ later.sent }
      else processed

section Run

variable {codec : Codec δ} {worker : TranscriptionWorker δ} {command : TranscriptionCommand}
  {env : Environment}

theorem run_cons_of_running (hrunning : (worker.processCommand codec command env).running = true)
    {rest : List (TranscriptionCommand × Environment)} :
    worker.run codec ((command, env) :: rest) =
      { (worker.processCommand codec command env).worker.run codec rest with
        sent := (worker.processCommand codec command env).sent ++
          ((worker.processCommand codec command env).worker.run codec rest).sent } := by
  rw [run]
  exact if_pos hrunning

theorem run_cons_of_stopped (hstopped : (worker.processCommand codec command env).running = false)
    {rest : List (TranscriptionCommand × Environment)} :
    worker.run codec ((command, env) :: rest) = worker.processCommand codec command env := by
  rw [run]
  exact if_neg (by simp [hstopped])

/-- Processing a list of commands in two parts. -/
theorem run_append (first second : List (TranscriptionCommand × Environment))
    (hrunning : (worker.run codec first).running = true) :
    worker.run codec (first ++ second) =
      { (worker.run codec first).worker.run codec second with
        sent := (worker.run codec first).sent ++
          ((worker.run codec first).worker.run codec second).sent } := by
  induction first generalizing worker with
  | nil => rfl
  | cons head rest ih =>
      obtain ⟨command, env⟩ := head
      rw [List.cons_append]
      cases hstep : (worker.processCommand codec command env).running with
      | false =>
          rw [run_cons_of_stopped hstep, hstep] at hrunning
          contradiction
      | true =>
          rw [run_cons_of_running hstep] at hrunning ⊢
          rw [run_cons_of_running hstep, ih hrunning]
          simp

/-- One command more, if the worker still runs to take it. -/
theorem worker_run_concat (first : List (TranscriptionCommand × Environment)) :
    (worker.run codec (first ++ [(command, env)])).worker =
      if (worker.run codec first).running = true then
        ((worker.run codec first).worker.processCommand codec command env).worker
      else (worker.run codec first).worker := by
  induction first generalizing worker with
  | nil =>
      simp only [List.nil_append, run]
      split <;> rfl
  | cons head rest ih =>
      obtain ⟨command, env⟩ := head
      rw [List.cons_append]
      cases hstep : (worker.processCommand codec command env).running with
      | false =>
          rw [run_cons_of_stopped hstep, run_cons_of_stopped hstep, hstep]
          rfl
      | true =>
          rw [run_cons_of_running hstep, run_cons_of_running hstep]
          exact ih

/-- A worker that is still running after a list of commands was running after
every beginning of it. -/
theorem running_of_append {first second : List (TranscriptionCommand × Environment)}
    (hrunning : (worker.run codec (first ++ second)).running = true) :
    (worker.run codec first).running = true := by
  induction first generalizing worker with
  | nil => rfl
  | cons head rest ih =>
      obtain ⟨command, env⟩ := head
      rw [List.cons_append] at hrunning
      cases hstep : (worker.processCommand codec command env).running with
      | false =>
          rw [run_cons_of_stopped hstep, hstep] at hrunning
          contradiction
      | true =>
          rw [run_cons_of_running hstep] at hrunning ⊢
          exact ih hrunning

/-- What one command keeps exactly under a condition, a list of commands keeps exactly
when every command that is processed meets it. -/
theorem forall_prefix_iff (worker : TranscriptionWorker δ) (codec : Codec δ)
    (commands : List (TranscriptionCommand × Environment)) (Inv : TranscriptionWorker δ → Prop)
    (Allowed : TranscriptionWorker δ → TranscriptionCommand → Environment → Prop)
    (hstep : ∀ worker command env, (command, env) ∈ commands → Inv worker →
      (Inv (worker.processCommand codec command env).worker ↔ Allowed worker command env))
    (hstart : Inv worker) :
    (∀ processed, processed <+: commands → Inv (worker.run codec processed).worker) ↔
      ∀ before command env after, commands = before ++ (command, env) :: after →
        (worker.run codec before).running = true →
        Allowed (worker.run codec before).worker command env := by
  constructor
  · rintro hinv before command env after rfl hrunning
    have hbefore := hinv before (List.prefix_append _ _)
    have hpost := hinv (before ++ [(command, env)]) ⟨after, by simp⟩
    rw [worker_run_concat, if_pos hrunning] at hpost
    exact (hstep _ _ _ (by simp) hbefore).mp hpost
  · intro hallowed processed hprocessed
    induction processed using List.reverseRecOn with
    | nil => exact hstart
    | append_singleton before last ih =>
        obtain ⟨command, env⟩ := last
        have hbefore := ih ((List.prefix_append _ _).trans hprocessed)
        obtain ⟨after, hsplit⟩ := hprocessed
        rw [worker_run_concat]
        split
        · rename_i hrunning
          have hmem : (command, env) ∈ commands := by
            rw [← hsplit]
            simp
          have hcommand := hallowed before command env after (by simp [← hsplit]) hrunning
          exact (hstep _ _ _ hmem hbefore).mpr hcommand
        · exact hbefore

end Run

section Frame

variable (codec : Codec δ) (worker : TranscriptionWorker δ) (env : Environment)
  {key : SessionKey}

/-- A packet is forwarded through some decoder, unless its key has none and none can be
created. -/
theorem audio_cases (packet : AudioPacket) :
    (∃ decoder, worker.processCommand codec (.audio packet) env =
      worker.forwardPacket codec decoder packet env) ∨
    ((∃ reason, env.workerDecoder = .error reason) ∧
      worker.decoders.containsKey packet.key = false ∧
      worker.processCommand codec (.audio packet) env = ⟨worker, false, []⟩) := by
  simp only [processCommand, processAudioPacket]
  cases hentry : worker.decoders.get packet.key with
  | some decoder => exact .inl ⟨decoder, rfl⟩
  | none =>
      cases env.workerDecoder with
      | ok _ => exact .inl ⟨codec.new, rfl⟩
      | error reason =>
          exact .inr ⟨⟨reason, rfl⟩, (HashMap.containsKey_eq_false_iff _ _).mpr hentry, rfl⟩

/-- The manager does not get to see a packet, or processes it; only then is anything
sent. -/
theorem manager_audio (packet : AudioPacket) :
    ((worker.processCommand codec (.audio packet) env).worker.manager = worker.manager ∧
      (worker.processCommand codec (.audio packet) env).sent = []) ∨
    ((worker.processCommand codec (.audio packet) env).worker.manager =
        (worker.manager.processAudio codec packet.sessionId packet.endpointId packet.opusData
          env).1 ∧
      (worker.processCommand codec (.audio packet) env).sent =
        (worker.manager.processAudio codec packet.sessionId packet.endpointId packet.opusData
          env).2.2) := by
  rcases audio_cases codec worker env packet with ⟨decoder, hforward⟩ | ⟨-, -, hends⟩
  · rw [hforward]
    unfold forwardPacket
    split
    · exact .inr ⟨rfl, rfl⟩
    · exact .inl ⟨rfl, rfl⟩
  · rw [hends]
    exact .inl ⟨rfl, rfl⟩

/-- A packet leaves the decoders of other keys alone. -/
theorem decoders_audio_of_ne {packet : AudioPacket} (hkey : key ≠ packet.key) :
    (worker.processCommand codec (.audio packet) env).worker.decoders.get key =
      worker.decoders.get key := by
  rcases audio_cases codec worker env packet with ⟨decoder, hforward⟩ | ⟨-, -, hends⟩
  · rw [hforward]
    unfold forwardPacket
    split <;> simp [hkey]
  · rw [hends]

/-- A command leaves the session and the decoder of every key it does not name
alone. -/
theorem processCommand_of_ne {command : TranscriptionCommand} (hkey : command.key ≠ some key) :
    (worker.processCommand codec command env).worker.manager.sessions.get key =
        worker.manager.sessions.get key ∧
      (worker.processCommand codec command env).worker.decoders.get key =
        worker.decoders.get key := by
  cases command with
  | startSession sessionId endpointId config =>
      have hne : key ≠ (sessionId, endpointId) := by
        intro heq
        exact hkey (congrArg some heq.symm)
      have hsessions := TranscriptionManager.sessions_startSession_of_ne codec worker.manager
        sessionId endpointId env key config hne
      simp only [processCommand]
      cases env.workerDecoder with
      | ok _ => exact ⟨hsessions, by simp [hne]⟩
      | error _ => exact ⟨hsessions, rfl⟩
  | stopSession sessionId endpointId =>
      have hne : key ≠ (sessionId, endpointId) := by
        intro heq
        exact hkey (congrArg some heq.symm)
      simp [processCommand, hne]
  | audio packet =>
      have hne : key ≠ packet.key := by
        intro heq
        exact hkey (congrArg some heq.symm)
      refine ⟨?_, decoders_audio_of_ne codec worker env hne⟩
      rcases manager_audio codec worker env packet with ⟨hsame, -⟩ | ⟨hprocessed, -⟩
      · rw [hsame]
      · rw [hprocessed]
        exact TranscriptionManager.sessions_processAudio_of_ne codec worker.manager
          packet.sessionId packet.endpointId env key packet.opusData hne
  | shutdown => exact ⟨rfl, rfl⟩

/-- Audio neither opens nor closes a session. -/
theorem containsKey_audio (packet : AudioPacket) :
    (worker.processCommand codec (.audio packet) env).worker.manager.sessions.containsKey key =
      worker.manager.sessions.containsKey key := by
  rcases manager_audio codec worker env packet with ⟨hsame, -⟩ | ⟨hprocessed, -⟩
  · rw [hsame]
  · rw [hprocessed]
    exact TranscriptionManager.containsKey_processAudio codec worker.manager packet.sessionId
      packet.endpointId env key packet.opusData

/-- A start does to the manager what the manager's own `start_session` does. -/
theorem manager_startSession (sessionId endpointId : UInt64)
    (config : Option TranscriptionConfig) :
    (worker.processCommand codec (.startSession sessionId endpointId config) env).worker.manager =
      (worker.manager.startSession codec sessionId endpointId config env).1 := by
  simp only [processCommand]
  cases env.workerDecoder <;> rfl

end Frame

end TranscriptionWorker
end Transcription
end MediaServer
