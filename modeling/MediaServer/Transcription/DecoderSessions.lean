import MediaServer.Transcription.Creation

/-!
# Decoders and the sessions they belong to

The worker keeps a decoder for each key of its own, next to the sessions the
manager keeps.  A stop removes both.  A start creates the decoder whether or not
the session could be created, and audio creates a missing decoder without asking
for a session.  So every decoder has a live session exactly as long as neither of
the two happens for a key without one.
-/

namespace MediaServer
namespace Transcription

open Foundation

variable {δ : Type} {codec : Codec δ}

namespace TranscriptionWorker

/-- Every key with a decoder has a live session. -/
def DecodersLive (worker : TranscriptionWorker δ) : Prop :=
  ∀ key, worker.decoders.containsKey key = true →
    worker.manager.hasSession key.1 key.2 = true

/-- The condition on a command: where it creates a decoder there is a session, or
it creates one.  A command for which `AudioDecoder::new` fails creates none. -/
def Accompanied (worker : TranscriptionWorker δ) (command : TranscriptionCommand)
    (env : Environment) : Prop :=
  match command with
  | .startSession sessionId endpointId config =>
      env.workerDecoder = .ok () → worker.StartSucceeds (sessionId, endpointId) config env
  | .audio packet =>
      env.workerDecoder = .ok () →
        worker.manager.hasSession packet.sessionId packet.endpointId = true
  | .stopSession _ _ | .shutdown => True

/-- There are no more decoders than sessions when every decoder has its session. -/
theorem DecodersLive.len_le {worker : TranscriptionWorker δ} (hlive : worker.DecodersLive) :
    worker.decoders.len ≤ worker.manager.activeSessionCount :=
  HashMap.len_le_len hlive

theorem decodersLive_new (config : TranscriptionConfig) :
    (new (.new config) : TranscriptionWorker δ).DecodersLive := by
  intro key hkey
  simp [new] at hkey

section Step

variable {worker : TranscriptionWorker δ} {env : Environment}

/-- A start leaves every session in place. -/
theorem hasSession_startSession_of_hasSession {sessionId endpointId : UInt64}
    {config : Option TranscriptionConfig} {key : SessionKey}
    (hsession : worker.manager.hasSession key.1 key.2 = true) :
    (worker.processCommand codec (.startSession sessionId endpointId config)
      env).worker.manager.hasSession key.1 key.2 = true := by
  rw [hasSession_step (by simp)]
  exact .inl hsession

/-- After a start every decoder has its session exactly if the start succeeds where
the decoder is created. -/
theorem decodersLive_start {sessionId endpointId : UInt64}
    {config : Option TranscriptionConfig} (hlive : worker.DecodersLive) :
    (worker.processCommand codec (.startSession sessionId endpointId config)
        env).worker.DecodersLive ↔
      worker.Accompanied (.startSession sessionId endpointId config) env := by
  constructor
  · intro hpost hdecoder
    have hkept : (worker.processCommand codec (.startSession sessionId endpointId config)
        env).worker.decoders.containsKey (sessionId, endpointId) = true := by
      simp [processCommand, hdecoder]
    exact hasSession_start.mp (hpost (sessionId, endpointId) hkept)
  · intro hsucceeds key hkey
    by_cases hself : key = (sessionId, endpointId) ∧ env.workerDecoder = .ok ()
    · obtain ⟨rfl, hdecoder⟩ := hself
      exact hasSession_start.mpr (hsucceeds hdecoder)
    · -- the decoder was there before
      have hbefore : worker.decoders.containsKey key = true := by
        cases hdecoder : env.workerDecoder with
        | error reason => simpa [processCommand, hdecoder] using hkey
        | ok _ =>
            have hne : key ≠ (sessionId, endpointId) := fun heq => hself ⟨heq, hdecoder⟩
            simpa [processCommand, hdecoder, hne] using hkey
      exact hasSession_startSession_of_hasSession (hlive key hbefore)

theorem decodersLive_stop {sessionId endpointId : UInt64} (hlive : worker.DecodersLive) :
    (worker.processCommand codec (.stopSession sessionId endpointId) env).worker.DecodersLive := by
  intro key hkey
  have hkept : key ≠ (sessionId, endpointId) ∧ worker.decoders.containsKey key = true := by
    simpa [processCommand] using hkey
  have hbefore := hlive key hkept.2
  unfold TranscriptionManager.hasSession at hbefore ⊢
  simpa [processCommand, hkept.1] using hbefore

/-- The decoders after a packet: its own, unless it could not be created, and those
of before. -/
theorem containsKey_decoders_audio {packet : AudioPacket} {key : SessionKey} :
    (worker.processCommand codec (.audio packet) env).worker.decoders.containsKey key = true ↔
      worker.decoders.containsKey key = true ∨
        (key = packet.key ∧ env.workerDecoder = .ok ()) := by
  have hforward : ∀ decoder,
      (worker.forwardPacket codec decoder packet env).worker.decoders.containsKey key = true ↔
        key = packet.key ∨ worker.decoders.containsKey key = true := by
    intro decoder
    unfold forwardPacket
    split <;> simp
  simp only [processCommand, processAudioPacket]
  cases hentry : worker.decoders.get packet.key with
  | some decoder =>
      have hown : worker.decoders.containsKey packet.key = true :=
        (HashMap.containsKey_eq_true_iff _ _).mpr ⟨decoder, hentry⟩
      rw [hforward]
      constructor
      · rintro (rfl | hbefore)
        · exact .inl hown
        · exact .inl hbefore
      · rintro (hbefore | ⟨hself, -⟩)
        · exact .inr hbefore
        · exact .inl hself
  | none =>
      cases hdecoder : env.workerDecoder with
      | ok _ =>
          rw [hforward]
          simp [or_comm]
      | error reason => simp

/-- After a packet every decoder has its session exactly if the packet's key has one,
or no decoder could be created for it. -/
theorem decodersLive_audio {packet : AudioPacket} (hlive : worker.DecodersLive) :
    (worker.processCommand codec (.audio packet) env).worker.DecodersLive ↔
      worker.Accompanied (.audio packet) env := by
  have hsessions : ∀ key : SessionKey,
      (worker.processCommand codec (.audio packet) env).worker.manager.hasSession key.1 key.2 =
        worker.manager.hasSession key.1 key.2 :=
    fun key => containsKey_audio codec worker env packet
  constructor
  · intro hpost hdecoder
    have hown := hpost packet.key
      (containsKey_decoders_audio.mpr (.inr ⟨rfl, hdecoder⟩))
    rwa [hsessions] at hown
  · intro hsession key hkey
    rw [hsessions]
    rcases containsKey_decoders_audio.mp hkey with hbefore | ⟨rfl, hdecoder⟩
    · exact hlive key hbefore
    · exact hsession hdecoder

/-- One command keeps every decoder with its session exactly when it meets the
condition. -/
theorem decodersLive_step {command : TranscriptionCommand} (hlive : worker.DecodersLive) :
    (worker.processCommand codec command env).worker.DecodersLive ↔
      worker.Accompanied command env := by
  cases command with
  | startSession sessionId endpointId config => exact decodersLive_start hlive
  | stopSession sessionId endpointId => exact iff_of_true (decodersLive_stop hlive) trivial
  | audio packet => exact decodersLive_audio hlive
  | shutdown => exact iff_of_true hlive trivial

end Step

/-- From the initial state: after every beginning of a list of commands each decoder
has a live session, and there are no more decoders than sessions, exactly when every
command that is processed meets the condition. -/
theorem decoders_live_iff_accompanied (config : TranscriptionConfig)
    (commands : List (TranscriptionCommand × Environment)) :
    (∀ processed, processed <+: commands →
      ((new (.new config)).run codec processed).worker.DecodersLive ∧
      ((new (.new config)).run codec processed).worker.decoders.len ≤
        ((new (.new config)).run codec processed).worker.manager.activeSessionCount) ↔
    ∀ before command env after, commands = before ++ (command, env) :: after →
      ((new (.new config)).run codec before).running = true →
      ((new (.new config)).run codec before).worker.Accompanied command env := by
  have hruns := forall_prefix_iff (new (.new config)) codec commands DecodersLive
    Accompanied (fun _ _ _ _ hlive => decodersLive_step hlive) (decodersLive_new config)
  rw [← hruns]
  constructor
  · intro hboth processed hprocessed
    exact (hboth processed hprocessed).1
  · intro hlive processed hprocessed
    exact ⟨hlive processed hprocessed, (hlive processed hprocessed).len_le⟩

/-- Endpoint `(1, 2)` is started and stopped, and a packet of it was still waiting. -/
def audioAfterStop : List (TranscriptionCommand × Environment) :=
  [(.startSession 1 2 none, .allSucceed), (.stopSession 1 2, .allSucceed),
    (.audio ⟨1, 2, [8], 960, 5⟩, .allSucceed)]

/-- The late packet leaves a decoder behind, and nothing but another stop removes
it. -/
theorem decoder_without_session :
    ¬ ∀ commands : List (TranscriptionCommand × Environment),
      ((new (.new (.new "10.0.0.1:43007"))).run Codec.silent commands).worker.DecodersLive := by
  intro haccompanies
  have hlive := haccompanies audioAfterStop (1, 2) rfl
  have hnone : ((new (.new (.new "10.0.0.1:43007"))).run Codec.silent
      audioAfterStop).worker.manager.hasSession 1 2 = false := rfl
  rw [hnone] at hlive
  contradiction

end TranscriptionWorker
end Transcription
end MediaServer
