import MediaServer.Transcription.Worker

/-!
# The two decoders of a key

Every packet is decoded twice, by the worker's decoder of its key and by the decoder of
the session.  Both start new when the session is created, and both go on with every
packet that the first one accepts, so they are the same (`Lockstep`) until something
reaches only one of them: a start of a live session replaces the worker's decoder and
leaves the session's, and a packet that the worker's decoder rejects is never shown to
the session's.
-/

namespace MediaServer
namespace Transcription

open Foundation

variable {δ : Type}

namespace TranscriptionWorker

/-- The worker's decoder of every live session is in the state of the session's. -/
def Lockstep (worker : TranscriptionWorker δ) : Prop :=
  ∀ key session, worker.manager.sessions.get key = some session →
    worker.decoders.get key = some session.decoder

/-- The condition on a command: a start finds the key free, or the decoder of its session
as new; a packet of a live session is accepted, or rejected without a trace. -/
def KeepsPace (codec : Codec δ) (worker : TranscriptionWorker δ) :
    TranscriptionCommand → Prop
  | .startSession sessionId endpointId _ =>
      ∀ session, worker.manager.sessions.get (sessionId, endpointId) = some session →
        session.decoder = codec.new
  | .audio packet =>
      ∀ session, worker.manager.sessions.get packet.key = some session →
        ∀ reason next, codec.decode session.decoder packet.opusData = (.error reason, next) →
          next = session.decoder
  | .stopSession _ _ | .shutdown => True

theorem lockstep_new (config : TranscriptionConfig) :
    (new (.new config) : TranscriptionWorker δ).Lockstep := by
  intro key session hlive
  simp [new] at hlive

section Step

variable {codec : Codec δ} {worker : TranscriptionWorker δ} {env : Environment}

/-- Both decoders of a key are those of before, unless a command names it. -/
theorem lockstep_of_ne {command : TranscriptionCommand} {key : SessionKey}
    (hkey : command.key ≠ some key)
    {session : TranscriptionSession δ} (hlockstep : worker.Lockstep)
    (hlive : (worker.processCommand codec command env).worker.manager.sessions.get key =
      some session) :
    (worker.processCommand codec command env).worker.decoders.get key =
      some session.decoder := by
  obtain ⟨hsessions, hdecoders⟩ := processCommand_of_ne codec worker env hkey
  rw [hsessions] at hlive
  rw [hdecoders]
  exact hlockstep key session hlive

/-- A start leaves the worker with a new decoder. -/
theorem decoders_startSession (codec : Codec δ) (worker : TranscriptionWorker δ)
    (hdecoder : env.workerDecoder = .ok ()) (sessionId endpointId : UInt64)
    (config : Option TranscriptionConfig) :
    (worker.processCommand codec (.startSession sessionId endpointId config)
      env).worker.decoders.get (sessionId, endpointId) = some codec.new := by
  simp [processCommand, hdecoder]

theorem lockstep_start {sessionId endpointId : UInt64} {config : Option TranscriptionConfig}
    (hdecoder : env.workerDecoder = .ok ()) (hlockstep : worker.Lockstep) :
    (worker.processCommand codec (.startSession sessionId endpointId config)
        env).worker.Lockstep ↔
      worker.KeepsPace codec (.startSession sessionId endpointId config) := by
  have hnew := decoders_startSession codec worker hdecoder sessionId endpointId config
  have hmanager := manager_startSession codec worker env sessionId endpointId config
  constructor
  · intro hpost session hlive
    have hkept : (worker.processCommand codec (.startSession sessionId endpointId config)
        env).worker.manager.sessions.get (sessionId, endpointId) = some session := by
      rw [hmanager, TranscriptionManager.startSession_of_live codec worker.manager sessionId
        endpointId env config hlive]
      exact hlive
    have hsame := hpost _ session hkept
    rw [hnew] at hsame
    exact (Option.some.inj hsame).symm
  · intro hpace key session hlive
    by_cases hkey : key = (sessionId, endpointId)
    · subst hkey
      rw [hnew]
      rw [hmanager] at hlive
      congr 1
      symm
      have hcase := TranscriptionManager.startCase codec worker.manager sessionId endpointId
        config env
      generalize worker.manager.startSession codec sessionId endpointId config env = started
        at hcase hlive
      cases hcase with
      | live found hfound => exact hpace session hlive
      | failed reason hfree hfailed =>
          rw [TranscriptionManager.takeServerIndex_sessions, hfree] at hlive
          contradiction
      | created found hfree hcreated =>
          -- the session is the one created by this start
          rw [HashMap.get_insert, if_pos rfl] at hlive
          obtain rfl := Option.some.inj hlive
          obtain ⟨-, target, -, rfl⟩ := TranscriptionSession.new_eq_ok_iff.mp hcreated
          rfl
    · refine lockstep_of_ne ?_ hlockstep hlive
      intro heq
      exact hkey (Option.some.inj heq).symm

theorem lockstep_stop {sessionId endpointId : UInt64} (hlockstep : worker.Lockstep) :
    (worker.processCommand codec (.stopSession sessionId endpointId) env).worker.Lockstep := by
  intro key session hlive
  by_cases hkey : key = (sessionId, endpointId)
  · subst hkey
    simp [processCommand] at hlive
  · refine lockstep_of_ne ?_ hlockstep hlive
    intro heq
    exact hkey (Option.some.inj heq).symm

section Audio

variable {packet : AudioPacket} {session : TranscriptionSession δ}

/-- A packet of a live session passes through the decoder the session has. -/
theorem processAudio_lockstep (hlockstep : worker.Lockstep)
    (hlive : worker.manager.sessions.get packet.key = some session) :
    worker.processCommand codec (.audio packet) env =
      worker.forwardPacket codec session.decoder packet env := by
  simp only [processCommand, processAudioPacket]
  rw [hlockstep packet.key session hlive]

/-- The session afterwards, its worker's decoder and what was sent, when the decoder
accepts the packet. -/
theorem forwardPacket_accepted (env : Environment) {pcm : Pcm} {next : δ}
    (hdecode : codec.decode session.decoder packet.opusData = (.ok pcm, next))
    (hlive : worker.manager.sessions.get packet.key = some session) :
    (worker.forwardPacket codec session.decoder packet env).worker.manager.sessions.get
        packet.key = some { session with decoder := next } ∧
      (worker.forwardPacket codec session.decoder packet env).worker.decoders.get packet.key =
        some next ∧
      (worker.forwardPacket codec session.decoder packet env).sent =
        [⟨session.backend.handle, pcm⟩] := by
  obtain ⟨sessionId, endpointId, opusData, timestamp, ssrc⟩ := packet
  simp only [AudioPacket.key] at hlive hdecode ⊢
  simp [forwardPacket, hdecode, TranscriptionManager.processAudio, hlive,
    TranscriptionSession.processAudio, AudioPacket.key]

/-- The same when the decoder rejects the packet. -/
theorem forwardPacket_rejected (env : Environment) {reason : String} {next : δ}
    (hdecode : codec.decode session.decoder packet.opusData = (.error reason, next))
    (hlive : worker.manager.sessions.get packet.key = some session) :
    (worker.forwardPacket codec session.decoder packet env).worker.manager.sessions.get
        packet.key = some session ∧
      (worker.forwardPacket codec session.decoder packet env).worker.decoders.get packet.key =
        some next ∧
      (worker.forwardPacket codec session.decoder packet env).sent = [] := by
  simp [forwardPacket, hdecode, hlive]

/-- After a packet only the decoders of its key need to be compared. -/
theorem lockstep_audio_iff (hlockstep : worker.Lockstep) :
    (worker.processCommand codec (.audio packet) env).worker.Lockstep ↔
      ∀ session, (worker.processCommand codec (.audio packet) env).worker.manager.sessions.get
          packet.key = some session →
        (worker.processCommand codec (.audio packet) env).worker.decoders.get packet.key =
          some session.decoder := by
  refine ⟨fun hpost session => hpost packet.key session, fun hown key session hlive => ?_⟩
  by_cases hkey : key = packet.key
  · subst hkey
    exact hown session hlive
  · refine lockstep_of_ne ?_ hlockstep hlive
    intro heq
    exact hkey (Option.some.inj heq).symm

theorem lockstep_audio (hlockstep : worker.Lockstep) :
    (worker.processCommand codec (.audio packet) env).worker.Lockstep ↔
      worker.KeepsPace codec (.audio packet) := by
  rw [lockstep_audio_iff hlockstep]
  cases hlive : worker.manager.sessions.get packet.key with
  | none =>
      have hfree : (worker.processCommand codec (.audio packet) env).worker.manager.sessions.get
          packet.key = none := by
        rw [← HashMap.containsKey_eq_false_iff, containsKey_audio,
          HashMap.containsKey_eq_false_iff, hlive]
      simp [KeepsPace, hlive, hfree]
  | some session =>
      rw [processAudio_lockstep hlockstep hlive]
      rcases hdecode : codec.decode session.decoder packet.opusData with ⟨result, next⟩
      cases result with
      | ok pcm =>
          -- both decoders have gone on
          obtain ⟨hkept, hdecoder, -⟩ := forwardPacket_accepted env hdecode hlive
          simp [KeepsPace, hlive, hkept, hdecoder, hdecode]
      | error reason =>
          -- only the worker's decoder has seen the packet
          obtain ⟨hkept, hdecoder, -⟩ := forwardPacket_rejected env hdecode hlive
          simp [KeepsPace, hlive, hkept, hdecoder, hdecode]

end Audio

/-- One command keeps all decoders in step exactly when it meets the condition. -/
theorem lockstep_step {command : TranscriptionCommand} (hdecoder : env.workerDecoder = .ok ())
    (hlockstep : worker.Lockstep) :
    (worker.processCommand codec command env).worker.Lockstep ↔
      worker.KeepsPace codec command := by
  cases command with
  | startSession sessionId endpointId config => exact lockstep_start hdecoder hlockstep
  | stopSession sessionId endpointId => exact iff_of_true (lockstep_stop hlockstep) trivial
  | audio packet => exact lockstep_audio hlockstep
  | shutdown => exact iff_of_true hlockstep trivial

end Step

/-- What the worker's own decoder makes of a packet. -/
def workerPcm (codec : Codec δ) (worker : TranscriptionWorker δ) (packet : AudioPacket) :
    Except String Pcm :=
  (codec.decode ((worker.decoders.get packet.key).getD codec.new) packet.opusData).1

/-- What is sent to a backend if the worker passes its samples on. -/
def passedOn (backend : Backend) : Except String Pcm → List SendAudio
  | .ok pcm => [⟨backend.handle, pcm⟩]
  | .error _ => []

/-- Both decoders of a live session make the same of a packet, and the backend receives
what it would receive if the worker's samples were passed on. -/
def SamePcm (codec : Codec δ) (worker : TranscriptionWorker δ) (packet : AudioPacket)
    (env : Environment) : Prop :=
  ∀ session, worker.manager.sessions.get packet.key = some session →
    worker.workerPcm codec packet = (codec.decode session.decoder packet.opusData).1 ∧
    (worker.processCommand codec (.audio packet) env).sent =
      passedOn session.backend (worker.workerPcm codec packet)

/-- Decoders in step make the same of every packet. -/
theorem samePcm_of_lockstep {codec : Codec δ} {worker : TranscriptionWorker δ}
    (hlockstep : worker.Lockstep) (packet : AudioPacket) (env : Environment) :
    worker.SamePcm codec packet env := by
  intro session hlive
  have hpcm : worker.workerPcm codec packet =
      (codec.decode session.decoder packet.opusData).1 := by
    rw [workerPcm, hlockstep packet.key session hlive, Option.getD_some]
  refine ⟨hpcm, ?_⟩
  rw [hpcm, processAudio_lockstep hlockstep hlive]
  rcases hdecode : codec.decode session.decoder packet.opusData with ⟨result, next⟩
  cases result with
  | ok pcm => exact (forwardPacket_accepted env hdecode hlive).2.2
  | error reason => exact (forwardPacket_rejected env hdecode hlive).2.2

/-- From the initial state, if decoders can be created: the decoders are in step after
every beginning of a list of commands exactly when every command that is processed meets
the condition, and then every packet of a live session is decoded to the same twice. -/
theorem lockstep_iff_keepsPace (codec : Codec δ) (config : TranscriptionConfig)
    (commands : List (TranscriptionCommand × Environment))
    (hcreation : ∀ command ∈ commands, command.2.workerDecoder = .ok ()) :
    ((∀ processed, processed <+: commands →
        ((new (.new config)).run codec processed).worker.Lockstep) ↔
      ∀ before command env after, commands = before ++ (command, env) :: after →
        ((new (.new config)).run codec before).running = true →
        ((new (.new config)).run codec before).worker.KeepsPace codec command) ∧
    ((∀ before command env after, commands = before ++ (command, env) :: after →
        ((new (.new config)).run codec before).running = true →
        ((new (.new config)).run codec before).worker.KeepsPace codec command) →
      ∀ before packet env after, commands = before ++ (.audio packet, env) :: after →
        ((new (.new config)).run codec before).running = true →
        ((new (.new config)).run codec before).worker.SamePcm codec packet env) := by
  have hruns := forall_prefix_iff (new (.new config)) codec commands Lockstep
    (fun worker command _ => worker.KeepsPace codec command)
    (fun worker command env hmem hlockstep =>
      lockstep_step (hcreation (command, env) hmem) hlockstep) (lockstep_new config)
  refine ⟨hruns, fun hpace before packet env after hsplit _ => ?_⟩
  have hbefore : before <+: commands := ⟨(.audio packet, env) :: after, hsplit.symm⟩
  exact samePcm_of_lockstep (hruns.mpr hpace before hbefore) packet env

/-- Decoders that put out how many packets they have seen, for concrete runs. -/
def countingCodec : Codec Nat where
  new := 0
  decode := fun count _ => (.ok [Int16.ofNat count], count + 1)

/-- A packet of endpoint `(1, 2)`. -/
def onePacket : AudioPacket := ⟨1, 2, [8], 960, 5⟩

/-- Endpoint `(1, 2)` is started and heard. -/
def startedAndHeard : List (TranscriptionCommand × Environment) :=
  [(.startSession 1 2 none, .allSucceed), (.audio onePacket, .allSucceed)]

theorem lockstep_iff_keepsPace_startedAndHeard :
    ((new (.new (.new "10.0.0.1:43007"))).run countingCodec
      [(.startSession 1 2 none, .allSucceed)]).worker.SamePcm countingCodec onePacket
        .allSucceed := by
  have hcreation : ∀ command ∈ startedAndHeard, command.2.workerDecoder = .ok () := by
    simp [startedAndHeard, Environment.allSucceed]
  refine (lockstep_iff_keepsPace countingCodec (.new "10.0.0.1:43007") _ hcreation).2 ?_
    _ onePacket .allSucceed [] rfl rfl
  intro before command env after hsplit _
  cases command with
  | startSession sessionId endpointId config =>
      -- the first command, which finds no session
      rcases before with _ | ⟨first, _ | ⟨second, rest⟩⟩
      · intro session hlive
        simp [run, new] at hlive
      · simp [startedAndHeard] at hsplit
      · simp [startedAndHeard] at hsplit
  | audio packet =>
      intro session _ reason next hreject
      simp [countingCodec] at hreject
  | stopSession _ _ | shutdown => trivial

/-- Endpoint `(1, 2)` is started, heard and started once more. -/
def startedAgain : List (TranscriptionCommand × Environment) :=
  startedAndHeard ++ [(.startSession 1 2 none, .allSucceed)]

/-- The worker's decoder is new then, the session's is not. -/
theorem second_start_out_of_step :
    ¬ ∀ (codec : Codec Nat) (config : TranscriptionConfig)
        (commands : List (TranscriptionCommand × Environment)),
      (∀ command ∈ commands, command.2.workerDecoder = .ok ()) →
      ∀ before packet env after, commands = before ++ (.audio packet, env) :: after →
        ((new (.new config)).run codec before).running = true →
        ((new (.new config)).run codec before).worker.SamePcm codec packet env := by
  intro hpaced
  have hsame := hpaced countingCodec (.new "10.0.0.1:43007")
    (startedAgain ++ [(.audio onePacket, .allSucceed)])
    (by simp [startedAgain, startedAndHeard, Environment.allSucceed]) startedAgain onePacket
    .allSucceed [] rfl rfl
  obtain ⟨hpcm, -⟩ := hsame ⟨1, 2, 1, ⟨0, .simulStreaming "10.0.0.1:43007"⟩⟩ rfl
  have hdiffer : (Except.ok [0] : Except String Pcm) = .ok [1] := hpcm
  simp at hdiffer

end TranscriptionWorker
end Transcription
end MediaServer
