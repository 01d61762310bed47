import MediaServer.Transcription.Handles

/-!
# The stream a backend receives

For a session created by a start, the blocks passed to its backend are what a
fresh decoder makes of the session's packets up to the next stop.  Two things
stand between a packet and the backend: the worker's own decoder, which may
reject it, and the session's decoder.  Both accept the same packets whatever
they have decoded before, so the first one never withholds a packet that the
second one would have decoded.
-/

namespace MediaServer
namespace Transcription

open Foundation

variable {δ : Type}

/-- Whether a decoder accepts a packet depends on the packet's bytes only, and a
rejected packet leaves the decoder unchanged. -/
structure Codec.AcceptsByBytes (codec : Codec δ) : Prop where
  accepts : ∀ first second bytes,
    (codec.decode first bytes).1.isOk = (codec.decode second bytes).1.isOk
  rejected : ∀ decoder bytes reason, (codec.decode decoder bytes).1 = .error reason →
    (codec.decode decoder bytes).2 = decoder

/-- The successful outputs of a decoder run over packets, in order. -/
def decodedBlocks (codec : Codec δ) (decoder : δ) : List Bytes → List Pcm
  | [] => []
  | bytes :: rest =>
      match codec.decode decoder bytes with
      | (.ok pcm, next) => pcm :: decodedBlocks codec next rest
      | (.error _, next) => decodedBlocks codec next rest

/-- The packets of a key up to the next stop of it or the next shutdown. -/
def audioUntilStop (key : SessionKey) : List TranscriptionCommand → List Bytes
  | [] => []
  | .audio packet :: rest =>
      if packet.key = key then packet.opusData :: audioUntilStop key rest
      else audioUntilStop key rest
  | .stopSession sessionId endpointId :: rest =>
      if (sessionId, endpointId) = key then [] else audioUntilStop key rest
  | .shutdown :: _ => []
  | .startSession _ _ _ :: rest => audioUntilStop key rest

/-- The blocks passed to the backend with a handle, in order. -/
def blocksTo (handle : Nat) (sent : List SendAudio) : List Pcm :=
  (sent.filter fun block => block.handle = handle).map (·.pcm)

@[simp] theorem blocksTo_nil (handle : Nat) : blocksTo handle [] = [] := rfl

@[simp] theorem blocksTo_append (handle : Nat) (first second : List SendAudio) :
    blocksTo handle (first ++ second) = blocksTo handle first ++ blocksTo handle second := by
  simp [blocksTo]

theorem blocksTo_eq_nil {handle : Nat} {sent : List SendAudio}
    (hother : ∀ block ∈ sent, block.handle ≠ handle) : blocksTo handle sent = [] := by
  have hnone : sent.filter (fun block => block.handle = handle) = [] := by
    rw [List.filter_eq_nil_iff]
    intro block hmem
    simpa using hother block hmem
  rw [blocksTo, hnone]
  rfl

namespace TranscriptionWorker

open TranscriptionManager

/-- Only audio is followed by a block, and it goes to the live backend of the
packet's key. -/
theorem sent_processCommand {codec : Codec δ} {worker : TranscriptionWorker δ}
    {command : TranscriptionCommand} {env : Environment} {block : SendAudio}
    (hsent : block ∈ (worker.processCommand codec command env).sent) :
    ∃ packet backend, command = .audio packet ∧
      worker.manager.liveBackend packet.key = some backend ∧ backend.handle = block.handle := by
  cases command with
  | startSession sessionId endpointId config =>
      simp only [processCommand] at hsent
      cases hdecoder : env.workerDecoder <;> simp [hdecoder] at hsent
  | stopSession sessionId endpointId => simp [processCommand] at hsent
  | shutdown => simp [processCommand] at hsent
  | audio packet =>
      rcases manager_audio codec worker env packet with ⟨-, hnone⟩ | ⟨-, hprocessed⟩
      · rw [hnone] at hsent
        contradiction
      · rw [hprocessed] at hsent
        obtain ⟨backend, hlive, hhandle⟩ :=
          liveBackend_of_sent codec worker.manager packet.sessionId packet.endpointId env hsent
        exact ⟨packet, backend, rfl, hlive, hhandle⟩

/-- Whatever was sent went to a backend created before. -/
theorem handle_of_sent_run {codec : Codec δ} {worker : TranscriptionWorker δ}
    (hdistinct : worker.manager.HandlesDistinct)
    {commands : List (TranscriptionCommand × Environment)} {block : SendAudio}
    (hsent : block ∈ (worker.run codec commands).sent) :
    block.handle < (worker.run codec commands).worker.manager.created := by
  induction commands generalizing worker with
  | nil => simp [run] at hsent
  | cons head rest ih =>
      obtain ⟨command, env⟩ := head
      have hhere : block ∈ (worker.processCommand codec command env).sent →
          block.handle < (worker.processCommand codec command env).worker.manager.created := by
        intro hblock
        obtain ⟨packet, backend, -, hlive, hhandle⟩ := sent_processCommand hblock
        have hissued := hdistinct.issued packet.key backend hlive
        have hle := created_le_processCommand codec worker command env
        omega
      cases hstep : (worker.processCommand codec command env).running with
      | false =>
          rw [run_cons_of_stopped hstep] at hsent ⊢
          exact hhere hsent
      | true =>
          rw [run_cons_of_running hstep] at hsent ⊢
          rcases List.mem_append.mp hsent with hfirst | hlater
          · exact (hhere hfirst).trans_le (created_le_run codec _ rest)
          · exact ih (handlesDistinct_processCommand codec hdistinct command env) hlater

/-- A backend that has been disconnected. -/
def Retired (worker : TranscriptionWorker δ) (handle : Nat) : Prop :=
  handle < worker.manager.created ∧
    ∀ key backend, worker.manager.liveBackend key = some backend → backend.handle ≠ handle

/-- The live backends after a command other than a start. -/
theorem liveBackend_processCommand (codec : Codec δ) (worker : TranscriptionWorker δ)
    (env : Environment) {command : TranscriptionCommand}
    (hstart : ∀ sessionId endpointId config,
      command ≠ .startSession sessionId endpointId config) (key : SessionKey) :
    (worker.processCommand codec command env).worker.manager.liveBackend key =
        (if command = .stopSession key.1 key.2 then none else worker.manager.liveBackend key) ∧
      (worker.processCommand codec command env).worker.manager.created =
        worker.manager.created := by
  cases command with
  | startSession sessionId endpointId config =>
      exact absurd rfl (hstart sessionId endpointId config)
  | stopSession sessionId endpointId =>
      obtain ⟨session, endpoint⟩ := key
      refine ⟨?_, rfl⟩
      simp only [processCommand, liveBackend_stopSession, TranscriptionCommand.stopSession.injEq]
      by_cases hkey : (session, endpoint) = (sessionId, endpointId)
      · obtain ⟨rfl, rfl⟩ := Prod.mk.inj hkey
        simp
      · have hne : ¬ (sessionId = session ∧ endpointId = endpoint) := by
          rintro ⟨rfl, rfl⟩
          exact hkey rfl
        rw [if_neg hkey, if_neg hne]
  | audio packet =>
      rcases manager_audio codec worker env packet with ⟨hsame, -⟩ | ⟨hprocessed, -⟩
      · simp [hsame]
      · simp [hprocessed]
  | shutdown => simp [processCommand]

/-- A disconnected backend stays disconnected. -/
theorem retired_processCommand {codec : Codec δ} {worker : TranscriptionWorker δ} {handle : Nat}
    (hretired : worker.Retired handle) (command : TranscriptionCommand) (env : Environment) :
    (worker.processCommand codec command env).worker.Retired handle := by
  obtain ⟨hissued, hlive⟩ := hretired
  by_cases hstart : ∃ sessionId endpointId config,
      command = .startSession sessionId endpointId config
  · obtain ⟨sessionId, endpointId, config, rfl⟩ := hstart
    rw [Retired, manager_startSession]
    rcases liveBackend_startSession codec worker.manager sessionId endpointId config env with
      ⟨hsame, hcreated⟩ | ⟨backend, hhandle, -, hafter, hcreated⟩
    · rw [hcreated]
      refine ⟨hissued, fun key held hheld => hlive key held ?_⟩
      rwa [← hsame]
    · rw [hcreated]
      refine ⟨by omega, fun key held hheld => ?_⟩
      rw [hafter] at hheld
      split at hheld
      · -- the new backend has a handle never used before
        obtain rfl := Option.some.inj hheld
        omega
      · exact hlive key held hheld
  · have hother : ∀ sessionId endpointId config,
        command ≠ .startSession sessionId endpointId config := by
      intro sessionId endpointId config heq
      exact hstart ⟨sessionId, endpointId, config, heq⟩
    constructor
    · rw [(liveBackend_processCommand codec worker env hother (0, 0)).2]
      exact hissued
    · intro key held hheld
      rw [(liveBackend_processCommand codec worker env hother key).1] at hheld
      split at hheld
      · contradiction
      · exact hlive key held hheld

/-- A disconnected backend receives nothing. -/
theorem blocksTo_run_retired {codec : Codec δ} {worker : TranscriptionWorker δ} {handle : Nat}
    (hretired : worker.Retired handle) (commands : List (TranscriptionCommand × Environment)) :
    blocksTo handle (worker.run codec commands).sent = [] := by
  induction commands generalizing worker with
  | nil => rfl
  | cons head rest ih =>
      obtain ⟨command, env⟩ := head
      have hhere : blocksTo handle (worker.processCommand codec command env).sent = [] := by
        apply blocksTo_eq_nil
        intro block hsent
        obtain ⟨packet, backend, -, hlive, hhandle⟩ := sent_processCommand hsent
        rw [← hhandle]
        exact hretired.2 packet.key backend hlive
      rw [run]
      dsimp only
      split
      · rw [blocksTo_append, hhere, ih (retired_processCommand hretired command env)]
        rfl
      · exact hhere

/-- Forwarding a packet of a live session: the worker's decoder lets it pass
exactly when the session's decoder accepts it, and the session's backend gets
what the session's decoder makes of it. -/
theorem forwardPacket_live {codec : Codec δ} (haccepts : codec.AcceptsByBytes)
    {worker : TranscriptionWorker δ} (decoder : δ) {packet : AudioPacket} (env : Environment)
    {session : TranscriptionSession δ}
    (hlive : worker.manager.sessions.get packet.key = some session) :
    (worker.forwardPacket codec decoder packet env).running = true ∧
    ∃ next, (worker.forwardPacket codec decoder packet env).worker.manager.sessions.get
        packet.key = some { session with decoder := next } ∧
      ∀ rest, blocksTo session.backend.handle
          (worker.forwardPacket codec decoder packet env).sent ++ decodedBlocks codec next rest =
        decodedBlocks codec session.decoder (packet.opusData :: rest) := by
  have hsame := haccepts.accepts decoder session.decoder packet.opusData
  obtain ⟨sessionId, endpointId, opusData, timestamp, ssrc⟩ := packet
  simp only [AudioPacket.key] at hlive hsame ⊢
  cases hgate : codec.decode decoder opusData with
  | mk gate gateNext =>
  cases hdecode : codec.decode session.decoder opusData with
  | mk result next =>
      rw [hgate, hdecode] at hsame
      cases gate with
      | ok gatePcm =>
          cases result with
          | error reason => simp [Except.isOk, Except.toBool] at hsame
          | ok pcm =>
              refine ⟨by simp [forwardPacket, hgate], next, ?_, ?_⟩
              · simp [forwardPacket, hgate, TranscriptionManager.processAudio, hlive,
                  TranscriptionSession.processAudio, hdecode]
              · intro rest
                simp [forwardPacket, hgate, TranscriptionManager.processAudio, hlive,
                  TranscriptionSession.processAudio, hdecode, decodedBlocks, blocksTo]
      | error gateReason =>
          cases result with
          | ok pcm => simp [Except.isOk, Except.toBool] at hsame
          | error reason =>
              -- the rejected packet would have left the session's decoder as it was
              have hnext : next = session.decoder := by
                have hrejected := haccepts.rejected session.decoder opusData reason
                rw [hdecode] at hrejected
                exact hrejected rfl
              subst hnext
              refine ⟨by simp [forwardPacket, hgate], session.decoder, ?_, ?_⟩
              · simp [forwardPacket, hgate, hlive]
              · intro rest
                simp [forwardPacket, hgate, decodedBlocks, hdecode]

/-- The commands that end the life of a session or of the worker. -/
def Ends (key : SessionKey) (command : TranscriptionCommand) : Prop :=
  command = .stopSession key.1 key.2 ∨ command = .shutdown

theorem audioUntilStop_of_ends {key : SessionKey} {command : TranscriptionCommand}
    (hends : Ends key command) (rest : List TranscriptionCommand) :
    audioUntilStop key (command :: rest) = [] := by
  rcases hends with rfl | rfl
  · simp [audioUntilStop]
  · rfl

/-- One command that ends neither the session nor the worker: the session stays
with its backend, and the backend gets what the session's decoder makes of the
command's packet. -/
theorem blocksTo_processCommand_live {codec : Codec δ} (haccepts : codec.AcceptsByBytes)
    {worker : TranscriptionWorker δ} (hdistinct : worker.manager.HandlesDistinct)
    {key : SessionKey} {session : TranscriptionSession δ}
    (hlive : worker.manager.sessions.get key = some session) {command : TranscriptionCommand}
    {env : Environment} (hdecoder : env.workerDecoder = .ok ()) (hends : ¬ Ends key command) :
    (worker.processCommand codec command env).running = true ∧
    ∃ next, (worker.processCommand codec command env).worker.manager.sessions.get key =
        some { session with decoder := next } ∧
      ∀ rest, blocksTo session.backend.handle (worker.processCommand codec command env).sent ++
          decodedBlocks codec next (audioUntilStop key rest) =
        decodedBlocks codec session.decoder (audioUntilStop key (command :: rest)) := by
  cases command with
  | startSession sessionId endpointId config =>
      refine ⟨by simp [processCommand, hdecoder], session.decoder, ?_, ?_⟩
      · rw [manager_startSession]
        by_cases hkey : key = (sessionId, endpointId)
        · subst hkey
          rw [startSession_of_live codec worker.manager sessionId endpointId env config hlive]
          exact hlive
        · rw [sessions_startSession_of_ne codec worker.manager sessionId endpointId env key config
            hkey]
          exact hlive
      · intro rest
        simp [processCommand, hdecoder, audioUntilStop]
  | stopSession sessionId endpointId =>
      have hkey : (sessionId, endpointId) ≠ key := by
        rintro rfl
        exact hends (.inl rfl)
      have hne : key ≠ (sessionId, endpointId) := hkey.symm
      refine ⟨rfl, session.decoder, by simp [processCommand, hne, hlive], ?_⟩
      intro rest
      simp [processCommand, audioUntilStop, hkey]
  | audio packet =>
      obtain ⟨decoder, hforward⟩ : ∃ decoder, worker.processCommand codec (.audio packet) env =
          worker.forwardPacket codec decoder packet env := by
        rcases audio_cases codec worker env packet with hforward | ⟨⟨reason, hfailed⟩, -⟩
        · exact hforward
        · rw [hdecoder] at hfailed
          contradiction
      by_cases hkey : packet.key = key
      · subst hkey
        obtain ⟨hrunning, next, hkept, hblocks⟩ := forwardPacket_live haccepts decoder env hlive
        rw [hforward]
        refine ⟨hrunning, next, hkept, fun rest => ?_⟩
        have htake : audioUntilStop packet.key (.audio packet :: rest) =
            packet.opusData :: audioUntilStop packet.key rest := by
          simp [audioUntilStop]
        rw [htake, hblocks]
      · refine ⟨?_, session.decoder, ?_, fun rest => ?_⟩
        · rw [hforward]
          unfold forwardPacket
          split <;> rfl
        · have hother : (TranscriptionCommand.audio packet).key ≠ some key := by
            intro heq
            exact hkey (Option.some.inj heq)
          rw [(processCommand_of_ne codec worker env hother).1]
          exact hlive
        · have hquiet : blocksTo session.backend.handle
              (worker.processCommand codec (.audio packet) env).sent = [] := by
            apply blocksTo_eq_nil
            intro block hsent hhandle
            -- the block goes to the backend of another key, which has another handle
            obtain ⟨heard, backend, heq, hother, hblock⟩ := sent_processCommand hsent
            obtain rfl : packet = heard := by simpa using heq
            have hlast : worker.manager.liveBackend key = some session.backend := by
              simp [liveBackend, hlive]
            exact hkey (hdistinct.distinct packet.key key backend session.backend hother hlast
              (hblock.trans hhandle))
          rw [hquiet]
          simp [audioUntilStop, hkey]
  | shutdown => exact absurd (.inr rfl) hends

/-- From a state with a live session on, its backend receives what the session's
decoder makes of the packets up to the next stop. -/
theorem blocksTo_run_live {codec : Codec δ} (haccepts : codec.AcceptsByBytes)
    {worker : TranscriptionWorker δ} (hdistinct : worker.manager.HandlesDistinct)
    {key : SessionKey} {session : TranscriptionSession δ}
    (hlive : worker.manager.sessions.get key = some session)
    {commands : List (TranscriptionCommand × Environment)}
    (hdecoders : ∀ entry ∈ commands, entry.2.workerDecoder = .ok ()) :
    blocksTo session.backend.handle (worker.run codec commands).sent =
      decodedBlocks codec session.decoder (audioUntilStop key (commands.map Prod.fst)) := by
  induction commands generalizing worker session with
  | nil => rfl
  | cons head rest ih =>
      obtain ⟨command, env⟩ := head
      have hdecoder : env.workerDecoder = .ok () := hdecoders (command, env) List.mem_cons_self
      have hrest : ∀ entry ∈ rest, entry.2.workerDecoder = .ok () := fun entry hmem =>
        hdecoders entry (List.mem_cons_of_mem _ hmem)
      rw [List.map_cons]
      by_cases hends : Ends key command
      · rw [audioUntilStop_of_ends hends, decodedBlocks]
        rcases hends with rfl | rfl
        · -- the backend is disconnected and receives nothing any more
          have hlast : worker.manager.liveBackend key = some session.backend := by
            simp [liveBackend, hlive]
          have hretired : (worker.processCommand codec (.stopSession key.1 key.2)
              env).worker.Retired session.backend.handle := by
            refine ⟨hdistinct.issued _ _ hlast, ?_⟩
            intro other backend hother hhandle
            simp only [processCommand, liveBackend_stopSession] at hother
            split at hother
            · contradiction
            · rename_i hne
              exact hne (hdistinct.distinct other key backend _ hother hlast hhandle)
          rw [run_cons_of_running rfl, blocksTo_append, blocksTo_run_retired hretired rest]
          rfl
        · rw [run_cons_of_stopped rfl]
          rfl
      · obtain ⟨hrunning, next, hkept, hblocks⟩ :=
          blocksTo_processCommand_live haccepts hdistinct hlive hdecoder hends
        have hnext := handlesDistinct_processCommand codec hdistinct command env
        have hlater := ih hnext hkept hrest
        dsimp only at hlater
        rw [run_cons_of_running hrunning, blocksTo_append, hlater, hblocks]

/-- The blocks passed to the backend that a start creates are the successful
outputs, in order and each once, of a fresh decoder run over the packets of the
session's key processed after that start and before the next stop of the key or
the next shutdown. -/
theorem blocksTo_created_session {codec : Codec δ} (haccepts : codec.AcceptsByBytes)
    (config : TranscriptionConfig) {before after : List (TranscriptionCommand × Environment)}
    {sessionId endpointId : UInt64} {override : Option TranscriptionConfig} {env : Environment}
    (hdecoders : ∀ entry ∈ before ++ (.startSession sessionId endpointId override, env) :: after,
      entry.2.workerDecoder = .ok ())
    (hrunning : ((new (.new config)).run codec before).running = true)
    (hfree : ((new (.new config)).run codec before).worker.manager.sessions.get
      (sessionId, endpointId) = none)
    {session : TranscriptionSession δ}
    (hcreated : (((new (.new config)).run codec before).worker.manager.startSession codec
      sessionId endpointId override env).1.sessions.get (sessionId, endpointId) = some session) :
    blocksTo session.backend.handle
        ((new (.new config)).run codec
          (before ++ (.startSession sessionId endpointId override, env) :: after)).sent =
      decodedBlocks codec codec.new
        (audioUntilStop (sessionId, endpointId) (after.map Prod.fst)) := by
  have hdistinct : ((new (.new config)).run codec before).worker.manager.HandlesDistinct :=
    handlesDistinct_run codec (handlesDistinct_new config) before
  obtain ⟨hhandle, hfresh⟩ := session_of_start hfree hcreated
  -- before the start nothing was sent to the new backend
  have hbefore : blocksTo session.backend.handle
      ((new (.new config)).run codec before).sent = [] := by
    apply blocksTo_eq_nil
    intro block hsent
    have hless := handle_of_sent_run (handlesDistinct_new config) hsent
    omega
  have hdecoder : env.workerDecoder = .ok () :=
    hdecoders (.startSession sessionId endpointId override, env) (by simp)
  have hstart : (((new (.new config)).run codec before).worker.processCommand codec
      (.startSession sessionId endpointId override) env).running = true ∧
      (((new (.new config)).run codec before).worker.processCommand codec
        (.startSession sessionId endpointId override) env).sent = [] := by
    simp [processCommand, hdecoder]
  have hlive : (((new (.new config)).run codec before).worker.processCommand codec
      (.startSession sessionId endpointId override) env).worker.manager.sessions.get
        (sessionId, endpointId) = some session := by
    rw [manager_startSession]
    exact hcreated
  have hafter : ∀ entry ∈ after, entry.2.workerDecoder = .ok () := by
    intro entry hmem
    exact hdecoders entry (by simp [hmem])
  rw [run_append before _ hrunning, blocksTo_append, hbefore, run_cons_of_running hstart.1,
    blocksTo_append, hstart.2, ← hfresh]
  exact blocksTo_run_live haccepts
    (handlesDistinct_processCommand codec hdistinct _ env) hlive hafter

/-- A decoder that rejects empty packets and numbers the others. -/
def numbering : Codec Nat where
  new := 0
  decode := fun count bytes =>
    if bytes = [] then (.error "empty packet", count) else (.ok [Int16.ofNat count], count + 1)

theorem numbering_acceptsByBytes : numbering.AcceptsByBytes where
  accepts := by
    intro first second bytes
    by_cases hempty : bytes = [] <;> simp [numbering, hempty, Except.isOk, Except.toBool]
  rejected := by
    intro decoder bytes reason hreject
    by_cases hempty : bytes = []
    · simp [numbering, hempty]
    · simp [numbering, hempty] at hreject

/-- Commands before the start of `(1, 2)`. -/
def beforeStart : List (TranscriptionCommand × Environment) :=
  [(.startSession 1 1 none, .allSucceed), (.audio ⟨1, 1, [9], 0, 5⟩, .allSucceed)]

/-- Commands after it: an empty packet, a further start, a stop and late audio. -/
def afterStart : List (TranscriptionCommand × Environment) :=
  [(.audio ⟨1, 2, [5], 0, 9⟩, .allSucceed), (.audio ⟨1, 1, [6], 960, 5⟩, .allSucceed),
    (.audio ⟨1, 2, [], 960, 9⟩, .allSucceed), (.startSession 1 2 none, .allSucceed),
    (.audio ⟨1, 2, [7], 1920, 9⟩, .allSucceed), (.stopSession 1 2, .allSucceed),
    (.audio ⟨1, 2, [8], 2880, 9⟩, .allSucceed)]

theorem blocksTo_created_session_afterStart :
    blocksTo 1 ((new (.new (.new "10.0.0.1:43007"))).run numbering
      (beforeStart ++ (.startSession 1 2 none, .allSucceed) :: afterStart)).sent = [[0], [1]] := by
  have hdecoders : ∀ entry ∈
      beforeStart ++ (.startSession 1 2 none, .allSucceed) :: afterStart,
      entry.2.workerDecoder = .ok () := by
    simp [beforeStart, afterStart, Environment.allSucceed]
  have hcreated : (((new (.new (.new "10.0.0.1:43007"))).run numbering
      beforeStart).worker.manager.startSession numbering 1 2 none .allSucceed).1.sessions.get
        (1, 2) = some ⟨1, 2, 0, ⟨1, .simulStreaming "10.0.0.1:43007"⟩⟩ := rfl
  exact blocksTo_created_session numbering_acceptsByBytes (.new "10.0.0.1:43007") hdecoders rfl
    rfl hcreated

end TranscriptionWorker
end Transcription
end MediaServer
