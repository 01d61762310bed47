import MediaServer.Foundation.HashMap
import MediaServer.Foundation.Machine
import MediaServer.Transcription.Command

/-!
# The transcription manager

`transcription/manager.rs`: the map of live sessions, the rotation over the
configured servers, and the way of an audio packet through a session's decoder
to its backend.  What lies outside the server enters from outside:

* the decoder is a `Codec`, a state and a decoding function on it;
* the outcomes of everything that can fail during one call are collected in an
  `Environment`.

Every backend created gets the ordinal of its creation as its `handle`.  The
source has no such number; it stands for the identity of the connection, so that
"the backend created by this start" has a meaning after the session was stopped
and its key used again.
-/

namespace MediaServer
namespace Transcription

open Foundation

/-- The behaviour of `AudioDecoder`, with decoder states of type `δ`. -/
structure Codec (δ : Type) where
  /-- the decoder that `AudioDecoder::new` returns -/
  new : δ
  /-- `AudioDecoder::decode` -/
  decode : δ → Bytes → Except String Pcm × δ

/-- A decoder that yields no samples, for concrete runs. -/
def Codec.silent : Codec Unit := ⟨(), fun _ _ => (.ok [], ())⟩

inductive SocketAddr
  | v4 (ip : BitVec 32) (port : UInt16)
  | v6 (ip : BitVec 128) (port : UInt16) (flowinfo scopeId : UInt32)
  deriving DecidableEq

/-- What `connect_with_timeout` meets: parsing an address, the TCP connection
and the operations on the stream it yields. -/
structure Network where
  parse : String → Except String SocketAddr
  connectTimeout : SocketAddr → Nat → Except String Unit
  setNodelay : Except String Unit
  setWriteTimeout : Except String Unit
  tryClone : Except String Unit

/-- The outcomes met by one call into the transcription subsystem. -/
structure Environment where
  network : Network
  /-- `AudioDecoder::new` for a session -/
  sessionDecoder : Except String Unit
  /-- `AudioDecoder::new` for the worker -/
  workerDecoder : Except String Unit
  /-- `send_audio` of a session's backend -/
  sendAudio : Except String Unit

/-- Everything succeeds, for concrete runs. -/
def Environment.allSucceed : Environment where
  network :=
    { parse := fun _ => .ok (.v4 0 43007)
      connectTimeout := fun _ _ => .ok ()
      setNodelay := .ok ()
      setWriteTimeout := .ok ()
      tryClone := .ok () }
  sessionDecoder := .ok ()
  workerDecoder := .ok ()
  sendAudio := .ok ()

/-- `SimulStreamingClient::connect_with_timeout` -/
def SimulStreamingClient.connectWithTimeout (network : Network) (addr : String) (timeout : Nat) :
    Except String Unit := do
  let socketAddr ← network.parse addr
  network.connectTimeout socketAddr timeout
  network.setNodelay
  network.setWriteTimeout
  network.tryClone

/-- What a backend talks to. -/
inductive BackendTarget
  | simulStreaming (addr : String)
  | openAi (apiKey : String) (baseUrl model : Option String)
  deriving DecidableEq

/-- A transcription backend. -/
structure Backend where
  /-- ordinal of its creation -/
  handle : Nat
  target : BackendTarget
  deriving DecidableEq

/-- A transcription session for a single audio stream. -/
structure TranscriptionSession (δ : Type) where
  sessionId : UInt64
  endpointId : UInt64
  /-- audio decoder (OPUS to PCM 16kHz) -/
  decoder : δ
  backend : Backend

/-- A block of samples passed to `send_audio` of a backend. -/
structure SendAudio where
  handle : Nat
  pcm : Pcm
  deriving DecidableEq

variable {δ : Type}

namespace TranscriptionSession

/-- The `match &config.backend` of `TranscriptionSession::new`. -/
def createBackend (config : TranscriptionConfig) (serverIndex : Nat) (network : Network) :
    Except String BackendTarget :=
  match config.backend with
  | .none => .error "No transcription backend configured for this session"
  | .simulStreaming addresses =>
      if hempty : addresses = [] then .error "No SimulStreaming addresses configured"
      else do
        let addr := addresses.get
          ⟨serverIndex % addresses.length,
            Nat.mod_lt serverIndex (List.length_pos_of_ne_nil hempty)⟩
        SimulStreamingClient.connectWithTimeout network addr config.connectTimeout
        pure (.simulStreaming addr)
  | .openAi apiKey baseUrl model => .ok (.openAi apiKey baseUrl model)

/-- `TranscriptionSession::new`; `serverIndex` is for round-robin. -/
def new (codec : Codec δ) (sessionId endpointId : UInt64) (config : TranscriptionConfig)
    (serverIndex handle : Nat) (env : Environment) : Except String (TranscriptionSession δ) := do
  env.sessionDecoder
  let target ← createBackend config serverIndex env.network
  pure
    { sessionId := sessionId
      endpointId := endpointId
      decoder := codec.new
      backend := ⟨handle, target⟩ }

/-- Process an OPUS audio packet: decode it and send it to the backend. -/
def processAudio (codec : Codec δ) (session : TranscriptionSession δ) (opusData : Bytes)
    (env : Environment) : TranscriptionSession δ × Except String Unit × List SendAudio :=
  match codec.decode session.decoder opusData with
  | (.error reason, decoder) => ({ session with decoder := decoder }, .error reason, [])
  | (.ok pcm, decoder) =>
      ({ session with decoder := decoder }, env.sendAudio, [⟨session.backend.handle, pcm⟩])

/-- A session that was created has a fresh decoder and a backend of its own. -/
theorem new_eq_ok_iff {codec : Codec δ} {sessionId endpointId : UInt64}
    {config : TranscriptionConfig} {serverIndex handle : Nat} {env : Environment}
    {session : TranscriptionSession δ} :
    new codec sessionId endpointId config serverIndex handle env = .ok session ↔
      env.sessionDecoder = .ok () ∧
      ∃ target, createBackend config serverIndex env.network = .ok target ∧
        session = ⟨sessionId, endpointId, codec.new, ⟨handle, target⟩⟩ := by
  unfold new
  cases env.sessionDecoder with
  | error reason => simp [bind, Except.bind]
  | ok _ =>
      cases createBackend config serverIndex env.network with
      | error reason => simp [bind, Except.bind]
      | ok target => simp [bind, Except.bind, pure, Except.pure, eq_comm]

end TranscriptionSession

/-- Manager for multiple transcription sessions. -/
structure TranscriptionManager (δ : Type) where
  config : TranscriptionConfig
  sessions : HashMap SessionKey (TranscriptionSession δ)
  nextServerIndex : Nat
  /-- number of backends created so far -/
  created : Nat

namespace TranscriptionManager

/-- `TranscriptionManager::new` -/
def new (config : TranscriptionConfig) : TranscriptionManager δ where
  config := config
  sessions := HashMap.empty
  nextServerIndex := 0
  created := 0

/-- The "get server index" section of `start_session`.  The index moves on by
the manager's own configuration, whatever configuration the session uses. -/
def takeServerIndex (manager : TranscriptionManager δ) : Nat × TranscriptionManager δ :=
  let current := manager.nextServerIndex
  match manager.config.backend with
  | .simulStreaming addresses =>
      if addresses = [] then (current, manager)
      else (current, { manager with nextServerIndex := (current + 1) % addresses.length })
  | _ => (current, manager)

/-- The "create new session" section of `start_session`. -/
def createSession (codec : Codec δ) (manager : TranscriptionManager δ)
    (sessionId endpointId : UInt64) (config : TranscriptionConfig) (serverIndex : Nat)
    (env : Environment) : TranscriptionManager δ × Except String (TranscriptionSession δ) :=
  match TranscriptionSession.new codec sessionId endpointId config serverIndex manager.created
    env with
  | .error reason => (manager, .error reason)
  | .ok session => ({ manager with created := manager.created + 1 }, .ok session)

/-- The "store session" section of `start_session`. -/
def storeSession (manager : TranscriptionManager δ) (key : SessionKey)
    (session : TranscriptionSession δ) : TranscriptionManager δ :=
  { manager with sessions := manager.sessions.insert key session }

/-- Start a transcription session for a participant. -/
def startSession (codec : Codec δ) (manager : TranscriptionManager δ)
    (sessionId endpointId : UInt64) (configOverride : Option TranscriptionConfig)
    (env : Environment) : TranscriptionManager δ × Except String Unit :=
  if manager.sessions.containsKey (sessionId, endpointId) then (manager, .ok ())
  else
    let config := configOverride.getD manager.config
    let (serverIndex, manager) := manager.takeServerIndex
    match manager.createSession codec sessionId endpointId config serverIndex env with
    | (manager, .error reason) => (manager, .error reason)
    | (manager, .ok session) => (manager.storeSession (sessionId, endpointId) session, .ok ())

/-- Stop a transcription session. -/
def stopSession (manager : TranscriptionManager δ) (sessionId endpointId : UInt64) :
    TranscriptionManager δ :=
  { manager with sessions := manager.sessions.remove (sessionId, endpointId) }

/-- Process audio for a session; without a session the audio is ignored. -/
def processAudio (codec : Codec δ) (manager : TranscriptionManager δ)
    (sessionId endpointId : UInt64) (opusData : Bytes) (env : Environment) :
    TranscriptionManager δ × Except String Unit × List SendAudio :=
  match manager.sessions.get (sessionId, endpointId) with
  | some session =>
      let (session, result, sent) := session.processAudio codec opusData env
      ({ manager with sessions := manager.sessions.insert (sessionId, endpointId) session },
        result, sent)
  | none => (manager, .ok (), [])

/-- Check if a session exists. -/
def hasSession (manager : TranscriptionManager δ) (sessionId endpointId : UInt64) : Bool :=
  manager.sessions.containsKey (sessionId, endpointId)

/-- The number of active sessions. -/
def activeSessionCount (manager : TranscriptionManager δ) : Nat := manager.sessions.len

/-- A call of one of the manager's operations. -/
inductive ManagerCall
  | startSession (sessionId endpointId : UInt64) (configOverride : Option TranscriptionConfig)
  | stopSession (sessionId endpointId : UInt64)
  | processAudio (sessionId endpointId : UInt64) (opusData : Bytes)
  deriving DecidableEq

/-- One call: the manager afterwards and what was sent to backends. -/
def call (codec : Codec δ) (manager : TranscriptionManager δ) (env : Environment) :
    ManagerCall → TranscriptionManager δ × List SendAudio
  | .startSession sessionId endpointId configOverride =>
      ((manager.startSession codec sessionId endpointId configOverride env).1, [])
  | .stopSession sessionId endpointId => (manager.stopSession sessionId endpointId, [])
  | .processAudio sessionId endpointId opusData =>
      let (manager, _, sent) := manager.processAudio codec sessionId endpointId opusData env
      (manager, sent)

/-- The manager under any sequence of calls, each with the outcomes it meets. -/
def calls (codec : Codec δ) :
    Machine (TranscriptionManager δ) (ManagerCall × Environment) SendAudio where
  step manager input := some (manager.call codec input.2 input.1)

/-! ## What a start does -/

/-- The three ways through `start_session`. -/
inductive StartCase (codec : Codec δ) (manager : TranscriptionManager δ)
    (sessionId endpointId : UInt64) (configOverride : Option TranscriptionConfig)
    (env : Environment) : TranscriptionManager δ × Except String Unit → Prop
  | live (session : TranscriptionSession δ)
      (hlive : manager.sessions.get (sessionId, endpointId) = some session) :
      StartCase codec manager sessionId endpointId configOverride env (manager, .ok ())
  | failed (reason : String) (hfree : manager.sessions.get (sessionId, endpointId) = none)
      (hnew : TranscriptionSession.new codec sessionId endpointId
        (configOverride.getD manager.config) manager.nextServerIndex manager.created env =
          .error reason) :
      StartCase codec manager sessionId endpointId configOverride env
        (manager.takeServerIndex.2, .error reason)
  | created (session : TranscriptionSession δ)
      (hfree : manager.sessions.get (sessionId, endpointId) = none)
      (hnew : TranscriptionSession.new codec sessionId endpointId
        (configOverride.getD manager.config) manager.nextServerIndex manager.created env =
          .ok session) :
      StartCase codec manager sessionId endpointId configOverride env
        ({ manager.takeServerIndex.2 with
          created := manager.created + 1
          sessions := manager.sessions.insert (sessionId, endpointId) session }, .ok ())

theorem takeServerIndex_fst (manager : TranscriptionManager δ) :
    manager.takeServerIndex.1 = manager.nextServerIndex := by
  unfold takeServerIndex
  dsimp only
  split
  · split <;> rfl
  · rfl

@[simp] theorem takeServerIndex_created (manager : TranscriptionManager δ) :
    manager.takeServerIndex.2.created = manager.created := by
  unfold takeServerIndex
  dsimp only
  split
  · split <;> rfl
  · rfl

@[simp] theorem takeServerIndex_sessions (manager : TranscriptionManager δ) :
    manager.takeServerIndex.2.sessions = manager.sessions := by
  unfold takeServerIndex
  dsimp only
  split
  · split <;> rfl
  · rfl

@[simp] theorem takeServerIndex_config (manager : TranscriptionManager δ) :
    manager.takeServerIndex.2.config = manager.config := by
  unfold takeServerIndex
  dsimp only
  split
  · split <;> rfl
  · rfl

/-- `start_session` takes one of the three ways. -/
theorem startCase (codec : Codec δ) (manager : TranscriptionManager δ)
    (sessionId endpointId : UInt64) (configOverride : Option TranscriptionConfig)
    (env : Environment) :
    StartCase codec manager sessionId endpointId configOverride env
      (manager.startSession codec sessionId endpointId configOverride env) := by
  cases hkey : manager.sessions.get (sessionId, endpointId) with
  | some session =>
      have hcontains : manager.sessions.containsKey (sessionId, endpointId) = true :=
        (HashMap.containsKey_eq_true_iff _ _).mpr ⟨session, hkey⟩
      have hstart : manager.startSession codec sessionId endpointId configOverride env =
          (manager, .ok ()) := by
        rw [startSession, if_pos hcontains]
      rw [hstart]
      exact .live session hkey
  | none =>
      have hcontains : manager.sessions.containsKey (sessionId, endpointId) = false :=
        (HashMap.containsKey_eq_false_iff _ _).mpr hkey
      cases hnew : TranscriptionSession.new codec sessionId endpointId
          (configOverride.getD manager.config) manager.nextServerIndex manager.created env with
      | error reason =>
          have hstart : manager.startSession codec sessionId endpointId configOverride env =
              (manager.takeServerIndex.2, .error reason) := by
            simp [startSession, hcontains, createSession, takeServerIndex_fst, hnew]
          rw [hstart]
          exact .failed reason hkey hnew
      | ok session =>
          have hstart : manager.startSession codec sessionId endpointId configOverride env =
              ({ manager.takeServerIndex.2 with
                created := manager.created + 1
                sessions := manager.sessions.insert (sessionId, endpointId) session },
                .ok ()) := by
            simp [startSession, hcontains, createSession, storeSession, takeServerIndex_fst, hnew]
          rw [hstart]
          exact .created session hkey hnew

/-! ## What an operation does to the sessions -/

section Sessions

variable (codec : Codec δ) (manager : TranscriptionManager δ) (sessionId endpointId : UInt64)
  (env : Environment) (key : SessionKey)

@[simp] theorem sessions_new (config : TranscriptionConfig) :
    (new config : TranscriptionManager δ).sessions = HashMap.empty := rfl

@[simp] theorem sessions_stopSession :
    (manager.stopSession sessionId endpointId).sessions =
      manager.sessions.remove (sessionId, endpointId) := rfl

@[simp] theorem created_stopSession :
    (manager.stopSession sessionId endpointId).created = manager.created := rfl

/-- A start leaves the sessions of other keys alone. -/
theorem sessions_startSession_of_ne (configOverride : Option TranscriptionConfig)
    (hkey : key ≠ (sessionId, endpointId)) :
    (manager.startSession codec sessionId endpointId configOverride env).1.sessions.get key =
      manager.sessions.get key := by
  have hcase := startCase codec manager sessionId endpointId configOverride env
  generalize manager.startSession codec sessionId endpointId configOverride env = started
    at hcase ⊢
  cases hcase with
  | live session hlive => rfl
  | failed reason hfree hnew => simp
  | created session hfree hnew => simp [hkey]

/-- A start leaves a live session in place. -/
theorem startSession_of_live (configOverride : Option TranscriptionConfig)
    {session : TranscriptionSession δ}
    (hlive : manager.sessions.get (sessionId, endpointId) = some session) :
    manager.startSession codec sessionId endpointId configOverride env = (manager, .ok ()) := by
  have hcontains : manager.sessions.containsKey (sessionId, endpointId) = true :=
    (HashMap.containsKey_eq_true_iff _ _).mpr ⟨session, hlive⟩
  rw [startSession, if_pos hcontains]

/-- After a start there is a session exactly when the start reports success. -/
theorem hasSession_startSession (configOverride : Option TranscriptionConfig) :
    (manager.startSession codec sessionId endpointId configOverride env).1.hasSession
        sessionId endpointId = true ↔
      (manager.startSession codec sessionId endpointId configOverride env).2 = .ok () := by
  unfold hasSession
  have hcase := startCase codec manager sessionId endpointId configOverride env
  generalize manager.startSession codec sessionId endpointId configOverride env = started
    at hcase ⊢
  cases hcase with
  | live session hlive => simp [HashMap.containsKey, hlive]
  | failed reason hfree hnew => simp [HashMap.containsKey, hfree]
  | created session hfree hnew => simp

/-- Audio reaches no session but its own. -/
theorem sessions_processAudio_of_ne (opusData : Bytes) (hkey : key ≠ (sessionId, endpointId)) :
    (manager.processAudio codec sessionId endpointId opusData env).1.sessions.get key =
      manager.sessions.get key := by
  unfold processAudio
  cases manager.sessions.get (sessionId, endpointId) with
  | some session => simp [hkey]
  | none => rfl

@[simp] theorem created_processAudio (opusData : Bytes) :
    (manager.processAudio codec sessionId endpointId opusData env).1.created =
      manager.created := by
  unfold processAudio
  cases manager.sessions.get (sessionId, endpointId) <;> rfl

@[simp] theorem config_processAudio (opusData : Bytes) :
    (manager.processAudio codec sessionId endpointId opusData env).1.config =
      manager.config := by
  unfold processAudio
  cases manager.sessions.get (sessionId, endpointId) <;> rfl

@[simp] theorem nextServerIndex_processAudio (opusData : Bytes) :
    (manager.processAudio codec sessionId endpointId opusData env).1.nextServerIndex =
      manager.nextServerIndex := by
  unfold processAudio
  cases manager.sessions.get (sessionId, endpointId) <;> rfl

/-- Audio neither opens nor closes a session. -/
theorem containsKey_processAudio (opusData : Bytes) :
    (manager.processAudio codec sessionId endpointId opusData env).1.sessions.containsKey key =
      manager.sessions.containsKey key := by
  unfold processAudio
  cases hsession : manager.sessions.get (sessionId, endpointId) with
  | some session =>
      by_cases hkey : key = (sessionId, endpointId)
      · simp [HashMap.containsKey, hkey, hsession]
      · simp [hkey]
  | none => rfl

end Sessions

end TranscriptionManager
end Transcription
end MediaServer
