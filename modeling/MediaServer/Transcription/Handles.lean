import MediaServer.Transcription.Worker

/-!
# Which backend belongs to which session

Handles are handed out in the order of creation and never again.  So in every
state the handles of the live sessions are below the number of backends created,
and two live sessions never share one.  Both facts together say that a handle
identifies a connection over a whole run.
-/

namespace MediaServer
namespace Transcription

open Foundation

variable {δ : Type}

namespace TranscriptionManager

/-- The backend of the live session of a key. -/
def liveBackend (manager : TranscriptionManager δ) (key : SessionKey) : Option Backend :=
  (manager.sessions.get key).map (·.backend)

theorem liveBackend_eq_some_iff {manager : TranscriptionManager δ} {key : SessionKey}
    {backend : Backend} :
    manager.liveBackend key = some backend ↔
      ∃ session, manager.sessions.get key = some session ∧ session.backend = backend := by
  simp [liveBackend, Option.map_eq_some_iff]

section Operations

variable (codec : Codec δ) (manager : TranscriptionManager δ) (sessionId endpointId : UInt64)
  (env : Environment) (key : SessionKey)

@[simp] theorem liveBackend_new (config : TranscriptionConfig) :
    (new config : TranscriptionManager δ).liveBackend key = none := by
  simp [liveBackend]

@[simp] theorem liveBackend_stopSession :
    (manager.stopSession sessionId endpointId).liveBackend key =
      if key = (sessionId, endpointId) then none else manager.liveBackend key := by
  by_cases hkey : key = (sessionId, endpointId) <;> simp [liveBackend, hkey]

/-- Audio leaves every session with its backend. -/
@[simp] theorem liveBackend_processAudio (opusData : Bytes) :
    (manager.processAudio codec sessionId endpointId opusData env).1.liveBackend key =
      manager.liveBackend key := by
  unfold processAudio liveBackend
  cases hsession : manager.sessions.get (sessionId, endpointId) with
  | none => rfl
  | some session =>
      have hbackend : (session.processAudio codec opusData env).1.backend = session.backend := by
        unfold TranscriptionSession.processAudio
        split <;> rfl
      by_cases hkey : key = (sessionId, endpointId)
      · simp [hkey, hsession, hbackend]
      · simp [hkey]

/-- Audio is sent to the backend of its own session, at most one block of it. -/
theorem sent_processAudio (opusData : Bytes) :
    (manager.processAudio codec sessionId endpointId opusData env).2.2 =
      match manager.sessions.get (sessionId, endpointId) with
      | none => []
      | some session =>
          match (codec.decode session.decoder opusData).1 with
          | .ok pcm => [⟨session.backend.handle, pcm⟩]
          | .error _ => [] := by
  unfold processAudio
  cases manager.sessions.get (sessionId, endpointId) with
  | none => rfl
  | some session =>
      simp only [TranscriptionSession.processAudio]
      split <;> simp_all

/-- A block is sent only to the live backend of the key the audio is for. -/
theorem liveBackend_of_sent {opusData : Bytes} {block : SendAudio}
    (hsent : block ∈ (manager.processAudio codec sessionId endpointId opusData env).2.2) :
    ∃ backend, manager.liveBackend (sessionId, endpointId) = some backend ∧
      backend.handle = block.handle := by
  rw [sent_processAudio] at hsent
  cases hsession : manager.sessions.get (sessionId, endpointId) with
  | none => simp [hsession] at hsent
  | some session =>
      simp only [hsession] at hsent
      cases hpcm : (codec.decode session.decoder opusData).1 with
      | ok pcm =>
          obtain rfl : block = ⟨session.backend.handle, pcm⟩ := by simpa [hpcm] using hsent
          exact ⟨session.backend, by simp [liveBackend, hsession], rfl⟩
      | error _ => simp [hpcm] at hsent

end Operations

/-- The invariant: handles of live sessions were handed out, and are distinct. -/
structure HandlesDistinct (manager : TranscriptionManager δ) : Prop where
  issued : ∀ key backend, manager.liveBackend key = some backend →
    backend.handle < manager.created
  distinct : ∀ first second backend other, manager.liveBackend first = some backend →
    manager.liveBackend second = some other → backend.handle = other.handle → first = second

theorem handlesDistinct_new (config : TranscriptionConfig) :
    (new config : TranscriptionManager δ).HandlesDistinct where
  issued := by simp
  distinct := by simp

theorem handlesDistinct_stopSession {manager : TranscriptionManager δ}
    (hdistinct : manager.HandlesDistinct) (sessionId endpointId : UInt64) :
    (manager.stopSession sessionId endpointId).HandlesDistinct where
  issued := by
    intro key backend hlive
    rw [liveBackend_stopSession] at hlive
    split at hlive
    · contradiction
    · exact hdistinct.issued key backend hlive
  distinct := by
    intro first second backend other hfirst hsecond hhandle
    rw [liveBackend_stopSession] at hfirst hsecond
    split at hfirst
    · contradiction
    · split at hsecond
      · contradiction
      · exact hdistinct.distinct first second backend other hfirst hsecond hhandle

theorem handlesDistinct_processAudio {manager : TranscriptionManager δ}
    (hdistinct : manager.HandlesDistinct) (codec : Codec δ) (sessionId endpointId : UInt64)
    (opusData : Bytes) (env : Environment) :
    (manager.processAudio codec sessionId endpointId opusData env).1.HandlesDistinct where
  issued := by
    intro key backend hlive
    rw [liveBackend_processAudio] at hlive
    rw [created_processAudio]
    exact hdistinct.issued key backend hlive
  distinct := by
    intro first second backend other hfirst hsecond hhandle
    rw [liveBackend_processAudio] at hfirst hsecond
    exact hdistinct.distinct first second backend other hfirst hsecond hhandle

/-- The backend that a start creates gets the next handle. -/
theorem handle_of_new {codec : Codec δ} {sessionId endpointId : UInt64}
    {config : TranscriptionConfig} {serverIndex handle : Nat} {env : Environment}
    {session : TranscriptionSession δ}
    (hnew : TranscriptionSession.new codec sessionId endpointId config serverIndex handle env =
      .ok session) : session.backend.handle = handle ∧ session.decoder = codec.new := by
  obtain ⟨-, target, -, rfl⟩ := TranscriptionSession.new_eq_ok_iff.mp hnew
  exact ⟨rfl, rfl⟩

/-- A session that a start brought about has the next handle and a fresh
decoder. -/
theorem session_of_start {codec : Codec δ} {manager : TranscriptionManager δ}
    {sessionId endpointId : UInt64} {configOverride : Option TranscriptionConfig}
    {env : Environment} (hfree : manager.sessions.get (sessionId, endpointId) = none)
    {session : TranscriptionSession δ}
    (hcreated : (manager.startSession codec sessionId endpointId configOverride
      env).1.sessions.get (sessionId, endpointId) = some session) :
    session.backend.handle = manager.created ∧ session.decoder = codec.new := by
  have hcase := startCase codec manager sessionId endpointId configOverride env
  generalize manager.startSession codec sessionId endpointId configOverride env = started
    at hcase hcreated
  cases hcase with
  | live held hlive => simp [hfree] at hlive
  | failed reason _ hnew => simp [hfree] at hcreated
  | created held _ hnew =>
      obtain rfl : held = session := by simpa using hcreated
      exact handle_of_new hnew

/-- The live backends after a start: a new one for the key when one was created,
all others as before. -/
theorem liveBackend_startSession (codec : Codec δ) (manager : TranscriptionManager δ)
    (sessionId endpointId : UInt64) (configOverride : Option TranscriptionConfig)
    (env : Environment) :
    (∀ key, (manager.startSession codec sessionId endpointId configOverride env).1.liveBackend
        key = manager.liveBackend key) ∧
      (manager.startSession codec sessionId endpointId configOverride env).1.created =
        manager.created ∨
    ∃ backend, backend.handle = manager.created ∧
      manager.liveBackend (sessionId, endpointId) = none ∧
      (∀ key, (manager.startSession codec sessionId endpointId configOverride env).1.liveBackend
        key = if key = (sessionId, endpointId) then some backend
          else manager.liveBackend key) ∧
      (manager.startSession codec sessionId endpointId configOverride env).1.created =
        manager.created + 1 := by
  have hcase := startCase codec manager sessionId endpointId configOverride env
  generalize manager.startSession codec sessionId endpointId configOverride env = started
    at hcase ⊢
  cases hcase with
  | live session hlive => exact .inl ⟨fun _ => rfl, rfl⟩
  | failed reason hfree hnew =>
      left
      refine ⟨fun key => ?_, ?_⟩
      · simp [liveBackend]
      · simp
  | created session hfree hnew =>
      right
      refine ⟨session.backend, (handle_of_new hnew).1, ?_, ?_, rfl⟩
      · simp [liveBackend, hfree]
      · intro key
        by_cases hkey : key = (sessionId, endpointId) <;> simp [liveBackend, hkey]

theorem handlesDistinct_startSession {manager : TranscriptionManager δ}
    (hdistinct : manager.HandlesDistinct) (codec : Codec δ) (sessionId endpointId : UInt64)
    (configOverride : Option TranscriptionConfig) (env : Environment) :
    (manager.startSession codec sessionId endpointId configOverride env).1.HandlesDistinct := by
  rcases liveBackend_startSession codec manager sessionId endpointId configOverride env with
    ⟨hlive, hcreated⟩ | ⟨backend, hhandle, -, hlive, hcreated⟩
  · constructor
    · intro key held hheld
      rw [hlive] at hheld
      rw [hcreated]
      exact hdistinct.issued key held hheld
    · intro first second held other hfirst hsecond hsame
      rw [hlive] at hfirst hsecond
      exact hdistinct.distinct first second held other hfirst hsecond hsame
  · constructor
    · intro key held hheld
      rw [hlive] at hheld
      rw [hcreated]
      split at hheld
      · obtain rfl := Option.some.inj hheld
        omega
      · have hissued := hdistinct.issued key held hheld
        omega
    · intro first second held other hfirst hsecond hsame
      rw [hlive] at hfirst hsecond
      -- an older backend has a smaller handle than the new one
      split at hfirst
      · rename_i hkey
        obtain rfl := Option.some.inj hfirst
        split at hsecond
        · rename_i hother
          rw [hkey, hother]
        · have hissued := hdistinct.issued second other hsecond
          omega
      · split at hsecond
        · obtain rfl := Option.some.inj hsecond
          have hissued := hdistinct.issued first held hfirst
          omega
        · exact hdistinct.distinct first second held other hfirst hsecond hsame

end TranscriptionManager

namespace TranscriptionWorker

/-- The number of backends created never decreases. -/
theorem created_le_processCommand (codec : Codec δ) (worker : TranscriptionWorker δ)
    (command : TranscriptionCommand) (env : Environment) :
    worker.manager.created ≤
      (worker.processCommand codec command env).worker.manager.created := by
  cases command with
  | startSession sessionId endpointId config =>
      rw [manager_startSession]
      rcases TranscriptionManager.liveBackend_startSession codec worker.manager sessionId
        endpointId config env with ⟨-, hcreated⟩ | ⟨backend, -, -, -, hcreated⟩
      · omega
      · omega
  | stopSession sessionId endpointId => exact Nat.le_refl _
  | audio packet =>
      rcases manager_audio codec worker env packet with ⟨hsame, -⟩ | ⟨hprocessed, -⟩
      · rw [hsame]
      · rw [hprocessed, TranscriptionManager.created_processAudio]
  | shutdown => exact Nat.le_refl _

theorem created_le_run (codec : Codec δ) (worker : TranscriptionWorker δ)
    (commands : List (TranscriptionCommand × Environment)) :
    worker.manager.created ≤ (worker.run codec commands).worker.manager.created := by
  induction commands generalizing worker with
  | nil => exact Nat.le_refl _
  | cons head rest ih =>
      obtain ⟨command, env⟩ := head
      have hstep := created_le_processCommand codec worker command env
      rw [run]
      dsimp only
      split
      · exact hstep.trans (ih _)
      · exact hstep

/-- Every command keeps the invariant. -/
theorem handlesDistinct_processCommand (codec : Codec δ) {worker : TranscriptionWorker δ}
    (hdistinct : worker.manager.HandlesDistinct) (command : TranscriptionCommand)
    (env : Environment) :
    (worker.processCommand codec command env).worker.manager.HandlesDistinct := by
  cases command with
  | startSession sessionId endpointId config =>
      rw [manager_startSession]
      exact TranscriptionManager.handlesDistinct_startSession hdistinct codec sessionId endpointId
        config env
  | stopSession sessionId endpointId =>
      exact TranscriptionManager.handlesDistinct_stopSession hdistinct sessionId endpointId
  | audio packet =>
      rcases manager_audio codec worker env packet with ⟨hsame, -⟩ | ⟨hprocessed, -⟩
      · rw [hsame]
        exact hdistinct
      · rw [hprocessed]
        exact TranscriptionManager.handlesDistinct_processAudio hdistinct codec packet.sessionId
          packet.endpointId packet.opusData env
  | shutdown => exact hdistinct

/-- The invariant holds after every list of commands. -/
theorem handlesDistinct_run (codec : Codec δ) {worker : TranscriptionWorker δ}
    (hdistinct : worker.manager.HandlesDistinct)
    (commands : List (TranscriptionCommand × Environment)) :
    (worker.run codec commands).worker.manager.HandlesDistinct := by
  induction commands generalizing worker with
  | nil => exact hdistinct
  | cons head rest ih =>
      obtain ⟨command, env⟩ := head
      have hnext := handlesDistinct_processCommand codec hdistinct command env
      rw [run]
      dsimp only
      split
      · exact ih hnext
      · exact hnext

end TranscriptionWorker
end Transcription
end MediaServer
