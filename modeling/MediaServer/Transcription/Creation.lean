import MediaServer.Transcription.Worker

/-!
# When a session can be created

`start_session` succeeds when the session is live already, or when a decoder can
be created and the configuration in force names a backend that can be reached.
Over a list of commands without a stop of a key, the key has a session at the
end exactly when it had one at the beginning or one of the starts could create
it.
-/

namespace MediaServer
namespace Transcription

open Foundation

/-- The address parses, and the connection to it can be set up. -/
def Reachable (network : Network) (addr : String) (timeout : Nat) : Prop :=
  ∃ socketAddr, network.parse addr = .ok socketAddr ∧
    network.connectTimeout socketAddr timeout = .ok () ∧ network.setNodelay = .ok () ∧
    network.setWriteTimeout = .ok () ∧ network.tryClone = .ok ()

theorem connectWithTimeout_eq_ok_iff {network : Network} {addr : String} {timeout : Nat} :
    SimulStreamingClient.connectWithTimeout network addr timeout = .ok () ↔
      Reachable network addr timeout := by
  unfold SimulStreamingClient.connectWithTimeout Reachable
  cases network.parse addr with
  | error reason => simp [bind, Except.bind]
  | ok socketAddr =>
      cases hconnect : network.connectTimeout socketAddr timeout with
      | error reason => simp [bind, Except.bind, hconnect]
      | ok _ =>
          cases network.setNodelay with
          | error reason => simp [bind, Except.bind, hconnect]
          | ok _ =>
              cases network.setWriteTimeout with
              | error reason => simp [bind, Except.bind, hconnect]
              | ok _ => simp [bind, Except.bind, hconnect]

/-- A session with the configuration can be created: there is a decoder, a
backend is configured, and for SimulStreaming there is an address and the one
whose turn it is can be reached. -/
def Creatable (config : TranscriptionConfig) (serverIndex : Nat) (env : Environment) : Prop :=
  env.sessionDecoder = .ok () ∧
  match config.backend with
  | .none => False
  | .simulStreaming addresses =>
      ∃ addr, addresses[serverIndex % addresses.length]? = some addr ∧
        Reachable env.network addr config.connectTimeout
  | .openAi _ _ _ => True

variable {δ : Type} {codec : Codec δ}

theorem createBackend_eq_ok_iff {config : TranscriptionConfig} {serverIndex : Nat}
    {network : Network} :
    (∃ target, TranscriptionSession.createBackend config serverIndex network = .ok target) ↔
      match config.backend with
      | .none => False
      | .simulStreaming addresses =>
          ∃ addr, addresses[serverIndex % addresses.length]? = some addr ∧
            Reachable network addr config.connectTimeout
      | .openAi _ _ _ => True := by
  unfold TranscriptionSession.createBackend
  cases config.backend with
  | none => simp
  | openAi apiKey baseUrl model => simp
  | simulStreaming addresses =>
      by_cases hempty : addresses = []
      · simp [hempty]
      · have hlt : serverIndex % addresses.length < addresses.length :=
          Nat.mod_lt serverIndex (List.length_pos_of_ne_nil hempty)
        have hturn : addresses[serverIndex % addresses.length]? =
            some (addresses.get ⟨serverIndex % addresses.length, hlt⟩) :=
          List.getElem?_eq_getElem hlt
        simp only [dif_neg hempty, hturn, Option.some.injEq, exists_eq_left',
          ← connectWithTimeout_eq_ok_iff]
        cases SimulStreamingClient.connectWithTimeout network
          (addresses.get ⟨serverIndex % addresses.length, hlt⟩) config.connectTimeout <;>
          simp [bind, Except.bind, pure, Except.pure]

theorem new_eq_ok_iff_creatable (codec : Codec δ) {sessionId endpointId : UInt64}
    {config : TranscriptionConfig} {serverIndex handle : Nat} {env : Environment} :
    (∃ session, TranscriptionSession.new codec sessionId endpointId config serverIndex handle env =
      .ok session) ↔ Creatable config serverIndex env := by
  unfold Creatable
  rw [← createBackend_eq_ok_iff]
  constructor
  · rintro ⟨session, hnew⟩
    obtain ⟨hdecoder, target, htarget, -⟩ := TranscriptionSession.new_eq_ok_iff.mp hnew
    exact ⟨hdecoder, target, htarget⟩
  · rintro ⟨hdecoder, target, htarget⟩
    exact ⟨_, TranscriptionSession.new_eq_ok_iff.mpr ⟨hdecoder, target, htarget, rfl⟩⟩

namespace TranscriptionManager

/-- `start_session` reports success exactly when the session is live already or
can be created. -/
theorem startSession_eq_ok_iff {manager : TranscriptionManager δ} {sessionId endpointId : UInt64}
    {configOverride : Option TranscriptionConfig} {env : Environment} :
    (manager.startSession codec sessionId endpointId configOverride env).2 = .ok () ↔
      manager.hasSession sessionId endpointId = true ∨
        Creatable (configOverride.getD manager.config) manager.nextServerIndex env := by
  have hcase := startCase codec manager sessionId endpointId configOverride env
  generalize manager.startSession codec sessionId endpointId configOverride env = started
    at hcase ⊢
  unfold hasSession
  cases hcase with
  | live session hlive => simp [HashMap.containsKey, hlive]
  | failed reason hfree hnew =>
      have hnot : ¬ Creatable (configOverride.getD manager.config) manager.nextServerIndex env := by
        intro hcreatable
        obtain ⟨session, hok⟩ := (new_eq_ok_iff_creatable codec).mpr hcreatable
        rw [hnew] at hok
        contradiction
      simp [HashMap.containsKey, hfree, hnot]
  | created session hfree hnew =>
      have hcreatable := (new_eq_ok_iff_creatable codec).mp ⟨session, hnew⟩
      simp [hcreatable]

end TranscriptionManager

namespace TranscriptionWorker

/-- A start of the key finds its session live or can create it. -/
def StartSucceeds (worker : TranscriptionWorker δ) (key : SessionKey)
    (config : Option TranscriptionConfig) (env : Environment) : Prop :=
  worker.manager.hasSession key.1 key.2 = true ∨
    Creatable (config.getD worker.manager.config) worker.manager.nextServerIndex env

/-- After a start of the key there is a session when the start succeeds. -/
theorem hasSession_start {worker : TranscriptionWorker δ} {key : SessionKey}
    {config : Option TranscriptionConfig} {env : Environment} :
    (worker.processCommand codec (.startSession key.1 key.2 config)
        env).worker.manager.hasSession key.1 key.2 = true ↔
      worker.StartSucceeds key config env := by
  rw [manager_startSession, TranscriptionManager.hasSession_startSession]
  exact TranscriptionManager.startSession_eq_ok_iff

/-- A command that neither starts nor stops the session of a key leaves it as it
is. -/
theorem hasSession_other {worker : TranscriptionWorker δ} {key : SessionKey}
    {command : TranscriptionCommand} {env : Environment}
    (hstart : ∀ config, command ≠ .startSession key.1 key.2 config)
    (hstop : command ≠ .stopSession key.1 key.2) :
    (worker.processCommand codec command env).worker.manager.hasSession key.1 key.2 =
      worker.manager.hasSession key.1 key.2 := by
  unfold TranscriptionManager.hasSession
  cases command with
  | audio packet => exact containsKey_audio codec worker env packet
  | shutdown => rfl
  | startSession sessionId endpointId config =>
      have hkey : (TranscriptionCommand.startSession sessionId endpointId config).key ≠
          some key := by
        intro heq
        obtain rfl : (sessionId, endpointId) = key := Option.some.inj heq
        exact hstart config rfl
      simp only [HashMap.containsKey, (processCommand_of_ne codec worker env hkey).1]
  | stopSession sessionId endpointId =>
      have hkey : (TranscriptionCommand.stopSession sessionId endpointId).key ≠ some key := by
        intro heq
        obtain rfl : (sessionId, endpointId) = key := Option.some.inj heq
        exact hstop rfl
      simp only [HashMap.containsKey, (processCommand_of_ne codec worker env hkey).1]

/-- After a command other than its stop, a key has a session when it had one
before or the command is a start that succeeds. -/
theorem hasSession_step {worker : TranscriptionWorker δ} {key : SessionKey}
    {command : TranscriptionCommand} {env : Environment}
    (hstop : command ≠ .stopSession key.1 key.2) :
    (worker.processCommand codec command env).worker.manager.hasSession key.1 key.2 = true ↔
      worker.manager.hasSession key.1 key.2 = true ∨
        ∃ config, command = .startSession key.1 key.2 config ∧
          worker.StartSucceeds key config env := by
  by_cases hstart : ∃ config, command = .startSession key.1 key.2 config
  · obtain ⟨config, rfl⟩ := hstart
    rw [hasSession_start]
    constructor
    · intro hsucceeds
      exact .inr ⟨config, rfl, hsucceeds⟩
    · rintro (hlive | ⟨other, heq, hsucceeds⟩)
      · exact .inl hlive
      · obtain rfl : config = other := by simpa using heq
        exact hsucceeds
  · have hother : ∀ config, command ≠ .startSession key.1 key.2 config := by
      intro config heq
      exact hstart ⟨config, heq⟩
    rw [hasSession_other hother hstop]
    constructor
    · intro hlive
      exact .inl hlive
    · rintro (hlive | ⟨config, heq, -⟩)
      · exact hlive
      · exact absurd heq (hother config)

/-- Some start of the key among the commands finds its session live or can
create it. -/
def SomeStartSucceeds (codec : Codec δ) (worker : TranscriptionWorker δ) (key : SessionKey)
    (commands : List (TranscriptionCommand × Environment)) : Prop :=
  ∃ before config env after,
    commands = before ++ (.startSession key.1 key.2 config, env) :: after ∧
    (worker.run codec before).worker.StartSucceeds key config env

theorem not_someStartSucceeds_nil {worker : TranscriptionWorker δ} {key : SessionKey} :
    ¬ SomeStartSucceeds codec worker key [] := by
  rintro ⟨before, config, env, after, hsplit, -⟩
  simp at hsplit

theorem someStartSucceeds_cons {worker : TranscriptionWorker δ} {key : SessionKey}
    {command : TranscriptionCommand} {env : Environment}
    {rest : List (TranscriptionCommand × Environment)}
    (hrunning : rest ≠ [] → (worker.processCommand codec command env).running = true) :
    SomeStartSucceeds codec worker key ((command, env) :: rest) ↔
      (∃ config, command = .startSession key.1 key.2 config ∧
        worker.StartSucceeds key config env) ∨
      SomeStartSucceeds codec (worker.processCommand codec command env).worker key rest := by
  constructor
  · rintro ⟨before, config, met, after, hsplit, hsucceeds⟩
    cases before with
    | nil =>
        obtain ⟨hhead, -⟩ := List.cons.inj hsplit
        obtain ⟨rfl, rfl⟩ := Prod.mk.inj hhead
        exact .inl ⟨config, rfl, hsucceeds⟩
    | cons first before =>
        obtain ⟨rfl, hrest⟩ := List.cons.inj hsplit
        rw [run_cons_of_running (hrunning (by simp [hrest]))] at hsucceeds
        exact .inr ⟨before, config, met, after, hrest, hsucceeds⟩
  · rintro (⟨config, rfl, hsucceeds⟩ | ⟨before, config, met, after, hrest, hsucceeds⟩)
    · exact ⟨[], config, env, rest, rfl, hsucceeds⟩
    · refine ⟨(command, env) :: before, config, met, after, by rw [hrest]; rfl, ?_⟩
      rw [run_cons_of_running (hrunning (by simp [hrest]))]
      exact hsucceeds

/-- After commands without a stop of a key, which the worker goes through at least
until the last of them, there is a session for the key exactly when there was one
before or one of the starts succeeded. -/
theorem hasSession_run_iff {worker : TranscriptionWorker δ} {key : SessionKey}
    {commands : List (TranscriptionCommand × Environment)}
    (hstops : .stopSession key.1 key.2 ∉ commands.map Prod.fst)
    (hreaches : (worker.run codec commands.dropLast).running = true) :
    (worker.run codec commands).worker.manager.hasSession key.1 key.2 = true ↔
      worker.manager.hasSession key.1 key.2 = true ∨
        SomeStartSucceeds codec worker key commands := by
  induction commands generalizing worker with
  | nil =>
      constructor
      · intro hsession
        exact .inl hsession
      · rintro (hsession | hstart)
        · exact hsession
        · exact absurd hstart not_someStartSucceeds_nil
  | cons head rest ih =>
      obtain ⟨command, env⟩ := head
      rw [List.map_cons] at hstops
      have hstop : command ≠ .stopSession key.1 key.2 := by
        rintro rfl
        exact hstops List.mem_cons_self
      have hrest : .stopSession key.1 key.2 ∉ rest.map Prod.fst := by
        intro hmem
        exact hstops (List.mem_cons_of_mem _ hmem)
      cases rest with
      | nil =>
          have hlast : (worker.run codec [(command, env)]).worker =
              (worker.processCommand codec command env).worker := by
            simp only [run]
            split <;> rfl
          have hnone : ([] : List (TranscriptionCommand × Environment)) ≠ [] →
              (worker.processCommand codec command env).running = true := absurd rfl
          rw [hlast, hasSession_step hstop, someStartSucceeds_cons hnone]
          simp only [not_someStartSucceeds_nil, or_false]
      | cons second rest =>
          rw [List.dropLast_cons_of_ne_nil (List.cons_ne_nil second rest)] at hreaches
          cases hstep : (worker.processCommand codec command env).running with
          | false =>
              rw [run_cons_of_stopped hstep, hstep] at hreaches
              contradiction
          | true =>
              rw [run_cons_of_running hstep] at hreaches ⊢
              rw [ih hrest hreaches, hasSession_step hstop, someStartSucceeds_cons fun _ => hstep,
                or_assoc]

/-- From one of its starts on: the key has a session at the end exactly when that
start or a later one succeeds. -/
theorem hasSession_run_start_iff {worker : TranscriptionWorker δ} (key : SessionKey)
    {earlier later : List (TranscriptionCommand × Environment)}
    {config : Option TranscriptionConfig} {env : Environment}
    (hstops : .stopSession key.1 key.2 ∉ later.map Prod.fst)
    (hreaches : (worker.run codec
      (earlier ++ (.startSession key.1 key.2 config, env) :: later).dropLast).running = true) :
    (worker.run codec (earlier ++ (.startSession key.1 key.2 config, env) :: later)
        ).worker.manager.hasSession key.1 key.2 = true ↔
      SomeStartSucceeds codec (worker.run codec earlier).worker key
        ((.startSession key.1 key.2 config, env) :: later) := by
  rw [List.dropLast_append_of_ne_nil (List.cons_ne_nil _ _)] at hreaches
  have hearlier := running_of_append hreaches
  rw [run_append _ _ hearlier] at hreaches ⊢
  have hnone : .stopSession key.1 key.2 ∉
      ((TranscriptionCommand.startSession key.1 key.2 config, env) :: later).map Prod.fst := by
    rw [List.map_cons]
    intro hmem
    rcases List.mem_cons.mp hmem with hstart | hlater
    · simp at hstart
    · exact hstops hlater
  rw [hasSession_run_iff hnone hreaches]
  constructor
  · rintro (hlive | hsucceeds)
    · exact ⟨[], config, env, later, rfl, .inl hlive⟩
    · exact hsucceeds
  · intro hsucceeds
    exact .inr hsucceeds

end TranscriptionWorker
end Transcription
end MediaServer
