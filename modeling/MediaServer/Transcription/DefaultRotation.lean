import MediaServer.Foundation.Log
import MediaServer.Foundation.RoundRobin
import MediaServer.Transcription.ResultQueues
import MediaServer.Transcription.ServerRotation

/-!
# The servers of the sessions without an override

A session that is started without an override goes to the server of the manager's own
list whose turn it is.  The index of the rotation moves on with every start that gets
past the existence check, also with one that brings a configuration of its own and
takes no server of the list.  So the starts without an override take turns exactly when
the overriding starts before each of them make up whole rounds.
-/

namespace MediaServer
namespace Transcription
namespace PolledManager

open Foundation TranscriptionManager

variable {δ : Type} {codec : Codec δ} {config : TranscriptionConfig} {addresses : List String}

/-! ## Starts past the existence check -/

/-- The override of a start that gets past the existence check. -/
def startedWith (move : Move δ) : Option (Option TranscriptionConfig) :=
  match move.input with
  | .call (.startSession sessionId endpointId configOverride) _ =>
      if move.pre.manager.hasSession sessionId endpointId then none else some configOverride
  | _ => none

/-- The place in a list of servers that a start is directed to, when it uses the list. -/
def directedTo (manager : TranscriptionManager δ) (servers : Nat) : Nat :=
  manager.takeServerIndex.1 % servers

/-- The place a start without an override is directed to. -/
def defaultServer (servers : Nat) (move : Move δ) : Option Nat :=
  if startedWith move = some none then some (directedTo move.pre.manager servers) else none

/-- The places of all starts without an override, in their order. -/
def defaultServers (servers : Nat) (moves : List (Move δ)) : List Nat :=
  moves.filterMap (defaultServer servers)

/-- The number of starts with an override. -/
def overridingStarts (moves : List (Move δ)) : Nat :=
  moves.countP fun move => (startedWith move).join.isSome

/-- The starts without an override take turns on the servers, so that no server gets
two more of them than another. -/
structure KeepsRotation (servers : Nat) (moves : List (Move δ)) : Prop where
  inTurn : TakesTurns servers (defaultServers servers moves)
  balanced : ∀ first second, first < servers → second < servers →
    (defaultServers servers moves).count first ≤ (defaultServers servers moves).count second + 1

/-- Before every start without an override, the starts with one make up whole rounds. -/
def OverridesWhole (servers : Nat) (moves : List (Move δ)) : Prop :=
  ∀ earlier move later, moves = earlier ++ move :: later → startedWith move = some none →
    servers ∣ overridingStarts earlier

/-! ## The index of the rotation -/

/-- A start past the existence check moves the index on, whatever configuration it
uses; nothing else does. -/
theorem index_startSession (codec : Codec δ) {manager : TranscriptionManager δ}
    (hbackend : manager.config.backend = .simulStreaming addresses) (hservers : addresses ≠ [])
    (sessionId endpointId : UInt64) (configOverride : Option TranscriptionConfig)
    (env : Environment) :
    (manager.startSession codec sessionId endpointId configOverride env).1.config =
        manager.config ∧
      (manager.startSession codec sessionId endpointId configOverride env).1.nextServerIndex =
        if manager.hasSession sessionId endpointId then manager.nextServerIndex
        else (manager.nextServerIndex + 1) % addresses.length := by
  have htaken : manager.takeServerIndex.2.nextServerIndex =
      (manager.nextServerIndex + 1) % addresses.length := by
    simp only [takeServerIndex, hbackend, if_neg hservers]
  have hcase := startCase codec manager sessionId endpointId configOverride env
  generalize manager.startSession codec sessionId endpointId configOverride env = started
    at hcase ⊢
  cases hcase with
  | live session hlive =>
      have hhas : manager.hasSession sessionId endpointId = true :=
        (HashMap.containsKey_eq_true_iff _ _).mpr ⟨session, hlive⟩
      exact ⟨rfl, (if_pos hhas).symm⟩
  | failed reason hfree hnew =>
      have hhas : manager.hasSession sessionId endpointId = false :=
        (HashMap.containsKey_eq_false_iff _ _).mpr hfree
      rw [hhas, if_neg Bool.false_ne_true]
      exact ⟨takeServerIndex_config manager, htaken⟩
  | created session hfree hnew =>
      have hhas : manager.hasSession sessionId endpointId = false :=
        (HashMap.containsKey_eq_false_iff _ _).mpr hfree
      rw [hhas, if_neg Bool.false_ne_true]
      exact ⟨takeServerIndex_config manager, htaken⟩

/-- A call does to the manager what it does without channels and polls around it. -/
theorem manager_of_call {move : Move δ} (hfires : (machine codec).Fires move)
    {request : ManagerCall} {env : Environment} (hinput : move.input = .call request env) :
    move.post.manager = (move.pre.manager.call codec env request).1 := by
  obtain ⟨state, input, next, outputs⟩ := move
  have hstep : state.step codec input = some (next, outputs) := hfires
  dsimp only at hinput ⊢
  subst hinput
  cases request with
  | startSession sessionId endpointId configOverride =>
      simp only [step] at hstep
      split at hstep
      · obtain ⟨rfl, -⟩ := by simpa using hstep
        rfl
      · split at hstep
        · contradiction
        · obtain ⟨rfl, -⟩ := by simpa using hstep
          rfl
  | stopSession sessionId endpointId =>
      simp only [step] at hstep
      split at hstep
      · contradiction
      · obtain ⟨rfl, -⟩ := by simpa using hstep
        rfl
  | processAudio sessionId endpointId opusData =>
      obtain ⟨rfl, -⟩ := by simpa [step] using hstep
      rfl

/-- Nothing else touches the manager. -/
theorem manager_of_not_call {move : Move δ} (hfires : (machine codec).Fires move)
    (hinput : ∀ request env, move.input ≠ .call request env) :
    move.post.manager = move.pre.manager := by
  have hcase := step_of_fires hfires
  obtain ⟨state, input, next, outputs⟩ := move
  dsimp only at hcase hinput ⊢
  cases hcase with
  | kept => exact absurd rfl (hinput _ _)
  | created => exact absurd rfl (hinput _ _)
  | stopped => exact absurd rfl (hinput _ _)
  | arrived => rfl
  | polled => rfl
  | returned => rfl
  | left => rfl
  | received => rfl

/-- What a step does to the configuration and the index. -/
theorem index_step {move : Move δ} (hfires : (machine codec).Fires move)
    (hbackend : move.pre.manager.config.backend = .simulStreaming addresses)
    (hservers : addresses ≠ []) :
    move.post.manager.config = move.pre.manager.config ∧
      move.post.manager.nextServerIndex =
        if startedWith move = none then move.pre.manager.nextServerIndex
        else (move.pre.manager.nextServerIndex + 1) % addresses.length := by
  cases hinput : move.input with
  | call request env =>
      rw [manager_of_call hfires hinput]
      cases request with
      | startSession sessionId endpointId configOverride =>
          obtain ⟨hconfig, hindex⟩ :=
            index_startSession codec hbackend hservers sessionId endpointId configOverride env
          refine ⟨hconfig, hindex.trans ?_⟩
          by_cases hlive : move.pre.manager.hasSession sessionId endpointId = true <;>
            simp [startedWith, hinput, hlive]
      | stopSession sessionId endpointId =>
          exact ⟨rfl, by simp [startedWith, hinput, call, stopSession]⟩
      | processAudio sessionId endpointId opusData =>
          refine ⟨config_processAudio .., (nextServerIndex_processAudio ..).trans ?_⟩
          simp [startedWith, hinput]
  | arrive handle segment =>
      rw [manager_of_not_call hfires (by simp [hinput])]
      exact ⟨rfl, by simp [startedWith, hinput]⟩
  | poll order =>
      rw [manager_of_not_call hfires (by simp [hinput])]
      exact ⟨rfl, by simp [startedWith, hinput]⟩
  | visit =>
      rw [manager_of_not_call hfires (by simp [hinput])]
      exact ⟨rfl, by simp [startedWith, hinput]⟩

/-! ## Whole runs -/

/-- One more step: it adds a start with an override, one without, or none. -/
inductive StartAdded (servers : Nat) (moves : List (Move δ)) (move : Move δ) : Prop
  | none (hstart : startedWith move = none)
      (hservers : defaultServers servers (moves ++ [move]) = defaultServers servers moves)
      (hoverriding : overridingStarts (moves ++ [move]) = overridingStarts moves)
  | overriding (configOverride : TranscriptionConfig)
      (hstart : startedWith move = some (some configOverride))
      (hservers : defaultServers servers (moves ++ [move]) = defaultServers servers moves)
      (hoverriding : overridingStarts (moves ++ [move]) = overridingStarts moves + 1)
  | default (hstart : startedWith move = some none)
      (hservers : defaultServers servers (moves ++ [move]) =
        defaultServers servers moves ++ [directedTo move.pre.manager servers])
      (hoverriding : overridingStarts (moves ++ [move]) = overridingStarts moves)

theorem startAdded (servers : Nat) (moves : List (Move δ)) (move : Move δ) :
    StartAdded servers moves move := by
  rcases hstart : startedWith move with _ | _ | configOverride
  · exact .none hstart (by simp [defaultServers, defaultServer, hstart])
      (by simp [overridingStarts, hstart])
  · exact .default hstart (by simp [defaultServers, defaultServer, hstart])
      (by simp [overridingStarts, hstart])
  · exact .overriding configOverride hstart (by simp [defaultServers, defaultServer, hstart])
      (by simp [overridingStarts, hstart])

/-- The condition on a list of steps is the one on all but the last together with the
one on the last. -/
theorem overridesWhole_concat {servers : Nat} {moves : List (Move δ)} {move : Move δ} :
    OverridesWhole servers (moves ++ [move]) ↔ OverridesWhole servers moves ∧
      (startedWith move = some none → servers ∣ overridingStarts moves) := by
  constructor
  · intro hwhole
    constructor
    · intro earlier start later hsplit
      exact hwhole earlier start (later ++ [move]) (by rw [hsplit]; simp)
    · exact hwhole moves move [] rfl
  · rintro ⟨hwhole, hlast⟩ earlier start later hsplit hstart
    rcases Log.concat_eq_split_iff.mp hsplit with ⟨rfl, rfl, -⟩ | ⟨rest, -, hmoves⟩
    · exact hlast hstart
    · exact hwhole earlier start rest hmoves hstart

/-- What is known after some steps: the index counts all starts past the existence
check, and the places were taken in turn as long as the condition was met. -/
structure Directed (config : TranscriptionConfig) (servers : Nat) (moves : List (Move δ))
    (state : PolledManager δ) : Prop where
  config_eq : state.manager.config = config
  index : state.manager.nextServerIndex =
    ((defaultServers servers moves).length + overridingStarts moves) % servers
  inTurn_iff : TakesTurns servers (defaultServers servers moves) ↔ OverridesWhole servers moves

theorem directed_new (config : TranscriptionConfig) (servers : Nat) :
    Directed config servers [] (new config : PolledManager δ) where
  config_eq := rfl
  index := (Nat.zero_mod servers).symm
  inTurn_iff := by
    constructor
    · intro _ earlier move later hsplit
      simp at hsplit
    · intro _
      exact takesTurns_nil servers

theorem directed_step (hbackend : config.backend = .simulStreaming addresses)
    (hservers : addresses ≠ []) {moves : List (Move δ)} {move : Move δ}
    (hfires : (machine codec).Fires move)
    (hdirected : Directed config addresses.length moves move.pre) :
    Directed config addresses.length (moves ++ [move]) move.post := by
  obtain ⟨hconfig, hindex⟩ := index_step hfires
    (by rw [hdirected.config_eq, hbackend]) hservers
  have hpost : move.post.manager.config = config := hconfig.trans hdirected.config_eq
  cases startAdded addresses.length moves move with
  | none hstart hdefaults hoverriding =>
      rw [if_pos hstart] at hindex
      refine ⟨hpost, ?_, ?_⟩
      · rw [hindex, hdirected.index, hdefaults, hoverriding]
      · rw [hdefaults, overridesWhole_concat, hdirected.inTurn_iff]
        simp [hstart]
  | overriding configOverride hstart hdefaults hoverriding =>
      rw [if_neg (by simp [hstart])] at hindex
      refine ⟨hpost, ?_, ?_⟩
      · rw [hindex, hdirected.index, hdefaults, hoverriding, Nat.mod_add_mod, Nat.add_assoc]
      · rw [hdefaults, overridesWhole_concat, hdirected.inTurn_iff]
        simp [hstart]
  | default hstart hdefaults hoverriding =>
      rw [if_neg (by simp [hstart])] at hindex
      have hplace : directedTo move.pre.manager addresses.length =
          ((defaultServers addresses.length moves).length + overridingStarts moves) %
            addresses.length := by
        rw [directedTo, takeServerIndex_fst, hdirected.index, Nat.mod_mod]
      refine ⟨hpost, ?_, ?_⟩
      · rw [hindex, hdirected.index, hdefaults, hoverriding, Nat.mod_add_mod, List.length_append,
          List.length_singleton, Nat.add_right_comm]
      · rw [hdefaults, takesTurns_concat, overridesWhole_concat, hdirected.inTurn_iff, hplace,
          add_mod_eq_mod_iff_dvd]
        simp [hstart]

/-- In every run of starts, stops, audio and polls: the starts without an override take
turns on the servers, and no server gets two more of them than another, exactly when
the overriding starts before each of them make up whole rounds. -/
theorem keepsRotation_iff_overridesWhole (codec : Codec δ)
    (hbackend : config.backend = .simulStreaming addresses) (hservers : addresses ≠ [])
    {moves : List (Move δ)} {final : PolledManager δ}
    (hrun : (machine codec).Run (new config) moves final) :
    KeepsRotation addresses.length moves ↔ OverridesWhole addresses.length moves := by
  have hdirected : Directed config addresses.length moves final := by
    apply Machine.Run.history (Directed config addresses.length) _ hrun
      (directed_new config addresses.length)
    intro earlier move _ hfires hpre
    exact directed_step hbackend hservers hfires hpre
  rw [← hdirected.inTurn_iff]
  constructor
  · intro hkeeps
    exact hkeeps.inTurn
  · intro hturns
    exact ⟨hturns, fun first second hfirst hsecond => hturns.count_le hfirst hsecond⟩

/-- Starts of endpoints of session 1, some of them with an OpenAI backend of the client's
instead of a configured server. -/
def startsWithOverride (endpoints : List (UInt64 × Bool)) : List Event :=
  endpoints.map fun (endpointId, overriding) =>
    .call (.startSession 1 endpointId
      (if overriding then some (.withOpenai "key" none none) else none)) .allSucceed

theorem keepsRotation_iff_overridesWhole_twoServers :
    ∃ moves final,
      (machine .silent).exec (new (.withServers twoServers))
        (startsWithOverride [(1, false), (2, false), (3, true), (4, true), (5, false)]) =
          some (moves, final) ∧
      (KeepsRotation twoServers.length moves ↔ OverridesWhole twoServers.length moves) := by
  have hexec : ∃ moves final,
      (machine .silent).exec (new (.withServers twoServers))
        (startsWithOverride [(1, false), (2, false), (3, true), (4, true), (5, false)]) =
          some (moves, final) :=
    ⟨_, _, rfl⟩
  obtain ⟨moves, final, hexec⟩ := hexec
  exact ⟨moves, final, hexec, keepsRotation_iff_overridesWhole .silent rfl (by decide)
    (Machine.exec_run hexec)⟩

/-- With an overriding start before each start without one, both of these go to the
second of two servers. -/
theorem override_skips_server :
    ¬ ∀ (codec : Codec Unit) (config : TranscriptionConfig) (addresses : List String)
        (moves : List (Move Unit)) (final : PolledManager Unit),
      config.backend = .simulStreaming addresses → addresses ≠ [] →
      (machine codec).Run (new config) moves final → KeepsRotation addresses.length moves := by
  intro hrotates
  have hexec : ∃ moves final,
      (machine .silent).exec (new (.withServers twoServers))
        (startsWithOverride [(1, true), (2, false), (3, true), (4, false)]) =
          some (moves, final) ∧
      defaultServers twoServers.length moves = [1, 1] :=
    ⟨_, _, rfl, by decide⟩
  obtain ⟨moves, final, hexec, hplaces⟩ := hexec
  have hkeeps := hrotates .silent (.withServers twoServers) twoServers moves final rfl (by decide)
    (Machine.exec_run hexec)
  have hcount := hkeeps.balanced 1 0 (by decide) (by decide)
  rw [hplaces] at hcount
  exact absurd hcount (by decide)

end PolledManager
end Transcription
end MediaServer
