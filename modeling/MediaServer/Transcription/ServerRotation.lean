import Mathlib.Data.Nat.ModEq
import MediaServer.Transcription.Handles

/-!
# The rotation over the configured servers

Each SimulStreaming instance serves one audio stream at a time, so no two live
sessions may share a server.  The manager hands the servers out in rotation: the
`i`-th session it creates goes to server `i mod n`, whichever sessions have been
stopped in the meantime.  Two live sessions therefore share a server exactly when
the numbers of their creations differ by a multiple of `n`, and this file shows
that a run keeps the sessions apart exactly when it creates no session while one
created a whole number of rotations earlier is still live.
-/

namespace MediaServer
namespace Transcription
namespace TranscriptionManager

open Foundation

variable {δ : Type} {codec : Codec δ} {addresses : List String}

/-- A step of the manager with the states around it. -/
abbrev ManagerMove (δ : Type) :=
  Transition (TranscriptionManager δ) (ManagerCall × Environment) SendAudio

/-- No two live sessions are connected to the same server. -/
def SeparateServers (manager : TranscriptionManager δ) : Prop :=
  ∀ first second backend other, manager.liveBackend first = some backend →
    manager.liveBackend second = some other → backend.target = other.target → first = second

/-- Every connection to a configured server succeeds. -/
def Connects (addresses : List String) (connectTimeout : Nat) (env : Environment) : Prop :=
  env.sessionDecoder = .ok () ∧
  ∀ addr ∈ addresses,
    SimulStreamingClient.connectWithTimeout env.network addr connectTimeout = .ok ()

/-- A call that starts sessions without an override only, and meets no failure. -/
def DefaultCall (config : TranscriptionConfig) (addresses : List String)
    (input : ManagerCall × Environment) : Prop :=
  ∀ sessionId endpointId configOverride,
    input.1 = .startSession sessionId endpointId configOverride →
      configOverride = none ∧ Connects addresses config.connectTimeout input.2

/-- The condition on a step: a start that finds no session of its key finds no
session either that was created a whole number of rotations ago. -/
def StartsApart (rotation : Nat) (move : ManagerMove δ) : Prop :=
  ∀ sessionId endpointId configOverride,
    move.input.1 = .startSession sessionId endpointId configOverride →
    move.pre.liveBackend (sessionId, endpointId) = none →
    ∀ key backend, move.pre.liveBackend key = some backend →
      ¬ rotation ∣ move.pre.created - backend.handle

/-- The invariant of the rotation: the next session goes to server
`created mod n`, as all sessions before it went to the servers of their turn. -/
structure Rotates (config : TranscriptionConfig) (addresses : List String)
    (manager : TranscriptionManager δ) : Prop where
  config_eq : manager.config = config
  handles : manager.HandlesDistinct
  index : manager.nextServerIndex = manager.created % addresses.length
  targets : ∀ key backend, manager.liveBackend key = some backend →
    ∃ addr, addresses[backend.handle % addresses.length]? = some addr ∧
      backend.target = .simulStreaming addr

theorem rotates_new {config : TranscriptionConfig} (addresses : List String) :
    Rotates config addresses (new config : TranscriptionManager δ) where
  config_eq := rfl
  handles := handlesDistinct_new config
  index := (Nat.zero_mod _).symm
  targets := by simp

section Step

variable {config : TranscriptionConfig} {manager : TranscriptionManager δ}
  {sessionId endpointId : UInt64} {env : Environment}

/-- A start that finds no session of its key connects it to the server whose
turn it is. -/
theorem startSession_rotates (codec : Codec δ)
    (hbackend : config.backend = .simulStreaming addresses)
    (hservers : addresses ≠ []) (hrotates : Rotates config addresses manager)
    (hconnects : Connects addresses config.connectTimeout env)
    (hfree : manager.liveBackend (sessionId, endpointId) = none) :
    ∃ addr, addresses[manager.created % addresses.length]? = some addr ∧
      (∀ key, (manager.startSession codec sessionId endpointId none env).1.liveBackend key =
        if key = (sessionId, endpointId) then
          some ⟨manager.created, .simulStreaming addr⟩
        else manager.liveBackend key) ∧
      (manager.startSession codec sessionId endpointId none env).1.created =
        manager.created + 1 ∧
      (manager.startSession codec sessionId endpointId none env).1.nextServerIndex =
        (manager.created + 1) % addresses.length ∧
      (manager.startSession codec sessionId endpointId none env).1.config = config := by
  have hpos : 0 < addresses.length := List.length_pos_of_ne_nil hservers
  have hlt : manager.nextServerIndex % addresses.length < addresses.length :=
    Nat.mod_lt _ hpos
  have hturn : manager.nextServerIndex % addresses.length =
      manager.created % addresses.length := by
    rw [hrotates.index, Nat.mod_mod]
  -- the session can be created
  have hnew : TranscriptionSession.new codec sessionId endpointId
      ((none : Option TranscriptionConfig).getD manager.config) manager.nextServerIndex
      manager.created env =
        .ok ⟨sessionId, endpointId, codec.new, ⟨manager.created,
          .simulStreaming (addresses.get ⟨manager.nextServerIndex % addresses.length, hlt⟩)⟩⟩ := by
    rw [TranscriptionSession.new_eq_ok_iff]
    refine ⟨hconnects.1, _, ?_, rfl⟩
    have hconnect := hconnects.2
      (addresses.get ⟨manager.nextServerIndex % addresses.length, hlt⟩) (List.get_mem _ _)
    simp only [TranscriptionSession.createBackend, Option.getD_none, hrotates.config_eq, hbackend,
      dif_neg hservers]
    rw [hconnect]
    rfl
  have hnone : manager.sessions.get (sessionId, endpointId) = none := by
    simpa [liveBackend] using hfree
  have hindex : manager.takeServerIndex.2.nextServerIndex =
      (manager.created + 1) % addresses.length := by
    simp only [takeServerIndex, hrotates.config_eq, hbackend, if_neg hservers, hrotates.index]
    rw [Nat.mod_add_mod]
  refine ⟨addresses.get ⟨manager.nextServerIndex % addresses.length, hlt⟩, ?_, ?_⟩
  · rw [← hturn]
    exact List.getElem?_eq_getElem hlt
  · have hcase := startCase codec manager sessionId endpointId none env
    generalize manager.startSession codec sessionId endpointId none env = started at hcase ⊢
    cases hcase with
    | live session hlive => simp [hnone] at hlive
    | failed reason _ hfailed =>
        rw [hnew] at hfailed
        contradiction
    | created session _ hcreated =>
        rw [hnew] at hcreated
        obtain rfl := Except.ok.inj hcreated
        refine ⟨?_, rfl, hindex, ?_⟩
        · intro key
          by_cases hkey : key = (sessionId, endpointId) <;> simp [liveBackend, hkey]
        · simpa using hrotates.config_eq

/-- A start that finds a session of its key changes nothing. -/
theorem startSession_of_liveBackend {backend : Backend}
    (hlive : manager.liveBackend (sessionId, endpointId) = some backend) :
    (manager.startSession codec sessionId endpointId none env).1 = manager := by
  obtain ⟨session, hsession, -⟩ := liveBackend_eq_some_iff.mp hlive
  rw [startSession_of_live codec manager sessionId endpointId env none hsession]

/-- Two servers of the rotation are the same when their turns are. -/
theorem rotation_eq_iff (hnodup : addresses.Nodup) (hservers : addresses ≠ []) {older newer : Nat}
    (hle : older ≤ newer) :
    addresses[older % addresses.length]? = addresses[newer % addresses.length]? ↔
      addresses.length ∣ newer - older := by
  have hpos : 0 < addresses.length := List.length_pos_of_ne_nil hservers
  rw [← Nat.modEq_iff_dvd' hle, Nat.ModEq]
  constructor
  · intro hsame
    exact (List.getElem?_inj (Nat.mod_lt older hpos) hnodup).mp hsame
  · intro hturn
    rw [hturn]

end Step

/-! ## One call -/

variable {config : TranscriptionConfig} {move : ManagerMove δ}

/-- What a call does to the live backends: a start of a free key adds a backend
in rotation, a stop removes one, anything else changes none. -/
theorem rotates_call (hbackend : config.backend = .simulStreaming addresses)
    (hservers : addresses ≠ []) (hfires : (calls codec).Fires move)
    (hcall : DefaultCall config addresses move.input)
    (hrotates : Rotates config addresses move.pre) :
    Rotates config addresses move.post := by
  obtain ⟨manager, ⟨request, env⟩, next, outputs⟩ := move
  have hnext : (manager.call codec env request).1 = next :=
    congrArg Prod.fst (Option.some.inj hfires)
  subst hnext
  cases request with
  | startSession sessionId endpointId configOverride =>
      obtain ⟨rfl, hconnects⟩ := hcall sessionId endpointId configOverride rfl
      dsimp only [call] at hrotates ⊢
      have hhandles := handlesDistinct_startSession hrotates.handles codec sessionId endpointId
        none env
      cases hlive : manager.liveBackend (sessionId, endpointId) with
      | some backend =>
          rw [startSession_of_liveBackend hlive]
          exact hrotates
      | none =>
          obtain ⟨addr, haddr, hbackends, hcreated, hindex, hconfig⟩ :=
            startSession_rotates codec hbackend hservers hrotates hconnects hlive
          refine ⟨hconfig, hhandles, by rw [hindex, hcreated], ?_⟩
          intro key backend hkey
          rw [hbackends] at hkey
          split at hkey
          · obtain rfl := Option.some.inj hkey
            exact ⟨addr, haddr, rfl⟩
          · exact hrotates.targets key backend hkey
  | stopSession sessionId endpointId =>
      dsimp only [call] at hrotates ⊢
      refine ⟨hrotates.config_eq, handlesDistinct_stopSession hrotates.handles _ _,
        hrotates.index, ?_⟩
      intro key backend hkey
      rw [liveBackend_stopSession] at hkey
      split at hkey
      · contradiction
      · exact hrotates.targets key backend hkey
  | processAudio sessionId endpointId opusData =>
      dsimp only [call] at hrotates ⊢
      refine ⟨?_, handlesDistinct_processAudio hrotates.handles codec _ _ _ env, ?_, ?_⟩
      · rw [config_processAudio]
        exact hrotates.config_eq
      · rw [nextServerIndex_processAudio, created_processAudio]
        exact hrotates.index
      · intro key backend hkey
        rw [liveBackend_processAudio] at hkey
        exact hrotates.targets key backend hkey

/-- A call that meets the condition keeps the sessions apart. -/
theorem separateServers_call (hbackend : config.backend = .simulStreaming addresses)
    (hservers : addresses ≠ []) (hnodup : addresses.Nodup) (hfires : (calls codec).Fires move)
    (hcall : DefaultCall config addresses move.input)
    (hrotates : Rotates config addresses move.pre)
    (hapart : StartsApart addresses.length move) (hpre : SeparateServers move.pre) :
    SeparateServers move.post := by
  obtain ⟨manager, ⟨request, env⟩, next, outputs⟩ := move
  have hnext : (manager.call codec env request).1 = next :=
    congrArg Prod.fst (Option.some.inj hfires)
  subst hnext
  intro first second backend other hfirst hsecond htarget
  cases request with
  | startSession sessionId endpointId configOverride =>
      obtain ⟨rfl, hconnects⟩ := hcall sessionId endpointId configOverride rfl
      dsimp only [call] at hrotates hfirst hsecond
      cases hlive : manager.liveBackend (sessionId, endpointId) with
      | some held =>
          rw [startSession_of_liveBackend hlive] at hfirst hsecond
          exact hpre first second backend other hfirst hsecond htarget
      | none =>
          obtain ⟨addr, haddr, hbackends, -⟩ :=
            startSession_rotates codec hbackend hservers hrotates hconnects hlive
          -- no session still live sits on the server of the new one
          have hfresh : ∀ key held, manager.liveBackend key = some held →
              held.target ≠ .simulStreaming addr := by
            intro key held hheld hsame
            obtain ⟨old, hold, htarget⟩ := hrotates.targets key held hheld
            have hissued := hrotates.handles.issued key held hheld
            have hturn : addresses[held.handle % addresses.length]? =
                addresses[manager.created % addresses.length]? := by
              rw [hold, haddr]
              rw [htarget] at hsame
              exact congrArg some (BackendTarget.simulStreaming.inj hsame)
            exact hapart sessionId endpointId none rfl hlive key held hheld
              ((rotation_eq_iff hnodup hservers hissued.le).mp hturn)
          rw [hbackends] at hfirst hsecond
          split at hfirst
          · rename_i hkey
            obtain rfl := Option.some.inj hfirst
            split at hsecond
            · rename_i hother
              rw [hkey, hother]
            · exact absurd htarget.symm (hfresh second other hsecond)
          · split at hsecond
            · obtain rfl := Option.some.inj hsecond
              exact absurd htarget (hfresh first backend hfirst)
            · exact hpre first second backend other hfirst hsecond htarget
  | stopSession sessionId endpointId =>
      dsimp only [call] at hfirst hsecond
      rw [liveBackend_stopSession] at hfirst hsecond
      split at hfirst
      · contradiction
      · split at hsecond
        · contradiction
        · exact hpre first second backend other hfirst hsecond htarget
  | processAudio sessionId endpointId opusData =>
      dsimp only [call] at hfirst hsecond
      rw [liveBackend_processAudio] at hfirst hsecond
      exact hpre first second backend other hfirst hsecond htarget

/-- A call that does not meet the condition puts two sessions on one server. -/
theorem startsApart_of_separateServers (hbackend : config.backend = .simulStreaming addresses)
    (hservers : addresses ≠ []) (hnodup : addresses.Nodup) (hfires : (calls codec).Fires move)
    (hcall : DefaultCall config addresses move.input)
    (hrotates : Rotates config addresses move.pre) (hpost : SeparateServers move.post) :
    StartsApart addresses.length move := by
  obtain ⟨manager, ⟨request, env⟩, next, outputs⟩ := move
  have hnext : (manager.call codec env request).1 = next :=
    congrArg Prod.fst (Option.some.inj hfires)
  subst hnext
  intro sessionId endpointId configOverride hrequest hfree key held hheld hdivides
  dsimp only at hrequest hfree hheld hdivides hrotates
  subst hrequest
  obtain ⟨rfl, hconnects⟩ := hcall sessionId endpointId configOverride rfl
  dsimp only [call] at hpost
  obtain ⟨addr, haddr, hbackends, -⟩ :=
    startSession_rotates codec hbackend hservers hrotates hconnects hfree
  obtain ⟨old, hold, htarget⟩ := hrotates.targets key held hheld
  have hissued := hrotates.handles.issued key held hheld
  have hturn := (rotation_eq_iff hnodup hservers hissued.le).mpr hdivides
  have hsame : old = addr := by
    rw [hold, haddr] at hturn
    exact Option.some.inj hturn
  have hkey : key ≠ (sessionId, endpointId) := by
    rintro rfl
    rw [hfree] at hheld
    contradiction
  have holder : (manager.startSession codec sessionId endpointId none env).1.liveBackend key =
      some held := by
    rw [hbackends, if_neg hkey]
    exact hheld
  have hnewer : (manager.startSession codec sessionId endpointId none env).1.liveBackend
      (sessionId, endpointId) = some ⟨manager.created, .simulStreaming addr⟩ := by
    rw [hbackends, if_pos rfl]
  exact hkey (hpost key (sessionId, endpointId) held _ holder hnewer (by rw [htarget, hsame]))

/-! ## Whole runs -/

/-- In a run of default starts on `n` distinct servers, all connections
succeeding, and of stops and audio, no two live sessions ever share a server
exactly when no session is ever created while one created a whole number of
rotations earlier is still live. -/
theorem separateServers_iff_startsApart (codec : Codec δ)
    (hbackend : config.backend = .simulStreaming addresses) (hservers : addresses ≠ [])
    (hnodup : addresses.Nodup) {moves : List (ManagerMove δ)} {final : TranscriptionManager δ}
    (hrun : (calls codec).Run (new config) moves final)
    (hcalls : ∀ move ∈ moves, DefaultCall config addresses move.input) :
    (∀ move ∈ moves, SeparateServers move.post) ↔
      ∀ move ∈ moves, StartsApart addresses.length move := by
  have hrotates : ∀ move ∈ moves, Rotates config addresses move.pre := by
    intro move hmem
    obtain ⟨before, after, rfl⟩ := List.append_of_mem hmem
    exact Machine.Run.invariant_before (Rotates config addresses)
      (fun earlier hfires hcall hpre => rotates_call hbackend hservers hfires hcall hpre) hrun
      (fun earlier hearlier => hcalls earlier (List.mem_append_left _ hearlier))
      (rotates_new addresses)
  constructor
  · intro hseparate move hmem
    exact startsApart_of_separateServers hbackend hservers hnodup (hrun.fires_of_mem hmem)
      (hcalls move hmem) (hrotates move hmem) (hseparate move hmem)
  · intro hapart move hmem
    have hstep : ∀ earlier, (calls codec).Fires earlier → earlier ∈ moves →
        SeparateServers earlier.pre → SeparateServers earlier.post := by
      intro earlier hfires hearlier hpre
      exact separateServers_call hbackend hservers hnodup hfires (hcalls earlier hearlier)
        (hrotates earlier hearlier) (hapart earlier hearlier) hpre
    have hnew : SeparateServers (new config : TranscriptionManager δ) := by
      intro first second backend other hfirst
      simp at hfirst
    have hfires := hrun.fires_of_mem hmem
    have hself := hmem
    obtain ⟨before, after, hmoves⟩ := List.append_of_mem hmem
    rw [hmoves] at hrun
    have hpre : SeparateServers move.pre :=
      Machine.Run.invariant_before SeparateServers hstep hrun
        (fun earlier hearlier => by rw [hmoves]; exact List.mem_append_left _ hearlier) hnew
    exact hstep move hfires hself hpre

theorem connects_allSucceed (addresses : List String) (connectTimeout : Nat) :
    Connects addresses connectTimeout .allSucceed :=
  ⟨rfl, fun _ _ => rfl⟩

/-- Two instances on different hosts. -/
def twoServers : List String := ["10.0.0.1:43007", "10.0.0.2:43007"]

/-- The first session is stopped before the third is started. -/
def firstStopped : List (ManagerCall × Environment) :=
  [(.startSession 1 1 none, .allSucceed), (.startSession 1 2 none, .allSucceed),
    (.stopSession 1 1, .allSucceed), (.startSession 1 3 none, .allSucceed)]

/-- The second session is stopped before the third is started. -/
def secondStopped : List (ManagerCall × Environment) :=
  [(.startSession 1 1 none, .allSucceed), (.startSession 1 2 none, .allSucceed),
    (.stopSession 1 2, .allSucceed), (.startSession 1 3 none, .allSucceed)]

theorem defaultCall_firstStopped (config : TranscriptionConfig) :
    ∀ input ∈ firstStopped, DefaultCall config twoServers input := by
  simp [firstStopped, DefaultCall, connects_allSucceed]

theorem defaultCall_secondStopped (config : TranscriptionConfig) :
    ∀ input ∈ secondStopped, DefaultCall config twoServers input := by
  simp [secondStopped, DefaultCall, connects_allSucceed]

theorem separateServers_iff_startsApart_firstStopped :
    ∃ moves final,
      (calls .silent).exec (new (.withServers twoServers)) firstStopped = some (moves, final) ∧
      ((∀ move ∈ moves, SeparateServers move.post) ↔
        ∀ move ∈ moves, StartsApart twoServers.length move) := by
  have hexec : ∃ moves final,
      (calls .silent).exec (new (.withServers twoServers)) firstStopped = some (moves, final) :=
    ⟨_, _, rfl⟩
  obtain ⟨moves, final, hexec⟩ := hexec
  refine ⟨moves, final, hexec, separateServers_iff_startsApart .silent rfl (by decide) (by decide)
    (Machine.exec_run hexec) ?_⟩
  intro move hmem
  apply defaultCall_firstStopped
  rw [← Machine.exec_inputs hexec]
  exact List.mem_map_of_mem hmem

/-- With two servers and never more than two live sessions, the third session
shares the server of the first one. -/
theorem two_live_sessions_share_server :
    ¬ ∀ (codec : Codec Unit) (config : TranscriptionConfig) (addresses : List String)
        (moves : List (ManagerMove Unit)) (final : TranscriptionManager Unit),
      config.backend = .simulStreaming addresses → addresses ≠ [] → addresses.Nodup →
      (calls codec).Run (new config) moves final →
      (∀ move ∈ moves, DefaultCall config addresses move.input) →
      (∀ move ∈ moves, move.post.activeSessionCount ≤ addresses.length) →
      ∀ move ∈ moves, SeparateServers move.post := by
  intro hseparates
  have hexec : ∃ moves final move,
      (calls .silent).exec (new (.withServers twoServers)) secondStopped = some (moves, final) ∧
      (moves.map fun move => move.post.activeSessionCount) = [1, 2, 1, 2] ∧
      moves[3]? = some move ∧
      move.post.liveBackend (1, 1) = some ⟨0, .simulStreaming "10.0.0.1:43007"⟩ ∧
      move.post.liveBackend (1, 3) = some ⟨2, .simulStreaming "10.0.0.1:43007"⟩ :=
    ⟨_, _, _, rfl, rfl, rfl, by decide, by decide⟩
  obtain ⟨moves, final, move, hexec, hcounts, hmove, hfirst, hthird⟩ := hexec
  have hcalls : ∀ move ∈ moves, DefaultCall (.withServers twoServers) twoServers move.input := by
    intro move hmem
    apply defaultCall_secondStopped
    rw [← Machine.exec_inputs hexec]
    exact List.mem_map_of_mem hmem
  have hlive : ∀ move ∈ moves, move.post.activeSessionCount ≤ twoServers.length := by
    intro move hmem
    have hcount : move.post.activeSessionCount ∈ [1, 2, 1, 2] :=
      hcounts ▸ List.mem_map_of_mem hmem
    simp only [List.mem_cons, List.not_mem_nil, or_false] at hcount
    simp only [twoServers, List.length_cons, List.length_nil]
    omega
  have hseparate := hseparates .silent (.withServers twoServers) twoServers moves final rfl (by decide)
    (by decide) (Machine.exec_run hexec) hcalls hlive move (List.mem_of_getElem? hmove)
  have hsame := hseparate (1, 1) (1, 3) _ _ hfirst hthird rfl
  exact absurd hsame (by decide)

end TranscriptionManager
end Transcription
end MediaServer
