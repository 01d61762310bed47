import Mathlib.Logic.Function.Basic
import MediaServer.Foundation.Log
import MediaServer.Transcription.Manager

/-!
# Starts and stops on several threads

`start_session` takes a lock three times: to look whether the session exists, to draw a
server index, and to store the session.  The session is created between the last two,
with no lock held, and that is where the connection is made.  `stop_session` is one
section under the write lock.  Here the sections of any number of calls interleave.

* `run_startSession`: the sections of one call with nothing between them are
  `startSession` of the manager;
* `hasSession_run`: whether a key has a session is what was last done to the key;
* `keepsSessions_iff_notOvertaken`: a stored session stays until it is stopped, and at most
  one is stored between two stops, exactly when no call of `start_session` stores a session
  after another call for the same key has stored one behind its back.
-/

namespace MediaServer
namespace Transcription

open Foundation

/-- How far a call of `start_session` has come. -/
inductive CallPhase (δ : Type)
  /-- past the existence check -/
  | checked (key : SessionKey) (configOverride : Option TranscriptionConfig)
  /-- with a server index -/
  | indexed (key : SessionKey) (configOverride : Option TranscriptionConfig) (serverIndex : Nat)
  /-- with a session of its own -/
  | created (key : SessionKey) (session : TranscriptionSession δ)

/-- The key of the call. -/
def CallPhase.key {δ : Type} : CallPhase δ → SessionKey
  | .checked key _ | .indexed key _ _ | .created key _ => key

/-- The manager and the calls of `start_session` at work on the threads `τ`. -/
structure ConcurrentManager (τ δ : Type) where
  manager : TranscriptionManager δ
  calls : τ → Option (CallPhase δ)

/-- A section of a call. -/
inductive Section (τ : Type)
  /-- `start_session` is called: the existence check -/
  | check (thread : τ) (key : SessionKey) (configOverride : Option TranscriptionConfig)
  | takeIndex (thread : τ)
  | create (thread : τ) (env : Environment)
  | store (thread : τ)
  /-- all of `stop_session` -/
  | stop (thread : τ) (key : SessionKey)

namespace ConcurrentManager

variable {τ δ : Type} [DecidableEq τ]

def new (config : TranscriptionConfig) : ConcurrentManager τ δ where
  manager := .new config
  calls := fun _ => none

/-- The call on a thread is now in the given phase, or has returned. -/
def goOn (state : ConcurrentManager τ δ) (thread : τ) (phase : Option (CallPhase δ)) :
    ConcurrentManager τ δ :=
  { state with calls := Function.update state.calls thread phase }

/-- One section; a call of `start_session` that returns puts out its result. -/
def step (codec : Codec δ) (state : ConcurrentManager τ δ) :
    Section τ → Option (ConcurrentManager τ δ × List (τ × Except String Unit))
  | .check thread key configOverride =>
      match state.calls thread with
      | some _ => none
      | none =>
          if state.manager.sessions.containsKey key then some (state, [(thread, .ok ())])
          else some (state.goOn thread (some (.checked key configOverride)), [])
  | .takeIndex thread =>
      match state.calls thread with
      | some (.checked key configOverride) =>
          let (serverIndex, manager) := state.manager.takeServerIndex
          some ({ state with manager := manager }.goOn thread
            (some (.indexed key configOverride serverIndex)), [])
      | _ => none
  | .create thread env =>
      match state.calls thread with
      | some (.indexed key configOverride serverIndex) =>
          let config := configOverride.getD state.manager.config
          match state.manager.createSession codec key.1 key.2 config serverIndex env with
          | (manager, .error reason) =>
              some ({ state with manager := manager }.goOn thread none, [(thread, .error reason)])
          | (manager, .ok session) =>
              some ({ state with manager := manager }.goOn thread
                (some (.created key session)), [])
      | _ => none
  | .store thread =>
      match state.calls thread with
      | some (.created key session) =>
          some ({ state with manager := state.manager.storeSession key session }.goOn thread none,
            [(thread, .ok ())])
      | _ => none
  | .stop thread key =>
      match state.calls thread with
      | some _ => none
      | none => some ({ state with manager := state.manager.stopSession key.1 key.2 }, [])

/-- The manager under every interleaving of the sections. -/
def machine (codec : Codec δ) :
    Machine (ConcurrentManager τ δ) (Section τ) (τ × Except String Unit) where
  step := step codec

/-- A section with the states around it. -/
abbrev SectionMove (τ δ : Type) :=
  Transition (ConcurrentManager τ δ) (Section τ) (τ × Except String Unit)

/-- The sections of one call of `start_session`, in their order and with no other section
between them, do what `startSession` does. -/
theorem run_startSession (codec : Codec δ) {state : ConcurrentManager τ δ} {thread : τ}
    (hidle : state.calls thread = none) (key : SessionKey)
    (configOverride : Option TranscriptionConfig) (env : Environment) :
    ∃ moves : List (SectionMove τ δ),
      (machine codec).Run state moves { state with
        manager := (state.manager.startSession codec key.1 key.2 configOverride env).1 } ∧
      moves.map Transition.input <+:
        [.check thread key configOverride, .takeIndex thread, .create thread env, .store thread] ∧
      moves.flatMap Transition.outputs =
        [(thread, (state.manager.startSession codec key.1 key.2 configOverride env).2)] := by
  cases hlive : state.manager.sessions.containsKey key with
  | true =>
      have hcheck : (machine codec).Fires (⟨state, .check thread key configOverride, state,
          [(thread, .ok ())]⟩ : SectionMove τ δ) := by
        simp [Machine.Fires, machine, step, hidle, hlive]
      have hstart : state.manager.startSession codec key.1 key.2 configOverride env =
          (state.manager, .ok ()) := by
        rw [TranscriptionManager.startSession, if_pos hlive]
      rw [hstart]
      exact ⟨_, .cons hcheck (.nil state), by simp, by simp⟩
  | false =>
      have hcheck : (machine codec).Fires (⟨state, .check thread key configOverride,
          state.goOn thread (some (.checked key configOverride)), []⟩ : SectionMove τ δ) := by
        simp [Machine.Fires, machine, step, hidle, hlive]
      let taken := state.manager.takeServerIndex
      let indexed : ConcurrentManager τ δ := { state with manager := taken.2 }.goOn thread
        (some (.indexed key configOverride taken.1))
      have hindex : (machine codec).Fires (⟨state.goOn thread (some (.checked key configOverride)),
          .takeIndex thread, indexed, []⟩ : SectionMove τ δ) := by
        simp [Machine.Fires, machine, step, goOn, indexed, taken]
      have hconfig : taken.2.config = state.manager.config :=
        TranscriptionManager.takeServerIndex_config state.manager
      rcases hcreate : taken.2.createSession codec key.1 key.2
        (configOverride.getD state.manager.config) taken.1 env with ⟨manager, reason | session⟩
      · have hfail : (machine codec).Fires (⟨indexed, .create thread env,
            { state with manager := manager }, [(thread, .error reason)]⟩ : SectionMove τ δ) := by
          simp [Machine.Fires, machine, step, goOn, indexed, hconfig, hcreate, hidle]
        have hstart : state.manager.startSession codec key.1 key.2 configOverride env =
            (manager, .error reason) := by
          simp [TranscriptionManager.startSession, hlive, taken, hcreate]
        rw [hstart]
        exact ⟨_, .cons hcheck (.cons hindex (.cons hfail (.nil _))), by simp, by simp⟩
      · let created : ConcurrentManager τ δ := { indexed with manager := manager }.goOn thread
          (some (.created key session))
        have hcreated : (machine codec).Fires (⟨indexed, .create thread env, created, []⟩ :
            SectionMove τ δ) := by
          simp [Machine.Fires, machine, step, goOn, indexed, created, hconfig, hcreate]
        have hstore : (machine codec).Fires (⟨created, .store thread,
            { state with manager := manager.storeSession key session }, [(thread, .ok ())]⟩ :
            SectionMove τ δ) := by
          simp [Machine.Fires, machine, step, goOn, indexed, created, hidle]
        have hstart : state.manager.startSession codec key.1 key.2 configOverride env =
            (manager.storeSession key session, .ok ()) := by
          simp [TranscriptionManager.startSession, hlive, taken, hcreate]
        rw [hstart]
        exact ⟨_, .cons hcheck (.cons hindex (.cons hcreated (.cons hstore (.nil _)))), by simp,
          by simp⟩

/-! ## What the sections do -/

/-- The thread and the key of a call that gets past the existence check. -/
def passedBy (move : SectionMove τ δ) : Option (τ × SessionKey) :=
  match move.input with
  | .check thread key _ =>
      if move.pre.manager.sessions.containsKey key then none else some (thread, key)
  | _ => none

/-- The thread and the key of a call that stores its session. -/
def storedBy (move : SectionMove τ δ) : Option (τ × SessionKey) :=
  match move.input with
  | .store thread =>
      match move.pre.calls thread with
      | some (.created key _) => some (thread, key)
      | _ => none
  | _ => none

/-- The section stores a session under the key. -/
def stores (key : SessionKey) (move : SectionMove τ δ) : Bool :=
  (storedBy move).map Prod.snd = some key

/-- The section is a stop of the key. -/
def stops (key : SessionKey) (move : SectionMove τ δ) : Bool :=
  match move.input with
  | .stop _ stopped => stopped = key
  | _ => false

/-- What a section does to a key: a session is there afterwards, or not, or as before. -/
def effect (key : SessionKey) (move : SectionMove τ δ) : Option Bool :=
  if stores key move then some true else if stops key move then some false else none

/-- What a section can do. -/
inductive SectionStep (move : SectionMove τ δ) : Prop
  | live (thread : τ) (key : SessionKey) (configOverride : Option TranscriptionConfig)
      (hinput : move.input = .check thread key configOverride)
      (hlive : move.pre.manager.sessions.containsKey key = true) (hpost : move.post = move.pre)
  | passed (thread : τ) (key : SessionKey) (configOverride : Option TranscriptionConfig)
      (hinput : move.input = .check thread key configOverride)
      (hfree : move.pre.manager.sessions.containsKey key = false)
      (hpost : move.post = move.pre.goOn thread (some (.checked key configOverride)))
  | indexed (thread : τ) (key : SessionKey) (configOverride : Option TranscriptionConfig)
      (hinput : move.input = .takeIndex thread)
      (hphase : move.pre.calls thread = some (.checked key configOverride))
      (hpost : move.post = { move.pre with manager := move.pre.manager.takeServerIndex.2 }.goOn
        thread (some (.indexed key configOverride move.pre.manager.takeServerIndex.1)))
  | failed (thread : τ) (env : Environment) (hinput : move.input = .create thread env)
      (hpost : move.post = move.pre.goOn thread none)
  | created (thread : τ) (env : Environment) (key : SessionKey)
      (configOverride : Option TranscriptionConfig) (serverIndex : Nat)
      (session : TranscriptionSession δ) (hinput : move.input = .create thread env)
      (hphase : move.pre.calls thread = some (.indexed key configOverride serverIndex))
      (hpost : move.post = { move.pre with
        manager := { move.pre.manager with created := move.pre.manager.created + 1 } }.goOn
        thread (some (.created key session)))
  | stored (thread : τ) (key : SessionKey) (session : TranscriptionSession δ)
      (hinput : move.input = .store thread)
      (hphase : move.pre.calls thread = some (.created key session))
      (hpost : move.post = { move.pre with
        manager := move.pre.manager.storeSession key session }.goOn thread none)
  | stopped (thread : τ) (key : SessionKey) (hinput : move.input = .stop thread key)
      (hpost : move.post = { move.pre with manager := move.pre.manager.stopSession key.1 key.2 })

theorem sectionStep_of_fires {codec : Codec δ} {move : SectionMove τ δ}
    (hfires : (machine codec).Fires move) : SectionStep move := by
  obtain ⟨state, input, next, outputs⟩ := move
  have hstep : state.step codec input = some (next, outputs) := hfires
  cases input with
  | check thread key configOverride =>
      simp only [step] at hstep
      split at hstep
      · contradiction
      · split at hstep
        · rename_i hlive
          obtain ⟨rfl, -⟩ := by simpa using hstep
          exact .live thread key configOverride rfl hlive rfl
        · rename_i hfree
          obtain ⟨rfl, -⟩ := by simpa using hstep
          exact .passed thread key configOverride rfl (Bool.eq_false_iff.mpr hfree) rfl
  | takeIndex thread =>
      simp only [step] at hstep
      split at hstep
      · rename_i key configOverride hphase
        obtain ⟨rfl, -⟩ := by simpa using hstep
        exact .indexed thread key configOverride rfl hphase rfl
      · contradiction
  | create thread env =>
      simp only [step] at hstep
      split at hstep
      · rename_i key configOverride serverIndex hphase
        cases hnew : TranscriptionSession.new codec key.1 key.2
            (configOverride.getD state.manager.config) serverIndex state.manager.created env with
        | error reason =>
            simp only [TranscriptionManager.createSession, hnew] at hstep
            obtain ⟨rfl, -⟩ := by simpa using hstep
            exact .failed thread env rfl rfl
        | ok session =>
            simp only [TranscriptionManager.createSession, hnew] at hstep
            obtain ⟨rfl, -⟩ := by simpa using hstep
            exact .created thread env key configOverride serverIndex session rfl hphase rfl
      · contradiction
  | store thread =>
      simp only [step] at hstep
      split at hstep
      · rename_i key session hphase
        obtain ⟨rfl, -⟩ := by simpa using hstep
        exact .stored thread key session rfl hphase rfl
      · contradiction
  | stop thread key =>
      simp only [step] at hstep
      split at hstep
      · contradiction
      · obtain ⟨rfl, -⟩ := by simpa using hstep
        exact .stopped thread key rfl rfl

omit [DecidableEq τ] in
theorem stores_of_input_ne {move : SectionMove τ δ}
    (hstore : ∀ thread, move.input ≠ .store thread) (key : SessionKey) :
    stores key move = false := by
  unfold stores storedBy
  split
  · rename_i thread hinput
    exact absurd hinput (hstore thread)
  · rfl

omit [DecidableEq τ] in
theorem stops_of_input_ne {move : SectionMove τ δ}
    (hstop : ∀ thread own, move.input ≠ .stop thread own) (key : SessionKey) :
    stops key move = false := by
  unfold stops
  split
  · rename_i thread own hinput
    exact absurd hinput (hstop thread own)
  · rfl

/-- What a section does to the sessions: nothing, or it stores one, or it removes one. -/
theorem sessions_step {codec : Codec δ} {move : SectionMove τ δ}
    (hfires : (machine codec).Fires move) (key : SessionKey) :
    (effect key move = none ∧ stops key move = false ∧
        move.post.manager.sessions.get key = move.pre.manager.sessions.get key) ∨
      (stores key move = true ∧ stops key move = false ∧
        ∃ session, move.post.manager.sessions.get key = some session) ∨
      (stores key move = false ∧ stops key move = true ∧
        move.post.manager.sessions.get key = none) := by
  have hquiet : (∀ thread, move.input ≠ .store thread) →
      (∀ thread own, move.input ≠ .stop thread own) →
      move.post.manager.sessions = move.pre.manager.sessions →
      effect key move = none ∧ stops key move = false ∧
        move.post.manager.sessions.get key = move.pre.manager.sessions.get key := by
    intro hstore hstop hsessions
    have hstores : stores key move = false := stores_of_input_ne hstore key
    have hstops : stops key move = false := stops_of_input_ne hstop key
    exact ⟨by simp [effect, hstores, hstops], hstops, by rw [hsessions]⟩
  cases sectionStep_of_fires hfires with
  | live thread checked configOverride hinput hlive hpost =>
      exact .inl (hquiet (by simp [hinput]) (by simp [hinput]) (by rw [hpost]))
  | passed thread checked configOverride hinput hfree hpost =>
      exact .inl (hquiet (by simp [hinput]) (by simp [hinput]) (by rw [hpost]; rfl))
  | indexed thread checked configOverride hinput hphase hpost =>
      exact .inl (hquiet (by simp [hinput]) (by simp [hinput]) (by rw [hpost]; simp [goOn]))
  | failed thread env hinput hpost =>
      exact .inl (hquiet (by simp [hinput]) (by simp [hinput]) (by rw [hpost]; rfl))
  | created thread env own configOverride serverIndex session hinput hphase hpost =>
      exact .inl (hquiet (by simp [hinput]) (by simp [hinput]) (by rw [hpost]; rfl))
  | stored thread own session hinput hphase hpost =>
      by_cases hkey : own = key
      · right
        left
        refine ⟨by simp [stores, storedBy, hinput, hphase, hkey], by simp [stops, hinput],
          session, ?_⟩
        rw [hpost]
        simp [goOn, TranscriptionManager.storeSession, hkey]
      · left
        have hother : key ≠ own := fun hsame => hkey hsame.symm
        refine ⟨?_, by simp [stops, hinput], ?_⟩
        · simp [effect, stores, storedBy, stops, hinput, hphase, hkey]
        · rw [hpost]
          simp [goOn, TranscriptionManager.storeSession, hother]
  | stopped thread own hinput hpost =>
      by_cases hkey : own = key
      · right
        right
        refine ⟨by simp [stores, storedBy, hinput], by simp [stops, hinput, hkey], ?_⟩
        rw [hpost]
        simp [hkey]
      · left
        have hother : key ≠ own := fun hsame => hkey hsame.symm
        refine ⟨?_, by simp [stops, hinput, hkey], ?_⟩
        · simp [effect, stores, storedBy, stops, hinput, hkey]
        · rw [hpost]
          simp [hother]

/-- What a section does to the call on a thread: a call that is there afterwards has just
got past the existence check, or was there before with the same key. -/
theorem calls_step {codec : Codec δ} {move : SectionMove τ δ}
    (hfires : (machine codec).Fires move) {thread : τ} {phase : CallPhase δ}
    (hphase : move.post.calls thread = some phase) :
    passedBy move = some (thread, phase.key) ∨
      ((∀ key, passedBy move ≠ some (thread, key)) ∧
        ∃ held, move.pre.calls thread = some held ∧ held.key = phase.key) := by
  -- a call that goes on under its key, or returns
  have hgoesOn : ∀ (own : τ) (next : Option (CallPhase δ)), passedBy move = none →
      move.post.calls = Function.update move.pre.calls own next →
      (∀ phase, next = some phase →
        ∃ held, move.pre.calls own = some held ∧ held.key = phase.key) →
      (∀ key, passedBy move ≠ some (thread, key)) ∧
        ∃ held, move.pre.calls thread = some held ∧ held.key = phase.key := by
    intro own next hnone hcalls hnext
    rw [hcalls, Function.update_apply] at hphase
    refine ⟨by simp [hnone], ?_⟩
    split at hphase
    · rename_i hsame
      rw [hsame]
      exact hnext phase hphase
    · exact ⟨phase, hphase, rfl⟩
  cases sectionStep_of_fires hfires with
  | live own key configOverride hinput hlive hpost =>
      right
      rw [hpost] at hphase
      exact ⟨by simp [passedBy, hinput, hlive], phase, hphase, rfl⟩
  | passed own key configOverride hinput hfree hpost =>
      have hpassed : passedBy move = some (own, key) := by simp [passedBy, hinput, hfree]
      rw [hpost] at hphase
      simp only [goOn, Function.update_apply] at hphase
      split at hphase
      · rename_i hsame
        obtain rfl := Option.some.inj hphase
        exact .inl (hsame ▸ hpassed)
      · rename_i hother
        right
        exact ⟨by simp [hpassed, Ne.symm hother], phase, hphase, rfl⟩
  | indexed own key configOverride hinput hheld hpost =>
      right
      apply hgoesOn own _ (by simp [passedBy, hinput]) (by rw [hpost]; rfl)
      intro next hnext
      obtain rfl := Option.some.inj hnext
      exact ⟨_, hheld, rfl⟩
  | failed own env hinput hpost =>
      exact .inr (hgoesOn own none (by simp [passedBy, hinput]) (by rw [hpost]; rfl) (by simp))
  | created own env key configOverride serverIndex session hinput hheld hpost =>
      right
      apply hgoesOn own _ (by simp [passedBy, hinput]) (by rw [hpost]; rfl)
      intro next hnext
      obtain rfl := Option.some.inj hnext
      exact ⟨_, hheld, rfl⟩
  | stored own key session hinput hheld hpost =>
      exact .inr (hgoesOn own none (by simp [passedBy, hinput]) (by rw [hpost]; rfl) (by simp))
  | stopped own key hinput hpost =>
      right
      rw [hpost] at hphase
      exact ⟨by simp [passedBy, hinput], phase, hphase, rfl⟩

/-- Whether a key has a session after a section. -/
theorem hasSession_step {codec : Codec δ} {move : SectionMove τ δ}
    (hfires : (machine codec).Fires move) (key : SessionKey) :
    move.post.manager.sessions.containsKey key =
      (effect key move).getD (move.pre.manager.sessions.containsKey key) := by
  rcases sessions_step hfires key with ⟨heffect, -, hsame⟩ | ⟨hstores, -, session, hstored⟩ |
    ⟨hstores, hstops, hnone⟩
  · rw [heffect, Option.getD_none, HashMap.containsKey, HashMap.containsKey, hsame]
  · rw [effect, if_pos hstores, HashMap.containsKey, hstored]
    rfl
  · rw [effect, hstores, if_neg Bool.false_ne_true, if_pos hstops, HashMap.containsKey, hnone]
    rfl

/-! ## Runs -/

variable {codec : Codec δ} {moves : List (SectionMove τ δ)} {start final : ConcurrentManager τ δ}

/-- Whether a key has a session at the end of a run: what was last done to it. -/
theorem hasSession_run (hrun : (machine codec).Run start moves final) (key : SessionKey) :
    final.manager.sessions.containsKey key =
      (Log.lastWrite (effect key) moves).getD (start.manager.sessions.containsKey key) := by
  apply hrun.history fun moves state => state.manager.sessions.containsKey key =
    (Log.lastWrite (effect key) moves).getD (start.manager.sessions.containsKey key)
  · intro earlier move _ hfires hbefore
    rw [hasSession_step hfires, hbefore, Log.lastWrite_concat]
    cases effect key move <;> rfl
  · rfl

/-- Every call at work got past the existence check, and its thread has made no further
call since. -/
def Underway (moves : List (SectionMove τ δ)) (state : ConcurrentManager τ δ) : Prop :=
  ∀ thread phase, state.calls thread = some phase →
    ∃ earlier check between, moves = earlier ++ check :: between ∧
      passedBy check = some (thread, phase.key) ∧
      ∀ move ∈ between, ∀ key, passedBy move ≠ some (thread, key)

theorem underway_run {config : TranscriptionConfig}
    (hrun : (machine codec).Run (new config) moves final) : Underway moves final := by
  apply hrun.history Underway
  · intro earlier move _ hfires hunderway thread phase hphase
    rcases calls_step hfires hphase with hpassed | ⟨hnone, held, hheld, hkey⟩
    · exact ⟨earlier, move, [], rfl, hpassed, by simp⟩
    · obtain ⟨before, check, between, rfl, hcheck, hbetween⟩ := hunderway thread held hheld
      refine ⟨before, check, between ++ [move], by simp, hkey ▸ hcheck, ?_⟩
      intro other hmem
      rcases List.mem_append.mp hmem with hearlier | hlast
      · exact hbetween other hearlier
      · rw [List.mem_singleton.mp hlast]
        exact hnone
  · intro thread phase hphase
    cases hphase

/-- A stored session is removed by a stop of its key only and never replaced, and between
two stops at most one session is stored for a key. -/
structure KeepsSessions (moves : List (SectionMove τ δ)) : Prop where
  kept : ∀ move ∈ moves, ∀ key session, move.pre.manager.sessions.get key = some session →
    stops key move = true ∨ move.post.manager.sessions.get key = some session
  once : ∀ earlier stretch later key, moves = earlier ++ stretch ++ later →
    (∀ move ∈ stretch, stops key move = false) → stretch.countP (stores key) ≤ 1

/-- When a call of `start_session` stores its session, no other call has stored one for the
key since its existence check, unless the key was stopped after that. -/
def NotOvertaken (moves : List (SectionMove τ δ)) : Prop :=
  ∀ earlier check between store later thread key,
    moves = earlier ++ check :: (between ++ store :: later) →
    passedBy check = some (thread, key) →
    (∀ move ∈ between, ∀ other, passedBy move ≠ some (thread, other)) →
    storedBy store = some (thread, key) → Log.lastWrite (effect key) between ≠ some true

/-- Every session is stored where there is none. -/
def StoresFree (moves : List (SectionMove τ δ)) : Prop :=
  ∀ move ∈ moves, ∀ key, stores key move = true →
    move.pre.manager.sessions.containsKey key = false

omit [DecidableEq τ] in
theorem effect_eq_some_true {key : SessionKey} {move : SectionMove τ δ} :
    effect key move = some true ↔ stores key move = true := by
  unfold effect
  cases stores key move <;> cases stops key move <;> simp

omit [DecidableEq τ] in
theorem stops_of_effect_eq_none {key : SessionKey} {move : SectionMove τ δ}
    (heffect : effect key move = none) : stops key move = false := by
  by_contra hstops
  have hstops : stops key move = true := by simpa using hstops
  rw [effect, hstops] at heffect
  split at heffect <;> simp at heffect

omit [DecidableEq τ] in
theorem stops_of_stores {key : SessionKey} {move : SectionMove τ δ}
    (hstores : stores key move = true) : stops key move = false := by
  unfold stores storedBy at hstores
  unfold stops
  split at hstores <;> simp_all

/-- A call that gets past the existence check finds no session, and leaves none. -/
theorem free_of_passed {check : SectionMove τ δ} (hfires : (machine codec).Fires check)
    {thread : τ} {key : SessionKey} (hpassed : passedBy check = some (thread, key)) :
    check.post.manager.sessions.containsKey key = false := by
  unfold passedBy at hpassed
  split at hpassed
  · rename_i own checked configOverride hinput
    split at hpassed
    · contradiction
    · rename_i hfree
      obtain ⟨rfl, rfl⟩ := Prod.mk.inj (Option.some.inj hpassed)
      have heffect : effect checked check = none := by
        simp [effect, stores, storedBy, stops, hinput]
      rw [hasSession_step hfires, heffect, Option.getD_none]
      exact Bool.eq_false_iff.mpr hfree
  · contradiction

/-- Between the existence check of a call and its last section the key is in the state
in which the other calls leave it. -/
theorem hasSession_between {earlier between later : List (SectionMove τ δ)}
    {check store : SectionMove τ δ} {thread : τ} {key : SessionKey}
    (hrun : (machine codec).Run start (earlier ++ check :: (between ++ store :: later)) final)
    (hpassed : passedBy check = some (thread, key)) :
    store.pre.manager.sessions.containsKey key = false ↔
      Log.lastWrite (effect key) between ≠ some true := by
  obtain ⟨-, hcheck, hrest⟩ := hrun.split_at
  rw [hasSession_run hrest.split_at.1, free_of_passed hcheck hpassed]
  rcases Log.lastWrite (effect key) between with _ | _ | _ <;> simp

/-- Sessions are stored where there is none exactly when no call has been overtaken. -/
theorem storesFree_iff_notOvertaken {config : TranscriptionConfig}
    (hrun : (machine codec).Run (new config) moves final) :
    StoresFree moves ↔ NotOvertaken moves := by
  constructor
  · rintro hfree earlier check between store later thread key rfl hpassed - hstored
    rw [← hasSession_between hrun hpassed]
    exact hfree store (by simp) key (by simp [stores, hstored])
  · intro hovertaken move hmem key hstores
    obtain ⟨before, later, rfl⟩ := List.append_of_mem hmem
    obtain ⟨⟨thread, own⟩, hstored, rfl⟩ : ∃ stored, storedBy move = some stored ∧
        stored.2 = key := by simpa [stores] using hstores
    -- the call that stores is at work, so it once got past the existence check
    obtain ⟨phase, hphase, hkey⟩ : ∃ phase, move.pre.calls thread = some phase ∧
        phase.key = own := by
      unfold storedBy at hstored
      split at hstored
      · split at hstored
        · rename_i key session hphase
          obtain ⟨rfl, rfl⟩ := Prod.mk.inj (Option.some.inj hstored)
          exact ⟨_, hphase, rfl⟩
        · contradiction
      · contradiction
    obtain ⟨earlier, check, between, rfl, hpassed, hbetween⟩ :=
      underway_run hrun.split_at.1 thread phase hphase
    rw [hkey] at hpassed
    rw [List.append_assoc, List.cons_append] at hrun hovertaken
    rw [hasSession_between hrun hpassed]
    exact hovertaken earlier check between move later thread own rfl hpassed hbetween hstored

/-- Where sessions are stored under free keys, a stored session stays until its stop. -/
theorem kept_of_storesFree (hrun : (machine codec).Run start moves final)
    (hfree : StoresFree moves) {move : SectionMove τ δ} (hmem : move ∈ moves) {key : SessionKey}
    {session : TranscriptionSession δ}
    (hsession : move.pre.manager.sessions.get key = some session) :
    stops key move = true ∨ move.post.manager.sessions.get key = some session := by
  rcases sessions_step (hrun.fires_of_mem hmem) key with ⟨-, -, hsame⟩ | ⟨hstores, -, -⟩ |
    ⟨-, hstops, -⟩
  · exact .inr (hsame.trans hsession)
  · have hnone := hfree move hmem key hstores
    rw [HashMap.containsKey, hsession] at hnone
    contradiction
  · exact .inl hstops

/-- Without a stop of the key, the sessions stored under it are counted by whether it has
one. -/
theorem countP_stores (hrun : (machine codec).Run start moves final) (hfree : StoresFree moves)
    {key : SessionKey} (hstops : ∀ move ∈ moves, stops key move = false) :
    moves.countP (stores key) + (start.manager.sessions.containsKey key).toNat =
      (final.manager.sessions.containsKey key).toNat := by
  induction hrun with
  | nil state => simp
  | @cons move rest last hfires hrest ih =>
      have hlater := ih (fun other hmem => hfree other (List.mem_cons_of_mem _ hmem))
        (fun other hmem => hstops other (List.mem_cons_of_mem _ hmem))
      have hkept := hstops move List.mem_cons_self
      rw [hasSession_step hfires] at hlater
      rw [List.countP_cons, ← hlater]
      cases hstores : stores key move with
      | true =>
          have hnone := hfree move List.mem_cons_self key hstores
          simp [effect, hstores, hnone]
      | false => simp [effect, hstores, hkept]

/-- Where at most one session is stored between two stops, it is stored under a free key. -/
theorem storesFree_of_once {config : TranscriptionConfig}
    (hrun : (machine codec).Run (new config) moves final)
    (honce : ∀ earlier stretch later key, moves = earlier ++ stretch ++ later →
      (∀ move ∈ stretch, stops key move = false) → stretch.countP (stores key) ≤ 1) :
    StoresFree moves := by
  intro move hmem key hstores
  by_contra hheld
  obtain ⟨before, later, rfl⟩ := List.append_of_mem hmem
  have hlast : Log.lastWrite (effect key) before = some true := by
    rw [hasSession_run hrun.split_at.1] at hheld
    rcases hwrite : Log.lastWrite (effect key) before with _ | _ | _
    · simp [hwrite, new, TranscriptionManager.new] at hheld
    · simp [hwrite] at hheld
    · rfl
  obtain ⟨earlier, store, between, rfl, hstore, hbetween⟩ := Log.split_of_lastWrite hlast
  have hfirst := effect_eq_some_true.mp hstore
  -- from the store before on, there are two stores and no stop
  have htwo := honce earlier (store :: between ++ [move]) later key (by simp) ?_
  · simp [hfirst, hstores] at htwo
  · intro other hother
    simp only [List.cons_append, List.mem_cons, List.mem_append, List.not_mem_nil,
      or_false] at hother
    rcases hother with rfl | hmiddle | rfl
    · exact stops_of_stores hfirst
    · exact stops_of_effect_eq_none (hbetween other hmiddle)
    · exact stops_of_stores hstores

/-- For every interleaving of calls of `start_session` and `stop_session`: a stored session
is removed by a stop of its key only and never replaced, and at most one is stored for a
key between two stops, exactly when no call stores its session after it was overtaken. -/
theorem keepsSessions_iff_notOvertaken (codec : Codec δ) (config : TranscriptionConfig)
    (hrun : (machine codec).Run (new config) moves final) :
    KeepsSessions moves ↔ NotOvertaken moves := by
  rw [← storesFree_iff_notOvertaken hrun]
  constructor
  · intro hkeeps
    exact storesFree_of_once hrun hkeeps.once
  · intro hfree
    constructor
    · intro move hmem key session hsession
      exact kept_of_storesFree hrun hfree hmem hsession
    · rintro earlier stretch later key rfl hstops
      obtain ⟨middle, hbefore, -⟩ := hrun.split
      obtain ⟨first, -, hstretch⟩ := hbefore.split
      have hcount := countP_stores hstretch (fun move hmem => hfree move (by simp [hmem])) hstops
      have hbound := Bool.toNat_le (middle.manager.sessions.containsKey key)
      omega

/-- Two threads start the same endpoint; the first is done before the second looks. -/
def oneAfterTheOther : List (Section Bool) :=
  [.check false (1, 1) none, .takeIndex false, .create false .allSucceed, .store false,
    .check true (1, 1) none]

/-- Two threads start the same endpoint, and both look before one of them stores. -/
def bothLookFirst : List (Section Bool) :=
  [.check false (1, 1) none, .check true (1, 1) none, .takeIndex false, .takeIndex true,
    .create false .allSucceed, .create true .allSucceed, .store false, .store true]

theorem keepsSessions_iff_notOvertaken_oneAfterTheOther :
    ∃ moves final,
      (machine .silent).exec (new (.new "10.0.0.1:43007")) oneAfterTheOther =
        some (moves, final) ∧
      (KeepsSessions moves ↔ NotOvertaken moves) := by
  have hexec : ∃ moves final,
      (machine .silent).exec (new (.new "10.0.0.1:43007")) oneAfterTheOther =
        some (moves, final) :=
    ⟨_, _, rfl⟩
  obtain ⟨moves, final, hexec⟩ := hexec
  exact ⟨moves, final, hexec, keepsSessions_iff_notOvertaken .silent _ (Machine.exec_run hexec)⟩

/-- The second of the two replaces the session of the first. -/
theorem session_replaced :
    ¬ ∀ (codec : Codec Unit) (config : TranscriptionConfig) (moves : List (SectionMove Bool Unit))
        (final : ConcurrentManager Bool Unit),
      (machine codec).Run (new config) moves final → KeepsSessions moves := by
  intro hpreserves
  have hexec : ∃ moves final,
      (machine .silent).exec (new (.new "10.0.0.1:43007")) bothLookFirst = some (moves, final) ∧
      (∀ move ∈ moves, stops (1, 1) move = false) ∧ moves.countP (stores (1, 1)) = 2 :=
    ⟨_, _, rfl, by decide, by decide⟩
  obtain ⟨moves, final, hexec, hstops, hcount⟩ := hexec
  have hkeeps := hpreserves .silent (.new "10.0.0.1:43007") moves final (Machine.exec_run hexec)
  have honce := hkeeps.once [] moves [] (1, 1) (by simp) hstops
  omega

end ConcurrentManager
end Transcription
end MediaServer
