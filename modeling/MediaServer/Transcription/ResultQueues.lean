import MediaServer.Foundation.Receiver
import MediaServer.Transcription.Handles

/-!
# The result queues of the backends

Every backend has a channel for its results.  `poll_results` visits the sessions in
the order of the map, under the read lock of `sessions`, and takes from each what
waits; segments arrive at any time, also while the poll is at work.  Storing a
session and removing one need the write lock and wait for the poll.  With a session
that is stopped goes the receiving half of its channel.
-/

namespace MediaServer
namespace Transcription

open Foundation

variable {δ : Type}

/-- The manager, the channels of its backends and a poll at work. -/
structure PolledManager (δ : Type) where
  manager : TranscriptionManager δ
  /-- the result channel of the backend with a handle -/
  results : Nat → Receiver TranscriptionSegment
  /-- the handles of the backends created for a key, oldest first -/
  opened : SessionKey → List Nat
  /-- the keys a poll still has to visit, and its results so far -/
  polling : Option (List SessionKey × List PolledResult)

namespace PolledManager

open TranscriptionManager (ManagerCall)

/-- What happens next. -/
inductive Event
  /-- a call of one of the manager's operations -/
  | call (call : ManagerCall) (env : Environment)
  /-- a backend sends a result -/
  | arrive (handle : Nat) (segment : TranscriptionSegment)
  /-- a call of `poll_results`, with the order in which it will see the sessions -/
  | poll (order : List SessionKey)
  /-- the poll tries to receive from the session at hand, or returns -/
  | visit

def new (config : TranscriptionConfig) : PolledManager δ where
  manager := .new config
  results := fun _ => .empty
  opened := fun _ => []
  polling := none

/-- One step; a poll that returns puts out its results. -/
def step (codec : Codec δ) (state : PolledManager δ) :
    Event → Option (PolledManager δ × List (List PolledResult))
  | .call (.startSession sessionId endpointId config) env =>
      let key := (sessionId, endpointId)
      let manager := (state.manager.startSession codec sessionId endpointId config env).1
      if manager.created = state.manager.created then some ({ state with manager := manager }, [])
      else
        match state.polling with
        | some _ => none
        | none =>
            some ({ state with
              manager := manager
              opened := Function.update state.opened key
                (state.opened key ++ [state.manager.created]) }, [])
  | .call (.stopSession sessionId endpointId) _ =>
      match state.polling with
      | some _ => none
      | none =>
          some ({ state with
            manager := state.manager.stopSession sessionId endpointId
            results :=
              match state.manager.liveBackend (sessionId, endpointId) with
              | some backend =>
                  Function.update state.results backend.handle
                    (state.results backend.handle).close
              | none => state.results }, [])
  | .call (.processAudio sessionId endpointId opusData) env =>
      some ({ state with
        manager := (state.manager.processAudio codec sessionId endpointId opusData env).1 }, [])
  | .arrive handle segment =>
      if handle < state.manager.created then
        some ({ state with
          results := Function.update state.results handle
            ((state.results handle).send segment) }, [])
      else none
  | .poll order =>
      if state.polling.isNone ∧ order.Nodup ∧ order.toFinset = state.manager.sessions.keys then
        some ({ state with polling := some (order, []) }, [])
      else none
  | .visit =>
      match state.polling with
      | none => none
      | some ([], polled) => some ({ state with polling := none }, [polled])
      | some (key :: rest, polled) =>
          match state.manager.liveBackend key with
          | none => some ({ state with polling := some (rest, polled) }, [])
          | some backend =>
              match (state.results backend.handle).tryRecv with
              | none => some ({ state with polling := some (rest, polled) }, [])
              | some (segment, after) =>
                  some ({ state with
                    results := Function.update state.results backend.handle after
                    polling := some (key :: rest, polled ++ [(key.1, key.2, segment)]) }, [])

/-- The manager under every order of calls, arrivals and polls. -/
def machine (codec : Codec δ) : Machine (PolledManager δ) Event (List PolledResult) where
  step := step codec

/-- A step with the states around it. -/
abbrev Move (δ : Type) := Transition (PolledManager δ) Event (List PolledResult)

/-- What a step does to the channels; what it does to the sessions shows in the live
backends. -/
inductive Step (state : PolledManager δ) : Event → PolledManager δ → List (List PolledResult) → Prop
  /-- a start that creates nothing, a stop that finds nothing, or audio -/
  | kept (call : ManagerCall) (env : Environment) (manager : TranscriptionManager δ)
      (hstop : ∀ sessionId endpointId, call = .stopSession sessionId endpointId →
        state.manager.liveBackend (sessionId, endpointId) = none)
      (hlive : ∀ key, manager.liveBackend key = state.manager.liveBackend key)
      (hcreated : manager.created = state.manager.created) :
      Step state (.call call env) { state with manager := manager } []
  | created (sessionId endpointId : UInt64) (config : Option TranscriptionConfig)
      (env : Environment) (manager : TranscriptionManager δ) (backend : Backend)
      (hhandle : backend.handle = state.manager.created)
      (hfree : state.manager.liveBackend (sessionId, endpointId) = none)
      (hlive : ∀ key, manager.liveBackend key =
        if key = (sessionId, endpointId) then some backend else state.manager.liveBackend key)
      (hcreated : manager.created = state.manager.created + 1) :
      Step state (.call (.startSession sessionId endpointId config) env)
        { state with
          manager := manager
          opened := Function.update state.opened (sessionId, endpointId)
            (state.opened (sessionId, endpointId) ++ [state.manager.created]) } []
  | stopped (sessionId endpointId : UInt64) (env : Environment) (backend : Backend)
      (hbackend : state.manager.liveBackend (sessionId, endpointId) = some backend) :
      Step state (.call (.stopSession sessionId endpointId) env)
        { state with
          manager := state.manager.stopSession sessionId endpointId
          results := Function.update state.results backend.handle
            (state.results backend.handle).close } []
  | arrived (handle : Nat) (segment : TranscriptionSegment)
      (hhandle : handle < state.manager.created) :
      Step state (.arrive handle segment)
        { state with
          results := Function.update state.results handle
            ((state.results handle).send segment) } []
  | polled (order : List SessionKey) (hidle : state.polling = none) :
      Step state (.poll order) { state with polling := some (order, []) } []
  | returned (polled : List PolledResult) (hpolling : state.polling = some ([], polled)) :
      Step state .visit { state with polling := none } [polled]
  | left (key : SessionKey) (rest : List SessionKey) (polled : List PolledResult)
      (hpolling : state.polling = some (key :: rest, polled)) :
      Step state .visit { state with polling := some (rest, polled) } []
  | received (key : SessionKey) (rest : List SessionKey) (polled : List PolledResult)
      (backend : Backend) (segment : TranscriptionSegment) (after : Receiver TranscriptionSegment)
      (hpolling : state.polling = some (key :: rest, polled))
      (hbackend : state.manager.liveBackend key = some backend)
      (hrecv : (state.results backend.handle).tryRecv = some (segment, after)) :
      Step state .visit
        { state with
          results := Function.update state.results backend.handle after
          polling := some (key :: rest, polled ++ [(key.1, key.2, segment)]) } []

/-- Every step is one of these. -/
theorem step_of_fires {codec : Codec δ} {move : Move δ} (hfires : (machine codec).Fires move) :
    Step move.pre move.input move.post move.outputs := by
  obtain ⟨state, input, next, outputs⟩ := move
  have hstep : state.step codec input = some (next, outputs) := hfires
  cases input with
  | call call env =>
      cases call with
      | startSession sessionId endpointId config =>
          simp only [step] at hstep
          rcases TranscriptionManager.liveBackend_startSession codec state.manager sessionId
            endpointId config env with
            ⟨hlive, hcreated⟩ | ⟨backend, hhandle, hfree, hlive, hcreated⟩
          · rw [if_pos hcreated] at hstep
            obtain ⟨rfl, rfl⟩ := by simpa using hstep
            exact .kept _ env _ (by simp) hlive hcreated
          · rw [if_neg (by omega)] at hstep
            split at hstep
            · contradiction
            · obtain ⟨rfl, rfl⟩ := by simpa using hstep
              exact .created sessionId endpointId config env _ backend hhandle hfree hlive hcreated
      | stopSession sessionId endpointId =>
          simp only [step] at hstep
          split at hstep
          · contradiction
          · obtain ⟨rfl, rfl⟩ := by simpa using hstep
            cases hbackend : state.manager.liveBackend (sessionId, endpointId) with
            | none =>
                refine .kept _ env _ ?_ (fun key => ?_) rfl
                · rintro _ _ ⟨rfl, rfl⟩
                  exact hbackend
                · rw [TranscriptionManager.liveBackend_stopSession]
                  split
                  · rename_i hkey
                    rw [hkey, hbackend]
                  · rfl
            | some backend => exact .stopped sessionId endpointId env backend hbackend
      | processAudio sessionId endpointId opusData =>
          obtain ⟨rfl, rfl⟩ := by simpa [step] using hstep
          refine .kept _ env _ (by simp) (fun key => ?_) ?_
          · exact TranscriptionManager.liveBackend_processAudio codec state.manager sessionId
              endpointId env key opusData
          · simp
  | arrive handle segment =>
      simp only [step] at hstep
      split at hstep
      · rename_i hhandle
        obtain ⟨rfl, rfl⟩ := by simpa using hstep
        exact .arrived handle segment hhandle
      · contradiction
  | poll order =>
      simp only [step] at hstep
      split at hstep
      · rename_i hidle
        obtain ⟨rfl, rfl⟩ := by simpa using hstep
        exact .polled order (Option.isNone_iff_eq_none.mp hidle.1)
      · contradiction
  | visit =>
      simp only [step] at hstep
      split at hstep
      · contradiction
      · rename_i polled hpolling
        obtain ⟨rfl, rfl⟩ := by simpa using hstep
        exact .returned polled hpolling
      · rename_i key rest polled hpolling
        split at hstep
        · obtain ⟨rfl, rfl⟩ := by simpa using hstep
          exact .left key rest polled hpolling
        · rename_i backend hbackend
          split at hstep
          · obtain ⟨rfl, rfl⟩ := by simpa using hstep
            exact .left key rest polled hpolling
          · rename_i segment after hrecv
            obtain ⟨rfl, rfl⟩ := by simpa using hstep
            exact .received key rest polled backend segment after hpolling hbackend hrecv

/-! ## What becomes of the segments -/

/-- The segments among some results that are labelled with a key. -/
def labelled (key : SessionKey) (results : List PolledResult) : List TranscriptionSegment :=
  (results.filter fun result => (result.1, result.2.1) = key).map fun result => result.2.2

/-- The segments that past polls have returned with a label. -/
def returned (key : SessionKey) (moves : List (Move δ)) : List TranscriptionSegment :=
  labelled key (moves.flatMap (·.outputs)).flatten

/-- The segments with a label that the poll at work has taken. -/
def inProgress (state : PolledManager δ) (key : SessionKey) : List TranscriptionSegment :=
  match state.polling with
  | some (_, polled) => labelled key polled
  | none => []

/-- The segments that wait in the live session of a key. -/
def waiting (state : PolledManager δ) (key : SessionKey) : List TranscriptionSegment :=
  match state.manager.liveBackend key with
  | some backend => (state.results backend.handle).buffered
  | none => []

/-- The segment that arrives in the channel of a backend. -/
def arrivedIn (handle : Nat) (move : Move δ) : Option TranscriptionSegment :=
  match move.input with
  | .arrive found segment =>
      if found = handle ∧ (move.pre.results handle).isLive then some segment else none
  | _ => none

/-- The segments that have arrived in the channel of a backend. -/
def arrivals (handle : Nat) (moves : List (Move δ)) : List TranscriptionSegment :=
  moves.filterMap (arrivedIn handle)

/-- The segments that wait in the live session of a key when it is stopped. -/
def droppedIn (key : SessionKey) (move : Move δ) : List TranscriptionSegment :=
  match move.input with
  | .call (.stopSession sessionId endpointId) _ =>
      if (sessionId, endpointId) = key then move.pre.waiting key else []
  | _ => []

def droppedBy (key : SessionKey) (moves : List (Move δ)) : List TranscriptionSegment :=
  moves.flatMap (droppedIn key)

/-- A part of the channels of a key's sessions, session by session. -/
def collect (state : PolledManager δ)
    (part : Receiver TranscriptionSegment → List TranscriptionSegment) (key : SessionKey) :
    List TranscriptionSegment :=
  (state.opened key).flatMap fun handle => part (state.results handle)

/-- The backends and their channels fit the live sessions: the last backend created for
a key is the one of its live session, if there is one, and the channels of all others
are closed. -/
structure Wired (state : PolledManager δ) : Prop where
  issued : ∀ key, ∀ handle ∈ state.opened key, handle < state.manager.created
  nodup : ∀ key, (state.opened key).Nodup
  disjoint : ∀ first second handle, handle ∈ state.opened first → handle ∈ state.opened second →
    first = second
  live : ∀ key backend, state.manager.liveBackend key = some backend →
    ∃ earlier, state.opened key = earlier ++ [backend.handle] ∧
      (state.results backend.handle).isLive = true ∧
      ∀ handle ∈ earlier, (state.results handle).isLive = false
  free : ∀ key, state.manager.liveBackend key = none →
    ∀ handle ∈ state.opened key, (state.results handle).isLive = false
  fresh : ∀ handle, state.manager.created ≤ handle → state.results handle = .empty

theorem wired_new (config : TranscriptionConfig) : (new config : PolledManager δ).Wired := by
  constructor <;> simp [new]

section Update

variable {state : PolledManager δ} {results : Nat → Receiver TranscriptionSegment}
  {value : Receiver TranscriptionSegment} {handle : Nat}

/-- A value that is the same before and after does not show an update. -/
theorem apply_update_of_eq {β : Type} (observe : Receiver TranscriptionSegment → β)
    (hsame : observe value = observe (results handle)) (found : Nat) :
    observe (Function.update results handle value found) = observe (results found) := by
  by_cases hfound : found = handle
  · subst hfound
    rw [Function.update_self, hsame]
  · rw [Function.update_of_ne hfound]

theorem flatMap_update_of_not_mem
    (part : Receiver TranscriptionSegment → List TranscriptionSegment) {handles : List Nat}
    (hother : handle ∉ handles) :
    (handles.flatMap fun found => part (Function.update results handle value found)) =
      handles.flatMap fun found => part (results found) := by
  apply List.flatMap_congr
  intro found hmem
  rw [Function.update_of_ne]
  rintro rfl
  exact hother hmem

/-- The live session of a key is the last one, so what is added to a part of its channel
is added to the part of all. -/
theorem collect_update (hwired : state.Wired) {key : SessionKey} {backend : Backend}
    (hbackend : state.manager.liveBackend key = some backend)
    (part : Receiver TranscriptionSegment → List TranscriptionSegment)
    {added : List TranscriptionSegment}
    (hadded : part value = part (state.results backend.handle) ++ added) (found : SessionKey) :
    ((state.opened found).flatMap fun handle =>
        part (Function.update state.results backend.handle value handle)) =
      state.collect part found ++ if key = found then added else [] := by
  obtain ⟨earlier, hopened, -, -⟩ := hwired.live key backend hbackend
  by_cases hfound : key = found
  · subst hfound
    have hnodup := hwired.nodup key
    rw [hopened, List.nodup_append] at hnodup
    have hearlier : backend.handle ∉ earlier := fun hmem =>
      hnodup.2.2 _ hmem _ List.mem_cons_self rfl
    rw [collect, hopened, List.flatMap_append, List.flatMap_append,
      flatMap_update_of_not_mem part hearlier]
    simp [hadded]
  · have hother : backend.handle ∉ state.opened found := by
      intro hmem
      apply hfound
      exact hwired.disjoint key found backend.handle (by simp [hopened]) hmem
    rw [flatMap_update_of_not_mem part hother, if_neg hfound, List.append_nil, collect]

end Update

section Step

variable {codec : Codec δ} {move : Move δ}

/-- A step that creates no backend and closes no channel keeps the wiring. -/
theorem Wired.of_same {state next : PolledManager δ} (hwired : state.Wired)
    (hlive : ∀ key, next.manager.liveBackend key = state.manager.liveBackend key)
    (hcreated : next.manager.created = state.manager.created)
    (hopened : next.opened = state.opened)
    (hresults : ∀ handle, (next.results handle).isLive = (state.results handle).isLive)
    (hfresh : ∀ handle, state.manager.created ≤ handle → next.results handle = .empty) :
    next.Wired where
  issued := by
    rw [hopened, hcreated]
    exact hwired.issued
  nodup := by
    rw [hopened]
    exact hwired.nodup
  disjoint := by
    rw [hopened]
    exact hwired.disjoint
  live := by
    simp only [hlive, hopened, hresults]
    exact hwired.live
  free := by
    simp only [hlive, hopened, hresults]
    exact hwired.free
  fresh := by
    rw [hcreated]
    exact hfresh

/-- The backend of a live session was created for its key. -/
theorem Wired.lt_of_live {state : PolledManager δ} (hwired : state.Wired) {key : SessionKey}
    {backend : Backend} (hbackend : state.manager.liveBackend key = some backend) :
    backend.handle < state.manager.created := by
  obtain ⟨earlier, hopened, -, -⟩ := hwired.live key backend hbackend
  exact hwired.issued key _ (by simp [hopened])

theorem fresh_update {state : PolledManager δ} (hwired : state.Wired) {handle : Nat}
    (hissued : handle < state.manager.created) (value : Receiver TranscriptionSegment)
    (found : Nat) (hfound : state.manager.created ≤ found) :
    Function.update state.results handle value found = .empty := by
  rw [Function.update_of_ne (by omega)]
  exact hwired.fresh found hfound

/-- The handle of the next backend is none of those handed out. -/
theorem Wired.created_not_mem {state : PolledManager δ} (hwired : state.Wired)
    (key : SessionKey) : state.manager.created ∉ state.opened key := by
  intro hmem
  exact Nat.lt_irrefl _ (hwired.issued key _ hmem)

/-- A handle is added only to its own key. -/
theorem mem_opened_created {opened : SessionKey → List Nat} {key found : SessionKey}
    {added handle : Nat}
    (hmem : handle ∈ Function.update opened key (opened key ++ [added]) found) :
    handle ∈ opened found ∨ found = key ∧ handle = added := by
  by_cases hfound : found = key
  · subst hfound
    simpa using hmem
  · rw [Function.update_of_ne hfound] at hmem
    exact .inl hmem

/-- A backend is created for a key without a session. -/
theorem Wired.created {state : PolledManager δ} (hwired : state.Wired) {key : SessionKey}
    {manager : TranscriptionManager δ} {backend : Backend}
    (hhandle : backend.handle = state.manager.created)
    (hfree : state.manager.liveBackend key = none)
    (hlive : ∀ found, manager.liveBackend found =
      if found = key then some backend else state.manager.liveBackend found)
    (hcreated : manager.created = state.manager.created + 1) :
    ({ state with
      manager := manager
      opened := Function.update state.opened key
        (state.opened key ++ [state.manager.created]) } : PolledManager δ).Wired := by
  constructor
  · intro found handle hadded
    rcases mem_opened_created hadded with hold | ⟨-, rfl⟩
    · exact hcreated ▸ Nat.lt_succ_of_lt (hwired.issued found handle hold)
    · exact hcreated ▸ Nat.lt_succ_self _
  · intro found
    by_cases hfound : found = key
    · subst hfound
      have hfirst : ∀ handle ∈ state.opened found, handle ≠ state.manager.created := by
        rintro handle hold rfl
        exact hwired.created_not_mem found hold
      simpa [List.nodup_append, hwired.nodup] using hfirst
    · simpa [Function.update_of_ne hfound] using hwired.nodup found
  · intro first second handle hfirst hsecond
    rcases mem_opened_created hfirst with hold | ⟨rfl, rfl⟩
    · rcases mem_opened_created hsecond with hother | ⟨rfl, rfl⟩
      · exact hwired.disjoint first second handle hold hother
      · exact (hwired.created_not_mem first hold).elim
    · rcases mem_opened_created hsecond with hold | ⟨rfl, -⟩
      · exact (hwired.created_not_mem second hold).elim
      · rfl
  · intro found held hheld
    rw [hlive] at hheld
    split at hheld
    · rename_i hfound
      subst hfound
      obtain rfl := Option.some.inj hheld
      refine ⟨state.opened found, by simp [hhandle], ?_, hwired.free found hfree⟩
      rw [hhandle]
      exact congrArg Receiver.isLive (hwired.fresh _ (Nat.le_refl _))
    · rename_i hfound
      simpa [Function.update_of_ne hfound] using hwired.live found held hheld
  · intro found hnone
    rw [hlive] at hnone
    split at hnone
    · contradiction
    · rename_i hfound
      simpa [Function.update_of_ne hfound] using hwired.free found hnone
  · intro handle hle
    have hbefore : state.manager.created ≤ handle := by
      have hafter : manager.created ≤ handle := hle
      omega
    exact hwired.fresh handle hbefore

/-- The session of a key is stopped and its channel closed. -/
theorem Wired.stopped {state : PolledManager δ} (hwired : state.Wired)
    {sessionId endpointId : UInt64} {backend : Backend}
    (hbackend : state.manager.liveBackend (sessionId, endpointId) = some backend) :
    ({ state with
      manager := state.manager.stopSession sessionId endpointId
      results := Function.update state.results backend.handle
        (state.results backend.handle).close } : PolledManager δ).Wired := by
  obtain ⟨earlier, hopened, -, hclosed⟩ := hwired.live _ backend hbackend
  constructor
  · exact hwired.issued
  · exact hwired.nodup
  · exact hwired.disjoint
  · intro found held hheld
    rw [TranscriptionManager.liveBackend_stopSession] at hheld
    split at hheld
    · contradiction
    · rename_i hfound
      obtain ⟨before, hbefore, hlive, hothers⟩ := hwired.live found held hheld
      -- the closed channel is none of the other key's
      have hother : ∀ handle ∈ state.opened found, handle ≠ backend.handle := by
        rintro handle hmem rfl
        exact hfound (hwired.disjoint _ _ _ hmem (by simp [hopened]))
      refine ⟨before, hbefore, ?_, ?_⟩
      · show (Function.update state.results backend.handle _ held.handle).isLive = true
        rw [Function.update_of_ne (hother _ (by simp [hbefore]))]
        exact hlive
      · intro handle hmem
        show (Function.update state.results backend.handle _ handle).isLive = false
        rw [Function.update_of_ne (hother _ (by simp [hbefore, hmem]))]
        exact hothers handle hmem
  · intro found hnone handle hmem
    rw [TranscriptionManager.liveBackend_stopSession] at hnone
    show (Function.update state.results backend.handle _ handle).isLive = false
    by_cases hhandle : handle = backend.handle
    · subst hhandle
      rw [Function.update_self, Receiver.isLive_close]
    · rw [Function.update_of_ne hhandle]
      split at hnone
      · rename_i hfound
        rw [hfound, hopened, List.mem_append, List.mem_singleton] at hmem
        exact hclosed handle (hmem.resolve_right hhandle)
      · exact hwired.free found hnone handle hmem
  · exact fresh_update hwired (hwired.lt_of_live hbackend) _

theorem wired_step (hfires : (machine codec).Fires move) (hwired : move.pre.Wired) :
    move.post.Wired := by
  have hstep := step_of_fires hfires
  obtain ⟨pre, input, post, outputs⟩ := move
  dsimp only at hstep hwired ⊢
  cases hstep with
  | kept call env manager hstop hlive hcreated =>
      exact hwired.of_same hlive hcreated rfl (fun _ => rfl) hwired.fresh
  | created sessionId endpointId config env manager backend hhandle hfree hlive hcreated =>
      exact hwired.created hhandle hfree hlive hcreated
  | stopped sessionId endpointId env backend hbackend => exact hwired.stopped hbackend
  | arrived handle segment hhandle =>
      refine hwired.of_same (fun _ => rfl) rfl rfl (fun found => ?_) (fresh_update hwired hhandle _)
      exact apply_update_of_eq Receiver.isLive (Receiver.isLive_send _ _) found
  | polled order hidle =>
      exact hwired.of_same (fun _ => rfl) rfl rfl (fun _ => rfl) hwired.fresh
  | returned polled hpolling =>
      exact hwired.of_same (fun _ => rfl) rfl rfl (fun _ => rfl) hwired.fresh
  | left key rest polled hpolling =>
      exact hwired.of_same (fun _ => rfl) rfl rfl (fun _ => rfl) hwired.fresh
  | received key rest polled backend segment after hpolling hbackend hrecv =>
      obtain ⟨-, -, -, hbefore, hafter⟩ := Receiver.tryRecv_eq_some hrecv
      refine hwired.of_same (fun _ => rfl) rfl rfl (fun found => ?_)
        (fresh_update hwired (hwired.lt_of_live hbackend) _)
      exact apply_update_of_eq Receiver.isLive (hafter.trans hbefore.symm) found

@[simp] theorem labelled_nil (key : SessionKey) : labelled key [] = [] := rfl

@[simp] theorem labelled_append (key : SessionKey) (first second : List PolledResult) :
    labelled key (first ++ second) = labelled key first ++ labelled key second := by
  simp [labelled]

theorem labelled_singleton (key own : SessionKey) (segment : TranscriptionSegment) :
    labelled key [(own.1, own.2, segment)] = if own = key then [segment] else [] := by
  by_cases hkey : own = key <;> simp [labelled, hkey]

theorem returned_concat (key : SessionKey) (moves : List (Move δ)) (move : Move δ) :
    returned key (moves ++ [move]) = returned key moves ++ labelled key move.outputs.flatten := by
  simp [returned]

/-- What a step adds to the results of a key, returned or in progress, is read from the
sessions of the key. -/
theorem read_step (hfires : (machine codec).Fires move) (hwired : move.pre.Wired)
    (key : SessionKey) :
    ∃ added, labelled key move.outputs.flatten ++ move.post.inProgress key =
        move.pre.inProgress key ++ added ∧
      move.post.collect Receiver.read key = move.pre.collect Receiver.read key ++ added := by
  have hstep := step_of_fires hfires
  obtain ⟨pre, input, post, outputs⟩ := move
  dsimp only at hstep hwired ⊢
  cases hstep with
  | kept call env manager hstop hlive hcreated =>
      exact ⟨[], by simp [inProgress], by simp [collect]⟩
  | created sessionId endpointId config env manager backend hhandle hfree hlive hcreated =>
      refine ⟨[], by simp [inProgress], ?_⟩
      by_cases hkey : key = (sessionId, endpointId)
      · simp [collect, hkey, hwired.fresh]
      · simp [collect, Function.update_of_ne hkey]
  | stopped sessionId endpointId env backend hbackend =>
      refine ⟨[], by simp [inProgress], ?_⟩
      rw [List.append_nil]
      exact List.flatMap_congr fun found _ =>
        apply_update_of_eq Receiver.read (Receiver.read_close _) found
  | arrived handle segment hhandle =>
      refine ⟨[], by simp [inProgress], ?_⟩
      rw [List.append_nil]
      exact List.flatMap_congr fun found _ =>
        apply_update_of_eq Receiver.read (Receiver.read_send _ _) found
  | polled order hidle => exact ⟨[], by simp [inProgress, hidle], by simp [collect]⟩
  | returned polled hpolling => exact ⟨[], by simp [inProgress, hpolling], by simp [collect]⟩
  | left own rest polled hpolling => exact ⟨[], by simp [inProgress, hpolling], by simp [collect]⟩
  | received own rest polled backend segment after hpolling hbackend hrecv =>
      refine ⟨if own = key then [segment] else [], ?_, ?_⟩
      · simp [inProgress, hpolling, labelled_singleton]
      · obtain ⟨hread, -, -, -, -⟩ := Receiver.tryRecv_eq_some hrecv
        exact collect_update hwired hbackend Receiver.read hread key

/-- What is dropped at a stop of a key is dropped from the sessions of the key. -/
theorem dropped_step (hfires : (machine codec).Fires move) (hwired : move.pre.Wired)
    (key : SessionKey) :
    move.post.collect Receiver.dropped key =
      move.pre.collect Receiver.dropped key ++ droppedIn key move := by
  have hstep := step_of_fires hfires
  obtain ⟨pre, input, post, outputs⟩ := move
  dsimp only at hstep hwired ⊢
  cases hstep with
  | kept call env manager hstop hlive hcreated =>
      have hnone : droppedIn key
          ⟨pre, .call call env, { pre with manager := manager }, []⟩ = [] := by
        cases call with
        | stopSession sessionId endpointId =>
            simp only [droppedIn]
            split
            · rename_i hkey
              rw [waiting, ← hkey, hstop sessionId endpointId rfl]
            · rfl
        | startSession | processAudio => rfl
      rw [hnone, List.append_nil]
      rfl
  | created sessionId endpointId config env manager backend hhandle hfree hlive hcreated =>
      by_cases hkey : key = (sessionId, endpointId)
      · simp [collect, droppedIn, hkey, hwired.fresh]
      · simp [collect, droppedIn, Function.update_of_ne hkey]
  | stopped sessionId endpointId env backend hbackend =>
      obtain ⟨earlier, -, hlive, -⟩ := hwired.live _ backend hbackend
      have hdropped : (pre.results backend.handle).close.dropped =
          (pre.results backend.handle).dropped ++ (pre.results backend.handle).buffered := by
        rw [Receiver.dropped_close _ hlive, Receiver.dropped_of_isLive hlive, List.nil_append]
      refine (collect_update hwired hbackend Receiver.dropped hdropped key).trans ?_
      by_cases hkey : (sessionId, endpointId) = key
      · subst hkey
        simp [droppedIn, waiting, hbackend]
      · simp [droppedIn, hkey]
  | arrived handle segment hhandle =>
      refine (List.flatMap_congr fun found _ =>
        apply_update_of_eq Receiver.dropped (Receiver.dropped_send _ _) found).trans ?_
      simp [collect, droppedIn]
  | polled order hidle => simp [collect, droppedIn]
  | returned polled hpolling => simp [collect, droppedIn]
  | left own rest polled hpolling => simp [collect, droppedIn]
  | received own rest polled backend segment after hpolling hbackend hrecv =>
      obtain ⟨-, -, hdropped, -, -⟩ := Receiver.tryRecv_eq_some hrecv
      refine (List.flatMap_congr fun found _ =>
        apply_update_of_eq Receiver.dropped hdropped found).trans ?_
      simp [collect, droppedIn]

/-- A channel takes what arrives in it and nothing else. -/
theorem received_step (hfires : (machine codec).Fires move) (handle : Nat) :
    (move.post.results handle).received =
      (move.pre.results handle).received ++ (arrivedIn handle move).toList := by
  have hstep := step_of_fires hfires
  obtain ⟨pre, input, post, outputs⟩ := move
  dsimp only at hstep ⊢
  cases hstep with
  | kept | created | polled | returned | left => simp [arrivedIn]
  | stopped sessionId endpointId env backend hbackend =>
      refine (apply_update_of_eq Receiver.received (Receiver.received_close _) handle).trans ?_
      simp [arrivedIn]
  | arrived found segment hfound =>
      by_cases hown : found = handle
      · subst hown
        show (Function.update pre.results found _ found).received = _
        rw [Function.update_self, Receiver.received_send]
        cases hlive : (pre.results found).isLive <;> simp [arrivedIn, hlive]
      · simp [Function.update_of_ne (Ne.symm hown), arrivedIn, hown]
  | received own rest polled backend segment after hpolling hbackend hrecv =>
      have hsame := apply_update_of_eq Receiver.received (Receiver.received_tryRecv hrecv) handle
      refine hsame.trans ?_
      simp [arrivedIn]

end Step

/-- The account of a run. -/
structure Accounted (moves : List (Move δ)) (state : PolledManager δ) : Prop where
  wired : state.Wired
  read : ∀ key, returned key moves ++ state.inProgress key = state.collect Receiver.read key
  dropped : ∀ key, droppedBy key moves = state.collect Receiver.dropped key
  arrived : ∀ handle, arrivals handle moves = (state.results handle).received

theorem accounted_run {codec : Codec δ} {config : TranscriptionConfig} {moves : List (Move δ)}
    {final : PolledManager δ} (hrun : (machine codec).Run (new config) moves final) :
    Accounted moves final := by
  refine hrun.history Accounted ?_ ⟨wired_new config, ?_, ?_, ?_⟩
  · intro earlier move _ hfires hbefore
    refine ⟨wired_step hfires hbefore.wired, ?_, ?_, ?_⟩
    · intro key
      obtain ⟨added, hadded, hcollect⟩ := read_step hfires hbefore.wired key
      rw [returned_concat, List.append_assoc, hadded, ← List.append_assoc, hbefore.read, hcollect]
    · intro key
      rw [dropped_step hfires hbefore.wired, ← hbefore.dropped]
      simp [droppedBy]
    · intro handle
      rw [received_step hfires, ← hbefore.arrived]
      cases harrived : arrivedIn handle move <;> simp [arrivals, harrived]
  · intro key
    rfl
  · intro key
    rfl
  · intro handle
    rfl

/-- What waits in the live session of a key is all that waits in the sessions of the
key. -/
theorem Wired.waiting_eq {state : PolledManager δ} (hwired : state.Wired) (key : SessionKey) :
    state.waiting key = state.collect Receiver.buffered key := by
  have hclosed : ∀ handles : List Nat, (∀ handle ∈ handles, (state.results handle).isLive = false) →
      (handles.flatMap fun handle => (state.results handle).buffered) = [] := by
    intro handles hhandles
    rw [List.flatMap_eq_nil_iff]
    exact fun handle hmem => Receiver.buffered_of_not_isLive (hhandles handle hmem)
  unfold waiting collect
  cases hbackend : state.manager.liveBackend key with
  | none => exact (hclosed _ (hwired.free key hbackend)).symm
  | some backend =>
      obtain ⟨earlier, hopened, -, hearlier⟩ := hwired.live key backend hbackend
      simp [hopened, hclosed earlier hearlier]

/-- The channel of a backend is open exactly as long as its session is live. -/
theorem Wired.isLive_iff {state : PolledManager δ} (hwired : state.Wired) {key : SessionKey}
    {handle : Nat} (hmem : handle ∈ state.opened key) :
    (state.results handle).isLive = true ↔
      ∃ backend, state.manager.liveBackend key = some backend ∧ backend.handle = handle := by
  constructor
  · intro hlive
    cases hbackend : state.manager.liveBackend key with
    | none => simp [hwired.free key hbackend handle hmem] at hlive
    | some backend =>
        obtain ⟨earlier, hopened, -, hearlier⟩ := hwired.live key backend hbackend
        rw [hopened, List.mem_append, List.mem_singleton] at hmem
        rcases hmem with hold | hlast
        · simp [hearlier handle hold] at hlive
        · exact ⟨backend, rfl, hlast.symm⟩
  · rintro ⟨backend, hbackend, rfl⟩
    obtain ⟨-, -, hlive, -⟩ := hwired.live key backend hbackend
    exact hlive

/-- In every run, for every key `k`: the segments that past polls have returned with
label `k`, and those a poll at work has taken, are what was read from the sessions of
`k`, session by session; what still waits for `k` waits in its live session; what is
dropped is what waited in a session of `k` when it was stopped.  For each of these
sessions the segments that have arrived are what was read from it followed by what
waits in it, while it is live, or was dropped with it; and it is a session of no other
key. -/
theorem segments_accounted {codec : Codec δ} {config : TranscriptionConfig}
    {moves : List (Move δ)} {final : PolledManager δ}
    (hrun : (machine codec).Run (new config) moves final) (key : SessionKey) :
    returned key moves ++ final.inProgress key = final.collect Receiver.read key ∧
    final.waiting key = final.collect Receiver.buffered key ∧
    droppedBy key moves = final.collect Receiver.dropped key ∧
    (final.opened key).Nodup ∧
    ∀ handle ∈ final.opened key,
      (∀ other, handle ∈ final.opened other → other = key) ∧
      ((∃ backend, final.manager.liveBackend key = some backend ∧ backend.handle = handle) →
        arrivals handle moves = (final.results handle).read ++ (final.results handle).buffered) ∧
      ((¬ ∃ backend, final.manager.liveBackend key = some backend ∧ backend.handle = handle) →
        arrivals handle moves = (final.results handle).read ++ (final.results handle).dropped) := by
  have haccounted := accounted_run hrun
  refine ⟨haccounted.read key, haccounted.wired.waiting_eq key, haccounted.dropped key,
    haccounted.wired.nodup key, fun handle hmem => ⟨?_, ?_, ?_⟩⟩
  · intro other hother
    exact haccounted.wired.disjoint other key handle hother hmem
  · intro hbackend
    have hlive := (haccounted.wired.isLive_iff hmem).mpr hbackend
    rw [haccounted.arrived, Receiver.received, Receiver.dropped_of_isLive hlive, List.append_nil]
  · intro hnone
    have hclosed := Bool.eq_false_iff.mpr fun hlive =>
      hnone ((haccounted.wired.isLive_iff hmem).mp hlive)
    rw [haccounted.arrived, Receiver.received, Receiver.buffered_of_not_isLive hclosed,
      List.append_nil]

/-- Endpoint `(1, 2)` is started.  Of three segments that arrive, a poll returns the
first two; the third arrives after it has left the session, which is then stopped. -/
def threeArrivals : List Event :=
  [.call (.startSession 1 2 none) .allSucceed, .arrive 0 ⟨0, 500, "and"⟩, .poll [(1, 2)], .visit,
    .arrive 0 ⟨500, 900, "so"⟩, .visit, .visit, .arrive 0 ⟨900, 1200, "on"⟩, .visit,
    .call (.stopSession 1 2) .allSucceed]

theorem segments_accounted_threeArrivals :
    ∃ moves final,
      (machine Codec.silent).exec (new (.new "10.0.0.1:43007")) threeArrivals =
        some (moves, final) ∧
      returned (1, 2) moves = [⟨0, 500, "and"⟩, ⟨500, 900, "so"⟩] ∧
      returned (1, 2) moves ++ final.inProgress (1, 2) =
        final.collect Receiver.read (1, 2) := by
  have hexec : ∃ moves final,
      (machine Codec.silent).exec (new (.new "10.0.0.1:43007")) threeArrivals =
        some (moves, final) ∧
      returned (1, 2) moves = [⟨0, 500, "and"⟩, ⟨500, 900, "so"⟩] := ⟨_, _, rfl, rfl⟩
  obtain ⟨moves, final, hexec, hreturned⟩ := hexec
  exact ⟨moves, final, hexec, hreturned, (segments_accounted (Machine.exec_run hexec) (1, 2)).1⟩

/-- A segment arrives, and its session is stopped before the next poll. -/
def stoppedUnpolled : List Event :=
  [.call (.startSession 1 2 none) .allSucceed, .arrive 0 ⟨0, 500, "and"⟩,
    .call (.stopSession 1 2) .allSucceed]

/-- The segment is neither returned nor waiting, although no poll is at work. -/
theorem segment_lost_at_stop :
    ¬ ∀ (moves : List (Move Unit)) (final : PolledManager Unit) (key : SessionKey),
      (machine Codec.silent).Run (new (.new "10.0.0.1:43007")) moves final →
      final.polling = none →
      (final.opened key).flatMap (fun handle => arrivals handle moves) =
        returned key moves ++ final.waiting key := by
  intro hdelivers
  have hexec : ∃ moves final,
      (machine Codec.silent).exec (new (.new "10.0.0.1:43007")) stoppedUnpolled =
        some (moves, final) ∧ final.polling = none ∧
      (final.opened (1, 2)).flatMap (fun handle => arrivals handle moves) =
        [⟨0, 500, "and"⟩] ∧
      returned (1, 2) moves ++ final.waiting (1, 2) = [] := ⟨_, _, rfl, rfl, rfl, rfl⟩
  obtain ⟨moves, final, hexec, hidle, harrived, hnone⟩ := hexec
  have hall := hdelivers moves final (1, 2) (Machine.exec_run hexec) hidle
  rw [harrived, hnone] at hall
  contradiction

end PolledManager
end Transcription
end MediaServer
