import MediaServer.Signal.AudioRouter

/-!
# Renaming the sessions of a media worker

The ids in the signaling messages of a run are renamed, and the worker goes through the
same packets once more.  Its SSRC map, default session and enabled sessions are then the
renamed ones, and every packet is credited to the renamed session.  Session `0` is the
exception: the drain loop takes it as the mark of an unknown session and does not forward
what is credited to it.  So the two runs send the same audio, up to the names, exactly
when no packet is credited to a session that is renamed to `0` or from `0`.
-/

namespace MediaServer
namespace Signal

open Foundation Transcription

variable {rename : UInt64 → UInt64}

/-! ## Renaming -/

/-- The session of a pair under its new name. -/
def renameKey (rename : UInt64 → UInt64) (ids : SessionKey) : SessionKey := (rename ids.1, ids.2)

theorem renameKey_injective (hinjective : Function.Injective rename) :
    Function.Injective (renameKey rename) := by
  intro ids other heq
  obtain ⟨hsession, hendpoint⟩ := Prod.mk.inj heq
  exact Prod.ext (hinjective hsession) hendpoint

def renameMessage (rename : UInt64 → UInt64) :
    SignalingProtocolMessage → SignalingProtocolMessage
  | .ok sessionId endpointId => .ok (rename sessionId) endpointId
  | .err sessionId endpointId reason => .err (rename sessionId) endpointId reason
  | .offer sessionId endpointId offerSdp => .offer (rename sessionId) endpointId offerSdp
  | .answer sessionId endpointId answerSdp => .answer (rename sessionId) endpointId answerSdp
  | .leave sessionId endpointId => .leave (rename sessionId) endpointId
  | .registerSsrc ssrc sessionId endpointId => .registerSsrc ssrc (rename sessionId) endpointId
  | .enableTranscription sessionId endpointId => .enableTranscription (rename sessionId) endpointId
  | .disableTranscription sessionId endpointId =>
      .disableTranscription (rename sessionId) endpointId

/-- A packet comes from the transport of the renamed session. -/
def renameArrival (rename : UInt64 → UInt64) (arrival : RtpArrival) : RtpArrival :=
  { arrival with endpoint := arrival.endpoint.map (renameKey rename) }

def renameInput (rename : UInt64 → UInt64) : LoopInput → LoopInput
  | .poll signal =>
      .poll (signal.map fun (request, listening) => (renameMessage rename request, listening))
  | .drain => .drain
  | .read arrivals => .read (arrivals.map (renameArrival rename))

def renamePacket (rename : UInt64 → UInt64) (packet : AudioPacket) : AudioPacket :=
  { packet with sessionId := rename packet.sessionId }

theorem renamePacket_injective (hinjective : Function.Injective rename) :
    Function.Injective (renamePacket rename) := by
  intro packet other heq
  cases packet
  cases other
  simp only [renamePacket, AudioPacket.mk.injEq] at heq ⊢
  exact ⟨hinjective heq.1, heq.2⟩

def renameCommand (rename : UInt64 → UInt64) : TranscriptionCommand → TranscriptionCommand
  | .startSession sessionId endpointId config => .startSession (rename sessionId) endpointId config
  | .stopSession sessionId endpointId => .stopSession (rename sessionId) endpointId
  | .audio packet => .audio (renamePacket rename packet)
  | .shutdown => .shutdown

/-- The gateway taps the same packets under any name. -/
theorem tapAudio_renameArrival (arrival : RtpArrival) :
    tapAudio (renameArrival rename arrival) = tapAudio arrival := by
  obtain ⟨endpoint, packet⟩ := arrival
  cases endpoint <;> rfl

/-! ## The extractor -/

/-- The second extractor is the first with its sessions renamed. -/
structure RenamedExtractor (rename : UInt64 → UInt64) (extractor other : RtpAudioExtractor) :
    Prop where
  ssrcMap : ∀ ssrc, other.ssrcMap.get ssrc = (extractor.ssrcMap.get ssrc).map (renameKey rename)
  defaultSession : other.defaultSession = extractor.defaultSession.map (renameKey rename)
  enabled : ∀ sessionId endpointId, other.isTranscriptionEnabled (rename sessionId) endpointId =
    extractor.isTranscriptionEnabled sessionId endpointId

theorem renamedExtractor_new (rename : UInt64 → UInt64) :
    RenamedExtractor rename .new .new where
  ssrcMap := by simp
  defaultSession := by simp
  enabled := by simp

variable {extractor other : RtpAudioExtractor}

/-- A packet is credited to the renamed endpoint. -/
theorem RenamedExtractor.label_eq (hrenamed : RenamedExtractor rename extractor other)
    (ssrc : UInt32) : label other ssrc = (label extractor ssrc).map (renameKey rename) := by
  unfold label
  rw [hrenamed.ssrcMap, hrenamed.defaultSession]
  cases extractor.ssrcMap.get ssrc <;> simp

/-- A message and its renamed form keep the extractors apart by the names only. -/
theorem RenamedExtractor.updateExtractor (hinjective : Function.Injective rename)
    (hrenamed : RenamedExtractor rename extractor other) (request : SignalingProtocolMessage) :
    RenamedExtractor rename (updateExtractor extractor request)
      (updateExtractor other (renameMessage rename request)) := by
  have hkeys : ∀ ids key : SessionKey, renameKey rename ids = renameKey rename key ↔ ids = key :=
    fun ids key => (renameKey_injective hinjective).eq_iff
  cases request with
  | ok _ _ | err _ _ _ | offer _ _ _ | answer _ _ _ | leave _ _ => exact hrenamed
  | registerSsrc registered sessionId endpointId =>
      refine ⟨?_, hrenamed.defaultSession, hrenamed.enabled⟩
      intro ssrc
      by_cases hssrc : ssrc = registered
      · simp [Signal.updateExtractor, renameMessage, renameKey, hssrc]
      · simp [Signal.updateExtractor, renameMessage, hssrc, hrenamed.ssrcMap]
  | enableTranscription sessionId endpointId =>
      refine ⟨hrenamed.ssrcMap, rfl, ?_⟩
      intro session endpoint
      have hsame := hkeys (session, endpoint) (sessionId, endpointId)
      simp only [renameKey] at hsame
      simp only [Signal.updateExtractor, renameMessage,
        RtpAudioExtractor.isTranscriptionEnabled_enable, hrenamed.enabled, hsame]
  | disableTranscription sessionId endpointId =>
      refine ⟨hrenamed.ssrcMap, hrenamed.defaultSession, ?_⟩
      intro session endpoint
      have hsame := hkeys (session, endpoint) (sessionId, endpointId)
      simp only [renameKey] at hsame
      simp only [Signal.updateExtractor, renameMessage,
        RtpAudioExtractor.isTranscriptionEnabled_disable, hrenamed.enabled, hsame]

/-- A drained packet keeps the extractors apart by the names only. -/
theorem RenamedExtractor.forwardAudio (hrenamed : RenamedExtractor rename extractor other)
    (info : AudioPacketInfo) :
    RenamedExtractor rename (forwardAudio extractor info).1 (forwardAudio other info).1 where
  ssrcMap := by
    intro ssrc
    rw [ssrcMap_forwardAudio, ssrcMap_forwardAudio]
    split
    · exact hrenamed.label_eq ssrc
    · exact hrenamed.ssrcMap ssrc
  defaultSession := by
    rw [defaultSession_forwardAudio, defaultSession_forwardAudio]
    exact hrenamed.defaultSession
  enabled := by
    intro sessionId endpointId
    rw [isTranscriptionEnabled_forwardAudio, isTranscriptionEnabled_forwardAudio]
    exact hrenamed.enabled sessionId endpointId

/-! ## The loop -/

variable {σ : Type} {acceptOffer : AcceptOffer σ}

/-- Two workers that differ in the names of their sessions, and perhaps in their server
states. -/
structure RenamedWorker (rename : UInt64 → UInt64) (worker other : MediaWorker σ) : Prop where
  audioExtractor : RenamedExtractor rename worker.audioExtractor other.audioExtractor
  sfuAudio : other.sfuAudio = worker.sfuAudio
  transcribing : other.transcribing = worker.transcribing
  point : other.point = worker.point

/-- The messages whose handler sends a reply. -/
def isReplied : SignalingProtocolMessage → Bool
  | .registerSsrc _ _ _ | .enableTranscription _ _ | .disableTranscription _ _ => false
  | _ => true

theorem isReplied_renameMessage (request : SignalingProtocolMessage) :
    isReplied (renameMessage rename request) = isReplied request := by
  cases request <;> rfl

/-- Where a message leaves the loop depends on its kind only. -/
theorem handle_point (worker : MediaWorker σ) (request : SignalingProtocolMessage)
    (listening : Bool) :
    (worker.handle acceptOffer request listening).1.point =
      if isReplied request && !listening then .signaling else .draining := by
  cases request <;> cases listening <;> rfl

/-- Every step is answered by the other worker on the renamed input. -/
theorem renamedWorker_step (hinjective : Function.Injective rename) (move : LoopMove σ)
    (worker : MediaWorker σ) (hfires : (MediaWorker.loop acceptOffer).Fires move)
    (hrenamed : RenamedWorker rename move.pre worker) :
    ∃ next outputs, (MediaWorker.loop acceptOffer).Fires
        ⟨worker, renameInput rename move.input, next, outputs⟩ ∧
      RenamedWorker rename move.post next := by
  obtain ⟨state, input, next, outputs⟩ := move
  obtain ⟨hextractor, hqueue, htranscribing, hpoint⟩ := hrenamed
  dsimp only at hextractor hqueue htranscribing hpoint
  have hstep : state.LoopStep acceptOffer input next outputs :=
    MediaWorker.loopStep_of_step hfires
  cases hstep with
  | idle hat =>
      refine ⟨{ worker with point := .draining }, [], ?_, hextractor, hqueue, htranscribing, rfl⟩
      simp [Machine.Fires, MediaWorker.loop, MediaWorker.step, renameInput, hpoint, hat]
  | signal hat request listening =>
      refine ⟨(worker.handle acceptOffer (renameMessage rename request) listening).1,
        (worker.handle acceptOffer (renameMessage rename request) listening).2, ?_, ?_⟩
      · simp only [Machine.Fires, MediaWorker.loop, MediaWorker.step, renameInput, Option.map_some,
          hpoint, hat, if_true]
      · obtain ⟨hrest, hon⟩ := @handle_sfuAudio σ acceptOffer state request listening
        obtain ⟨hotherRest, hotherOn⟩ :=
          @handle_sfuAudio σ acceptOffer worker (renameMessage rename request) listening
        constructor
        · rw [handle_audioExtractor, handle_audioExtractor]
          exact hextractor.updateExtractor hinjective request
        · rw [hrest, hotherRest, hqueue]
        · rw [hon, hotherOn, htranscribing]
        · rw [handle_point, handle_point, isReplied_renameMessage]
  | forward hat hon info rest hrest =>
      refine ⟨{ worker with
        audioExtractor := (Signal.forwardAudio worker.audioExtractor info).1
        sfuAudio := rest }, (Signal.forwardAudio worker.audioExtractor info).2.toList.map .sent,
        ?_, hextractor.forwardAudio info, rfl, htranscribing, hpoint⟩
      simp only [Machine.Fires, MediaWorker.loop, MediaWorker.step, renameInput, hpoint, hat,
        htranscribing, hon, hqueue, hrest, if_true]
  | drained hat hempty =>
      refine ⟨{ worker with point := .reading }, [], ?_, hextractor, hqueue, htranscribing, rfl⟩
      rcases hempty with hoff | hrest
      · simp [Machine.Fires, MediaWorker.loop, MediaWorker.step, renameInput, hpoint, hat,
          htranscribing, hoff]
      · simp [Machine.Fires, MediaWorker.loop, MediaWorker.step, renameInput, hpoint, hat,
          hqueue, hrest]
  | arrived hat arrivals =>
      refine ⟨{ worker with
        sfuAudio := worker.sfuAudio ++
          if worker.transcribing then (arrivals.map (renameArrival rename)).filterMap tapAudio
          else []
        point := .signaling }, [], ?_, hextractor, ?_, htranscribing, rfl⟩
      · simp [Machine.Fires, MediaWorker.loop, MediaWorker.step, renameInput, hpoint, hat]
      · simp only [hqueue, htranscribing, List.filterMap_map, Function.comp_def,
          tapAudio_renameArrival]

/-! ## What is sent -/

/-- The packet that a step drains, under the endpoint it is credited to; whether it is
forwarded is another matter. -/
def creditedPacket (move : LoopMove σ) : Option AudioPacket :=
  (drainedPacket move).bind fun info =>
    (label move.pre.audioExtractor info.ssrc).map fun ids => audioPacket ids info

/-- A credited packet is forwarded unless its session is the marker. -/
theorem sentCommands_eq (move : LoopMove σ) (hfires : (MediaWorker.loop acceptOffer).Fires move) :
    sentCommands move.outputs =
      ((creditedPacket move).toList.filter fun packet => packet.sessionId ≠ 0).map
        .audio := by
  rw [fires_sentCommands hfires]
  unfold creditedPacket drainedPacket
  cases hevent : routerEvent move with
  | quiet => rfl
  | handled request => rfl
  | drained info =>
      simp only [routerStep, command_forwardAudio, Option.bind_some]
      cases label move.pre.audioExtractor info.ssrc with
      | none => rfl
      | some ids => by_cases hids : ids.1 = 0 <;> simp [audioPacket, hids]

/-- What a run sends. -/
theorem sentCommands_run {start final : MediaWorker σ} {moves : List (LoopMove σ)}
    (hrun : (MediaWorker.loop acceptOffer).Run start moves final) :
    moves.flatMap (fun move => sentCommands move.outputs) =
      ((moves.filterMap creditedPacket).filter fun packet => packet.sessionId ≠ 0).map
        .audio := by
  induction hrun with
  | nil state => rfl
  | @cons move moves final hfires hrest ih =>
      rw [List.flatMap_cons, ih, sentCommands_eq move hfires]
      cases hcredited : creditedPacket move with
      | none => simp [hcredited]
      | some packet => by_cases hzero : packet.sessionId = 0 <;> simp [hcredited, hzero]

/-- The other worker drains the same packets and credits them to the renamed sessions. -/
theorem creditedPacket_rename {move other : LoopMove σ}
    (hrenamed : RenamedWorker rename move.pre other.pre)
    (hinput : other.input = renameInput rename move.input) :
    creditedPacket other = (creditedPacket move).map (renamePacket rename) := by
  have hdrained : drainedPacket other = drainedPacket move := by
    unfold drainedPacket routerEvent
    rw [hinput, hrenamed.transcribing, hrenamed.sfuAudio]
    cases move.input with
    | poll signal => rcases signal with _ | ⟨request, listening⟩ <;> rfl
    | drain => rfl
    | read arrivals => rfl
  unfold creditedPacket
  rw [hdrained]
  cases drainedPacket move with
  | none => rfl
  | some info =>
      simp only [Option.bind_some, hrenamed.audioExtractor.label_eq]
      cases label move.pre.audioExtractor info.ssrc <;> rfl

/-- The run of a worker on the renamed inputs: it credits the packets to the renamed
sessions. -/
theorem exists_renamed_run (hinjective : Function.Injective rename) {start final : MediaWorker σ}
    {moves : List (LoopMove σ)} (hrun : (MediaWorker.loop acceptOffer).Run start moves final)
    {state : MediaWorker σ} (hstart : RenamedWorker rename start state) :
    ∃ others last, (MediaWorker.loop acceptOffer).Run state others last ∧
      others.map Transition.input = moves.map (fun move => renameInput rename move.input) ∧
      others.filterMap creditedPacket =
        (moves.filterMap creditedPacket).map (renamePacket rename) := by
  obtain ⟨others, last, hothers, -, hinputs, hpairs⟩ :=
    hrun.mirror (renameInput rename) (renamedWorker_step hinjective) hstart
  refine ⟨others, last, hothers, hinputs, ?_⟩
  clear hrun hothers hinputs
  induction hpairs with
  | nil => rfl
  | cons hpair _ ih =>
      rw [List.filterMap_cons, List.filterMap_cons, creditedPacket_rename hpair.1 hpair.2, ih]
      cases creditedPacket _ <;> rfl

/-- A test commutes with a renaming on a list when it does on each of its elements. -/
theorem filter_map_eq_iff {α : Type*} {f : α → α} (hinjective : Function.Injective f)
    (test : α → Bool) (elements : List α) :
    (elements.map f).filter test = (elements.filter test).map f ↔
      ∀ element ∈ elements, test (f element) = test element := by
  rw [List.filter_map, (List.map_injective_iff.mpr hinjective).eq_iff]
  constructor
  · intro hsame element hmem
    have hiff : element ∈ elements.filter (test ∘ f) ↔ element ∈ elements.filter test := by
      rw [hsame]
    rw [List.mem_filter, List.mem_filter] at hiff
    exact Bool.eq_iff_iff.mpr (by simpa [hmem] using hiff)
  · intro hsame
    exact List.filter_congr hsame

/-- For every run of a media worker and every injective renaming of the sessions: the run
with the ids in its messages renamed, which is determined by its inputs, sends the same
audio commands with their sessions renamed exactly when every packet is credited to a
session that is `0` under both its names or under neither. -/
theorem sentCommands_renamed_iff (acceptOffer : AcceptOffer σ) (serverStates : σ)
    (transcribing : Bool) (hinjective : Function.Injective rename) {final : MediaWorker σ}
    {moves : List (LoopMove σ)}
    (hrun : (MediaWorker.loop acceptOffer).Run (.new serverStates transcribing) moves final) :
    ∃ others last,
      (MediaWorker.loop acceptOffer).Run (.new serverStates transcribing) others last ∧
      others.map Transition.input = moves.map (fun move => renameInput rename move.input) ∧
      (others.flatMap (fun move => sentCommands move.outputs) =
          (moves.flatMap fun move => sentCommands move.outputs).map (renameCommand rename) ↔
        ∀ packet ∈ moves.filterMap creditedPacket,
          (rename packet.sessionId = 0 ↔ packet.sessionId = 0)) := by
  have hnew : RenamedWorker rename (MediaWorker.new serverStates transcribing)
      (MediaWorker.new serverStates transcribing) :=
    ⟨renamedExtractor_new rename, rfl, rfl, rfl⟩
  obtain ⟨others, last, hothers, hinputs, hcredited⟩ := exists_renamed_run hinjective hrun hnew
  refine ⟨others, last, hothers, hinputs, ?_⟩
  have haudio : Function.Injective TranscriptionCommand.audio :=
    fun _ _ heq => TranscriptionCommand.audio.inj heq
  have hcommands : renameCommand rename ∘ TranscriptionCommand.audio =
      TranscriptionCommand.audio ∘ renamePacket rename := rfl
  rw [sentCommands_run hothers, sentCommands_run hrun, hcredited, List.map_map, hcommands,
    ← List.map_map, (List.map_injective_iff.mpr haudio).eq_iff,
    filter_map_eq_iff (renamePacket_injective hinjective)]
  apply forall₂_congr
  intro packet _
  exact decide_eq_decide.trans not_iff_not

/-- An endpoint of the session is enabled, and then heard. -/
def enabledThenHeard (sessionId : UInt64) : List LoopInput :=
  [.poll (some (.enableTranscription sessionId 5, true)), .drain,
    .read [⟨some (sessionId, 5), ⟨7, 960, 1, 111, [42]⟩⟩], .poll none, .drain]

/-- When sessions `2` and `3` change names, what is sent for `2` is sent for `3`. -/
theorem sentCommands_renamed_iff_swapped :
    ∃ moves final others last,
      (MediaWorker.loop MediaWorker.answerAll).exec (.new () true) (enabledThenHeard 2) =
        some (moves, final) ∧
      (MediaWorker.loop MediaWorker.answerAll).Run (.new () true) others last ∧
      others.map Transition.input = enabledThenHeard 3 ∧
      (moves.flatMap fun move => sentCommands move.outputs) = [.audio ⟨2, 5, [42], 960, 7⟩] ∧
      (others.flatMap fun move => sentCommands move.outputs) = [.audio ⟨3, 5, [42], 960, 7⟩] := by
  have hexec : ∃ moves final,
      (MediaWorker.loop MediaWorker.answerAll).exec (.new () true) (enabledThenHeard 2) =
        some (moves, final) ∧
      moves.filterMap creditedPacket = [⟨2, 5, [42], 960, 7⟩] ∧
      (moves.flatMap fun move => sentCommands move.outputs) = [.audio ⟨2, 5, [42], 960, 7⟩] :=
    ⟨_, _, rfl, rfl, rfl⟩
  obtain ⟨moves, final, hexec, hcredited, hsent⟩ := hexec
  obtain ⟨others, last, hothers, hinputs, hiff⟩ :=
    sentCommands_renamed_iff MediaWorker.answerAll () true (Equiv.swap (2 : UInt64) 3).injective
      (Machine.exec_run hexec)
  refine ⟨moves, final, others, last, hexec, hothers, ?_, hsent, ?_⟩
  · rw [hinputs, ← Function.comp_def (renameInput _), ← List.map_map, Machine.exec_inputs hexec]
    rfl
  · rw [hiff.mpr, hsent]
    · rfl
    · rw [hcredited]
      simp [Equiv.swap_apply_left]

/-- Session `0` and session `1` change names. -/
def swapFirst (sessionId : UInt64) : UInt64 :=
  if sessionId = 0 then 1 else if sessionId = 1 then 0 else sessionId

theorem swapFirst_injective : Function.Injective swapFirst := by
  have hinvolutive : Function.Involutive swapFirst := by
    intro sessionId
    unfold swapFirst
    by_cases hzero : sessionId = 0
    · simp [hzero]
    · by_cases hone : sessionId = 1 <;> simp [hzero, hone]
  exact hinvolutive.injective

/-- The same endpoint is transcribed as one of session `1`, and not as one of session `0`. -/
theorem session_zero_not_sent :
    ¬ ∀ (rename : UInt64 → UInt64) (moves others : List (LoopMove Unit))
        (final last : MediaWorker Unit),
      Function.Injective rename →
      (MediaWorker.loop MediaWorker.answerAll).Run (.new () true) moves final →
      (MediaWorker.loop MediaWorker.answerAll).Run (.new () true) others last →
      others.map Transition.input = moves.map (fun move => renameInput rename move.input) →
      others.flatMap (fun move => sentCommands move.outputs) =
        (moves.flatMap fun move => sentCommands move.outputs).map (renameCommand rename) := by
  intro hcarries
  have hexec : ∃ moves final,
      (MediaWorker.loop MediaWorker.answerAll).exec (.new () true) (enabledThenHeard 0) =
        some (moves, final) ∧
      (moves.flatMap fun move => sentCommands move.outputs) = [] :=
    ⟨_, _, rfl, rfl⟩
  have hrenamed : ∃ others last,
      (MediaWorker.loop MediaWorker.answerAll).exec (.new () true) (enabledThenHeard 1) =
        some (others, last) ∧
      (others.flatMap fun move => sentCommands move.outputs) = [.audio ⟨1, 5, [42], 960, 7⟩] :=
    ⟨_, _, rfl, rfl⟩
  obtain ⟨moves, final, hexec, hsilent⟩ := hexec
  obtain ⟨others, last, hrenamed, hheard⟩ := hrenamed
  have hsame := hcarries swapFirst moves others final last swapFirst_injective
    (Machine.exec_run hexec) (Machine.exec_run hrenamed) ?_
  · rw [hsilent, hheard] at hsame
    simp at hsame
  · rw [← Function.comp_def (renameInput swapFirst), ← List.map_map, Machine.exec_inputs hexec,
      Machine.exec_inputs hrenamed]
    rfl

end Signal
end MediaServer
