import MediaServer.Signal.AudioRouter

/-!
# How an SSRC comes to its label, and what it sends under it

The SSRC map only grows: an entry appears when a packet of an unmapped SSRC is
drained while a default session is set, or when the SSRC is registered, and
afterwards only a registration of that same SSRC replaces it.  Between two
registrations an SSRC is therefore unbound, and silent, for an initial stretch
of the run and bound to one label for the rest of it.  `ssrc_routing` puts the
two stretches together for whole runs from a fresh worker.
-/

namespace MediaServer
namespace Signal

open Foundation Transcription

variable {σ : Type} {acceptOffer : AcceptOffer σ}

/-- The step handles a registration of the SSRC. -/
def Registers (ssrc : UInt32) (move : LoopMove σ) : Prop :=
  ∃ sessionId endpointId, routerEvent move = .handled (.registerSsrc ssrc sessionId endpointId)

/-- The step drains a packet of the SSRC while a default session is set. -/
def DrainsWithDefault (ssrc : UInt32) (move : LoopMove σ) : Prop :=
  ∃ info, drainedPacket move = some info ∧ info.ssrc = ssrc ∧
    move.pre.audioExtractor.defaultSession ≠ none

/-- The audio packet in an output of the loop. -/
def LoopOutput.audio : LoopOutput → Option AudioPacket
  | .sent (.audio packet) => some packet
  | _ => none

/-- The audio sent to the transcription worker along a run, in order. -/
def sentAudio (moves : List (LoopMove σ)) : List AudioPacket :=
  moves.flatMap fun move => move.outputs.filterMap LoopOutput.audio

/-- The packets of one SSRC drained along a run, in order. -/
def drainedOf (ssrc : UInt32) (moves : List (LoopMove σ)) : List AudioPacketInfo :=
  (moves.filterMap drainedPacket).filter fun info => info.ssrc = ssrc

/-- The audio of one SSRC sent along a run, in order. -/
def sentOf (ssrc : UInt32) (moves : List (LoopMove σ)) : List AudioPacket :=
  (sentAudio moves).filter fun packet => packet.ssrc = ssrc

theorem sentOf_cons (ssrc : UInt32) (move : LoopMove σ) (moves : List (LoopMove σ)) :
    sentOf ssrc (move :: moves) = sentOf ssrc [move] ++ sentOf ssrc moves := by
  simp [sentOf, sentAudio]

theorem drainedOf_cons (ssrc : UInt32) (move : LoopMove σ) (moves : List (LoopMove σ)) :
    drainedOf ssrc (move :: moves) = drainedOf ssrc [move] ++ drainedOf ssrc moves := by
  cases hdrained : drainedPacket move with
  | none => simp [drainedOf, hdrained]
  | some info => by_cases hssrc : info.ssrc = ssrc <;> simp [drainedOf, hdrained, hssrc]

/-! ## One step -/

variable {move : LoopMove σ} {ssrc : UInt32}

/-- The audio among the outputs of a step is the audio among its commands. -/
theorem audio_outputs (outputs : List LoopOutput) :
    outputs.filterMap LoopOutput.audio =
      (sentCommands outputs).filterMap fun
        | .audio packet => some packet
        | _ => none := by
  unfold sentCommands
  rw [List.filterMap_filterMap]
  congr 1
  funext output
  cases output with
  | sent command => cases command <;> rfl
  | replied _ => rfl

/-- A step that drains no packet of the SSRC sends no audio of it. -/
theorem sentOf_eq_nil_of_not_drained (hfires : (MediaWorker.loop acceptOffer).Fires move)
    (hother : drainedOf ssrc [move] = []) : sentOf ssrc [move] = [] := by
  have hcommands := fires_sentCommands hfires
  simp only [sentOf, sentAudio, List.flatMap_cons, List.flatMap_nil, List.append_nil,
    audio_outputs, hcommands]
  cases hevent : routerEvent move with
  | quiet => rfl
  | handled request => rfl
  | drained info =>
      have hssrc : info.ssrc ≠ ssrc := by
        have hdrained := drainedPacket_eq_some_iff.mpr hevent
        simpa [drainedOf, hdrained] using hother
      cases hforward : (forwardAudio move.pre.audioExtractor info).2 with
      | none => simp [routerStep, hforward]
      | some command =>
          obtain ⟨ids, -, -, rfl⟩ := forwardAudio_eq_some_iff.mp hforward
          simp [routerStep, hforward, audioPacket, hssrc]

/-- A step sends of the SSRC exactly what it drains of it, under the label
bound before the step, when that label's session is not `0`. -/
theorem sentOf_of_bound (hfires : (MediaWorker.loop acceptOffer).Fires move) {ids : SessionKey}
    (hbound : label move.pre.audioExtractor ssrc = some ids) (hids : ids.1 ≠ 0) :
    sentOf ssrc [move] = (drainedOf ssrc [move]).map (audioPacket ids) := by
  cases hdrained : drainedPacket move with
  | none =>
      have hnone : drainedOf ssrc [move] = [] := by simp [drainedOf, hdrained]
      rw [sentOf_eq_nil_of_not_drained hfires hnone, hnone]
      rfl
  | some info =>
      by_cases hssrc : info.ssrc = ssrc
      · subst hssrc
        have hevent := drainedPacket_eq_some_iff.mp hdrained
        have hforward : (forwardAudio move.pre.audioExtractor info).2 =
            some (.audio (audioPacket ids info)) :=
          forwardAudio_eq_some_iff.mpr ⟨ids, hbound, hids, rfl⟩
        have hcommands := fires_sentCommands hfires
        simp only [sentOf, sentAudio, List.flatMap_cons, List.flatMap_nil, List.append_nil,
          audio_outputs, hcommands]
        simp [hevent, routerStep, hforward, drainedOf, hdrained, audioPacket]
      · have hnone : drainedOf ssrc [move] = [] := by simp [drainedOf, hdrained, hssrc]
        rw [sentOf_eq_nil_of_not_drained hfires hnone, hnone]
        rfl

/-- A bound SSRC keeps its label through every step that does not register it. -/
theorem ssrcMap_stable (hfires : (MediaWorker.loop acceptOffer).Fires move) {ids : SessionKey}
    (hbound : move.pre.audioExtractor.ssrcMap.get ssrc = some ids)
    (hregisters : ¬ Registers ssrc move) :
    move.post.audioExtractor.ssrcMap.get ssrc = some ids := by
  rw [fires_audioExtractor hfires]
  cases hevent : routerEvent move with
  | quiet => exact hbound
  | handled request =>
      have hother : ∀ sessionId endpointId,
          request ≠ .registerSsrc ssrc sessionId endpointId := by
        rintro sessionId endpointId rfl
        exact hregisters ⟨sessionId, endpointId, hevent⟩
      exact (ssrcMap_updateExtractor_of_ne hother).trans hbound
  | drained info =>
      simp only [routerStep]
      rw [ssrcMap_forwardAudio]
      by_cases hssrc : ssrc = info.ssrc
      · rw [if_pos hssrc]
        exact label_of_mapped hbound
      · rw [if_neg hssrc]
        exact hbound

/-- An unbound SSRC stays unbound through every step that neither registers it
nor drains a packet of it while a default session is set, and such a step sends
no audio of it. -/
theorem ssrcMap_unbound (hfires : (MediaWorker.loop acceptOffer).Fires move)
    (hunbound : move.pre.audioExtractor.ssrcMap.get ssrc = none)
    (hregisters : ¬ Registers ssrc move) (hlearns : ¬ DrainsWithDefault ssrc move) :
    move.post.audioExtractor.ssrcMap.get ssrc = none ∧ sentOf ssrc [move] = [] := by
  cases hevent : routerEvent move with
  | quiet =>
      have hnone : drainedOf ssrc [move] = [] := by simp [drainedOf, drainedPacket, hevent]
      refine ⟨?_, sentOf_eq_nil_of_not_drained hfires hnone⟩
      rw [fires_audioExtractor hfires, hevent]
      exact hunbound
  | handled request =>
      have hnone : drainedOf ssrc [move] = [] := by simp [drainedOf, drainedPacket, hevent]
      refine ⟨?_, sentOf_eq_nil_of_not_drained hfires hnone⟩
      have hother : ∀ sessionId endpointId,
          request ≠ .registerSsrc ssrc sessionId endpointId := by
        rintro sessionId endpointId rfl
        exact hregisters ⟨sessionId, endpointId, hevent⟩
      rw [fires_audioExtractor hfires, hevent]
      exact (ssrcMap_updateExtractor_of_ne hother).trans hunbound
  | drained info =>
      have hdrained := drainedPacket_eq_some_iff.mpr hevent
      by_cases hssrc : info.ssrc = ssrc
      · subst hssrc
        -- without a default session the packet is dropped
        have hdefault : move.pre.audioExtractor.defaultSession = none := by
          by_contra hset
          exact hlearns ⟨info, hdrained, rfl, hset⟩
        have hlabel : label move.pre.audioExtractor info.ssrc = none :=
          (label_of_unmapped hunbound).trans hdefault
        constructor
        · rw [fires_audioExtractor hfires, hevent]
          simp only [routerStep]
          rw [ssrcMap_forwardAudio, if_pos rfl, hlabel]
        · simp only [sentOf, sentAudio, List.flatMap_cons, List.flatMap_nil, List.append_nil,
            audio_outputs, fires_sentCommands hfires, hevent, routerStep,
            forwardAudio_eq_none_of_unlabelled hlabel]
          rfl
      · have hnone : drainedOf ssrc [move] = [] := by simp [drainedOf, hdrained, hssrc]
        refine ⟨?_, sentOf_eq_nil_of_not_drained hfires hnone⟩
        rw [fires_audioExtractor hfires, hevent]
        simp only [routerStep]
        rw [ssrcMap_forwardAudio, if_neg (Ne.symm hssrc)]
        exact hunbound

/-- Draining a packet of an unbound SSRC while a default session is set binds
the SSRC to it. -/
theorem ssrcMap_learns (hfires : (MediaWorker.loop acceptOffer).Fires move)
    {info : AudioPacketInfo} (hdrained : drainedPacket move = some info) {ids : SessionKey}
    (hlabel : label move.pre.audioExtractor info.ssrc = some ids) :
    move.post.audioExtractor.ssrcMap.get info.ssrc = some ids := by
  rw [fires_audioExtractor hfires, drainedPacket_eq_some_iff.mp hdrained]
  simp only [routerStep]
  rw [ssrcMap_forwardAudio, if_pos rfl, hlabel]

/-! ## Whole runs -/

variable {start final : MediaWorker σ} {moves : List (LoopMove σ)}

/-- From a state in which the SSRC is bound, and without registrations of it,
its label stays and every drained packet of it is sent once, in order. -/
theorem run_bound (hrun : (MediaWorker.loop acceptOffer).Run start moves final)
    {ids : SessionKey} (hbound : start.audioExtractor.ssrcMap.get ssrc = some ids)
    (hregisters : ∀ move ∈ moves, ¬ Registers ssrc move) :
    final.audioExtractor.ssrcMap.get ssrc = some ids ∧
      (ids.1 ≠ 0 → sentOf ssrc moves = (drainedOf ssrc moves).map (audioPacket ids)) := by
  induction hrun with
  | nil state => exact ⟨hbound, fun _ => rfl⟩
  | @cons move moves final hfires hrest ih =>
      have hnext := ssrcMap_stable hfires hbound (hregisters move List.mem_cons_self)
      obtain ⟨hfinal, hsent⟩ := ih hnext fun later hlater =>
        hregisters later (List.mem_cons_of_mem _ hlater)
      refine ⟨hfinal, fun hids => ?_⟩
      rw [sentOf_cons, drainedOf_cons, List.map_append, hsent hids,
        sentOf_of_bound hfires (label_of_mapped hbound) hids]

/-- As long as no packet of an unbound SSRC is drained with a default session
set, and without registrations of it, it stays unbound and silent. -/
theorem run_unbound (hrun : (MediaWorker.loop acceptOffer).Run start moves final)
    (hunbound : start.audioExtractor.ssrcMap.get ssrc = none)
    (hregisters : ∀ move ∈ moves, ¬ Registers ssrc move)
    (hlearns : ∀ move ∈ moves, ¬ DrainsWithDefault ssrc move) :
    final.audioExtractor.ssrcMap.get ssrc = none ∧ sentOf ssrc moves = [] := by
  induction hrun with
  | nil state => exact ⟨hunbound, rfl⟩
  | @cons move moves final hfires hrest ih =>
      obtain ⟨hnext, hsilent⟩ := ssrcMap_unbound hfires hunbound
        (hregisters move List.mem_cons_self) (hlearns move List.mem_cons_self)
      obtain ⟨hfinal, hrestSilent⟩ := ih hnext
        (fun later hlater => hregisters later (List.mem_cons_of_mem _ hlater))
        (fun later hlater => hlearns later (List.mem_cons_of_mem _ hlater))
      refine ⟨hfinal, ?_⟩
      rw [sentOf_cons, hsilent, hrestSilent]
      rfl

/-- The router over whole runs of a fresh worker.

Packets are drained in the order of their arrival.  An SSRC that is never
registered has no entry and sends nothing before the first of its packets that
is drained while a default session is set; from that packet on it sends every
drained packet exactly once, in order, unchanged and labelled with that default
session, provided its session id is not `0`.  The label of any SSRC, once set,
changes only when a registration of that SSRC is handled. -/
theorem ssrc_routing (serverStates : σ) (transcribing : Bool)
    (hrun : (MediaWorker.loop acceptOffer).Run (MediaWorker.new serverStates transcribing)
      moves final) :
    moves.flatMap tappedAudio = moves.filterMap drainedPacket ++ final.sfuAudio ∧
    (∀ ssrc, (∀ move ∈ moves, ¬ Registers ssrc move) →
      ∀ before move after info ids, moves = before ++ move :: after →
        (∀ earlier ∈ before, ¬ DrainsWithDefault ssrc earlier) →
        drainedPacket move = some info → info.ssrc = ssrc →
        move.pre.audioExtractor.defaultSession = some ids →
        (∀ earlier ∈ before, earlier.pre.audioExtractor.ssrcMap.get ssrc = none) ∧
        move.pre.audioExtractor.ssrcMap.get ssrc = none ∧
        sentOf ssrc before = [] ∧
        (ids.1 ≠ 0 →
          sentOf ssrc (move :: after) =
            (drainedOf ssrc (move :: after)).map (audioPacket ids))) ∧
    (∀ ssrc, ∀ move ∈ moves, ∀ ids, ¬ Registers ssrc move →
      move.pre.audioExtractor.ssrcMap.get ssrc = some ids →
      move.post.audioExtractor.ssrcMap.get ssrc = some ids) := by
  refine ⟨?_, ?_, ?_⟩
  · simpa [MediaWorker.new] using run_arrival_order hrun
  · rintro ssrc hregisters before move after info ids rfl hlearns hdrained rfl hdefault
    obtain ⟨hbefore, hfires, hafter⟩ := hrun.split_at
    have hnew : (MediaWorker.new serverStates transcribing :
        MediaWorker σ).audioExtractor.ssrcMap.get info.ssrc = none := by
      simp [MediaWorker.new]
    have hearlier : ∀ earlier ∈ before, ¬ Registers info.ssrc earlier := fun earlier hmem =>
      hregisters earlier (List.mem_append_left _ hmem)
    obtain ⟨hunbound, hsilent⟩ := run_unbound hbefore hnew hearlier hlearns
    refine ⟨?_, hunbound, hsilent, ?_⟩
    · intro earlier hmem
      obtain ⟨first, second, rfl⟩ := List.append_of_mem hmem
      exact (run_unbound hbefore.split_at.1 hnew
        (fun move hmove => hearlier move (List.mem_append_left _ hmove))
        (fun move hmove => hlearns move (List.mem_append_left _ hmove))).1
    · intro hids
      have hlabel : label move.pre.audioExtractor info.ssrc = some ids :=
        (label_of_unmapped hunbound).trans hdefault
      have hbound := ssrcMap_learns hfires hdrained hlabel
      have hlater : ∀ later ∈ after, ¬ Registers info.ssrc later := fun later hmem =>
        hregisters later (List.mem_append_right _ (List.mem_cons_of_mem _ hmem))
      rw [sentOf_cons, drainedOf_cons, List.map_append, sentOf_of_bound hfires hlabel hids,
        (run_bound hafter hbound hlater).2 hids]
  · intro ssrc move hmem ids hregisters hbound
    exact ssrcMap_stable (hrun.fires_of_mem hmem) hbound hregisters

/-- A packet of SSRC `9` arrives before endpoint `(1, 2)` is enabled, and one
after it. -/
def enabledBetween : List LoopInput :=
  [.poll none, .drain, .read [⟨some (1, 2), ⟨9, 100, 1, 111, [7]⟩⟩], .poll none, .drain,
    .drain, .read [⟨some (1, 2), ⟨9, 960, 2, 111, [8]⟩⟩],
    .poll (some (.enableTranscription 1 2, false)), .drain]

/-- The first packet is dropped, the second is credited to the endpoint. -/
theorem ssrc_routing_enabledBetween :
    ∃ moves final,
      (MediaWorker.loop MediaWorker.answerAll).exec (MediaWorker.new () true) enabledBetween =
        some (moves, final) ∧
      moves.flatMap tappedAudio = moves.filterMap drainedPacket ++ final.sfuAudio ∧
      sentOf 9 moves = [⟨1, 2, [8], 960, 9⟩] :=
  ⟨_, _, rfl, (ssrc_routing () true (Machine.exec_run
    (rfl : (MediaWorker.loop MediaWorker.answerAll).exec (MediaWorker.new () true)
      enabledBetween = some (_, _)))).1, rfl⟩

end Signal
end MediaServer
