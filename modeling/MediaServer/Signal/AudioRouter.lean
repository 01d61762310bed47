import MediaServer.Signal.MediaWorker

/-!
# The router inside the media worker

Seen from its extractor, the main loop is a router that reacts to three kinds
of event: nothing happens to it, a signaling message is handled, an audio packet
is drained.  `fires_router` shows that every step of the loop is the router's
reaction to the event the step amounts to, so that facts about runs of the loop
reduce to facts about `forwardAudio` and `updateExtractor`.
-/

namespace MediaServer
namespace Signal

open Foundation Transcription

/-- The label under which the next packet of an SSRC would be forwarded. -/
def label (extractor : RtpAudioExtractor) (ssrc : UInt32) : Option SessionKey :=
  (extractor.ssrcMap.get ssrc).or extractor.defaultSession

theorem label_of_mapped {extractor : RtpAudioExtractor} {ssrc : UInt32} {ids : SessionKey}
    (hmapped : extractor.ssrcMap.get ssrc = some ids) : label extractor ssrc = some ids := by
  simp [label, hmapped]

theorem label_of_unmapped {extractor : RtpAudioExtractor} {ssrc : UInt32}
    (hunmapped : extractor.ssrcMap.get ssrc = none) :
    label extractor ssrc = extractor.defaultSession := by
  simp [label, hunmapped]

section ForwardAudio

variable (extractor : RtpAudioExtractor) (info : AudioPacketInfo)

@[simp] theorem defaultSession_forwardAudio :
    (forwardAudio extractor info).1.defaultSession = extractor.defaultSession := by
  unfold forwardAudio lookupSession
  cases extractor.ssrcMap.get info.ssrc with
  | some ids => by_cases hids : ids.1 = 0 <;> simp [hids]
  | none =>
      cases hdefault : extractor.defaultSession with
      | some ids => by_cases hids : ids.1 = 0 <;> simp [hids]
      | none => simp [hdefault]

@[simp] theorem isTranscriptionEnabled_forwardAudio (sessionId endpointId : UInt64) :
    (forwardAudio extractor info).1.isTranscriptionEnabled sessionId endpointId =
      extractor.isTranscriptionEnabled sessionId endpointId := by
  unfold forwardAudio lookupSession
  cases extractor.ssrcMap.get info.ssrc with
  | some ids => by_cases hids : ids.1 = 0 <;> simp [hids]
  | none =>
      cases extractor.defaultSession with
      | some ids =>
          by_cases hids : ids.1 = 0 <;> simp [hids, RtpAudioExtractor.isTranscriptionEnabled]
      | none => simp

/-- Forwarding binds the packet's SSRC to its label and no other SSRC. -/
theorem ssrcMap_forwardAudio (ssrc : UInt32) :
    (forwardAudio extractor info).1.ssrcMap.get ssrc =
      if ssrc = info.ssrc then label extractor ssrc else extractor.ssrcMap.get ssrc := by
  unfold forwardAudio lookupSession label
  by_cases hssrc : ssrc = info.ssrc
  · subst hssrc
    cases hmapped : extractor.ssrcMap.get info.ssrc with
    | some ids => by_cases hids : ids.1 = 0 <;> simp [hids, hmapped]
    | none =>
        cases hdefault : extractor.defaultSession with
        | some ids => by_cases hids : ids.1 = 0 <;> simp [hids]
        | none => simp [hmapped]
  · cases extractor.ssrcMap.get info.ssrc with
    | some ids => by_cases hids : ids.1 = 0 <;> simp [hids, hssrc]
    | none =>
        cases extractor.defaultSession with
        | some ids => by_cases hids : ids.1 = 0 <;> simp [hids, hssrc]
        | none => simp [hssrc]

/-- A packet is forwarded exactly when it has a label whose session is not the
marker `0`. -/
theorem command_forwardAudio :
    (forwardAudio extractor info).2 =
      (label extractor info.ssrc).bind fun ids =>
        if ids.1 = 0 then none else some (.audio (audioPacket ids info)) := by
  unfold forwardAudio lookupSession label
  cases extractor.ssrcMap.get info.ssrc with
  | some ids => by_cases hids : ids.1 = 0 <;> simp [hids]
  | none =>
      cases extractor.defaultSession with
      | some ids => by_cases hids : ids.1 = 0 <;> simp [hids]
      | none => simp

variable {extractor info}

/-- What a forwarded packet says about the extractor that forwarded it. -/
theorem forwardAudio_eq_some_iff {command : TranscriptionCommand} :
    (forwardAudio extractor info).2 = some command ↔
      ∃ ids, label extractor info.ssrc = some ids ∧ ids.1 ≠ 0 ∧
        command = .audio (audioPacket ids info) := by
  rw [command_forwardAudio]
  constructor
  · intro hcommand
    obtain ⟨ids, hlabel, hforward⟩ := Option.bind_eq_some_iff.mp hcommand
    split at hforward
    · contradiction
    · rename_i hids
      exact ⟨ids, hlabel, hids, (Option.some.inj hforward).symm⟩
  · rintro ⟨ids, hlabel, hids, rfl⟩
    simp [hlabel, hids]

theorem forwardAudio_eq_none_of_unlabelled (hlabel : label extractor info.ssrc = none) :
    (forwardAudio extractor info).2 = none := by
  rw [command_forwardAudio, hlabel]
  rfl

end ForwardAudio

/-! ## The endpoints that packets are credited to -/

/-- The next packet of some SSRC would be credited to the pair. -/
def Credits (extractor : RtpAudioExtractor) (ids : SessionKey) : Prop :=
  ∃ ssrc, label extractor ssrc = some ids

/-- Forwarding a packet changes no label. -/
theorem label_forwardAudio (extractor : RtpAudioExtractor) (info : AudioPacketInfo)
    (ssrc : UInt32) : label (forwardAudio extractor info).1 ssrc = label extractor ssrc := by
  have hmapped := ssrcMap_forwardAudio extractor info ssrc
  split at hmapped
  · rw [label, hmapped, defaultSession_forwardAudio]
    cases hentry : extractor.ssrcMap.get ssrc with
    | some ids => simp [label, hentry]
    | none => cases hdefault : extractor.defaultSession <;> simp [label, hentry, hdefault]
  · rw [label, hmapped, defaultSession_forwardAudio, label]

/-- Enabling an endpoint credits nobody but it that was not credited before. -/
theorem credits_of_enable {extractor : RtpAudioExtractor} {sessionId endpointId : UInt64}
    {ids : SessionKey}
    (hcredits : Credits (extractor.enableTranscriptionForSession sessionId endpointId) ids) :
    ids = (sessionId, endpointId) ∨ Credits extractor ids := by
  obtain ⟨ssrc, hlabel⟩ := hcredits
  cases hentry : extractor.ssrcMap.get ssrc with
  | some bound =>
      have hbound : bound = ids := by simpa [label, hentry] using hlabel
      exact .inr ⟨ssrc, hbound ▸ label_of_mapped hentry⟩
  | none =>
      have hdefault : (sessionId, endpointId) = ids := by simpa [label, hentry] using hlabel
      exact .inl hdefault.symm

/-- Registering an SSRC credits nobody but its endpoint that was not credited
before. -/
theorem credits_of_registerSsrc {extractor : RtpAudioExtractor} {registered : UInt32}
    {sessionId endpointId : UInt64} {ids : SessionKey}
    (hcredits : Credits (extractor.registerSsrc registered sessionId endpointId) ids) :
    ids = (sessionId, endpointId) ∨ Credits extractor ids := by
  obtain ⟨ssrc, hlabel⟩ := hcredits
  by_cases hssrc : ssrc = registered
  · have hids : (sessionId, endpointId) = ids := by simpa [label, hssrc] using hlabel
    exact .inl hids.symm
  · exact .inr ⟨ssrc, by simpa [label, hssrc] using hlabel⟩

/-- Draining a packet credits nobody anew. -/
theorem credits_of_forwardAudio {extractor : RtpAudioExtractor} {info : AudioPacketInfo}
    {ids : SessionKey} (hcredits : Credits (forwardAudio extractor info).1 ids) :
    Credits extractor ids := by
  obtain ⟨ssrc, hlabel⟩ := hcredits
  rw [label_forwardAudio] at hlabel
  exact ⟨ssrc, hlabel⟩

/-! ## Steps of the loop as reactions of the router -/

/-- What happens to the extractor in one step of the loop. -/
inductive RouterEvent
  | quiet
  | handled (request : SignalingProtocolMessage)
  | drained (info : AudioPacketInfo)
  deriving DecidableEq

/-- The router's reaction: the extractor afterwards and the commands sent. -/
def routerStep (extractor : RtpAudioExtractor) :
    RouterEvent → RtpAudioExtractor × List TranscriptionCommand
  | .quiet => (extractor, [])
  | .handled request => (updateExtractor extractor request, [])
  | .drained info => ((forwardAudio extractor info).1, (forwardAudio extractor info).2.toList)

theorem mem_sentCommands_iff {outputs : List LoopOutput} {command : TranscriptionCommand} :
    command ∈ sentCommands outputs ↔ LoopOutput.sent command ∈ outputs := by
  unfold sentCommands
  rw [List.mem_filterMap]
  constructor
  · rintro ⟨output, hmem, houtput⟩
    cases output with
    | sent _ =>
        obtain rfl := Option.some.inj houtput
        exact hmem
    | replied _ => contradiction
  · intro hmem
    exact ⟨_, hmem, rfl⟩

variable {σ : Type}

/-- A step of the loop with the worker's states around it. -/
abbrev LoopMove (σ : Type) := Transition (MediaWorker σ) LoopInput LoopOutput

/-- The event that a step amounts to for the extractor. -/
def routerEvent (move : LoopMove σ) : RouterEvent :=
  match move.input with
  | .poll (some (request, _)) => .handled request
  | .poll none => .quiet
  | .drain =>
      if move.pre.transcribing then
        match move.pre.sfuAudio with
        | info :: _ => .drained info
        | [] => .quiet
      else .quiet
  | .read _ => .quiet

/-- The packet a step drains, if it drains one. -/
def drainedPacket (move : LoopMove σ) : Option AudioPacketInfo :=
  match routerEvent move with
  | .drained info => some info
  | _ => none

theorem drainedPacket_eq_some_iff {move : LoopMove σ} {info : AudioPacketInfo} :
    drainedPacket move = some info ↔ routerEvent move = .drained info := by
  unfold drainedPacket
  cases routerEvent move <;> simp

theorem routerEvent_eq_handled_iff {move : LoopMove σ} {request : SignalingProtocolMessage} :
    routerEvent move = .handled request ↔
      ∃ listening, move.input = .poll (some (request, listening)) := by
  unfold routerEvent
  constructor
  · intro hevent
    split at hevent
    · rename_i handled listening hinput
      obtain rfl : handled = request := by simpa using hevent
      exact ⟨listening, hinput⟩
    · contradiction
    · split at hevent
      · split at hevent <;> contradiction
      · contradiction
    · contradiction
  · rintro ⟨listening, hinput⟩
    simp [hinput]

/-- The audio packets the gateway taps in a step. -/
def tappedAudio (move : LoopMove σ) : List AudioPacketInfo :=
  match move.input with
  | .read arrivals => if move.pre.transcribing then arrivals.filterMap tapAudio else []
  | _ => []

variable {acceptOffer : AcceptOffer σ} {move : LoopMove σ}

theorem handle_audioExtractor (worker : MediaWorker σ) (request : SignalingProtocolMessage)
    (listening : Bool) :
    (worker.handle acceptOffer request listening).1.audioExtractor =
      updateExtractor worker.audioExtractor request := by
  have hhandled := handled_audioExtractor acceptOffer worker.serverStates request
    worker.audioExtractor
  simp only [MediaWorker.handle, hhandled, Option.getD_some]
  split
  · rfl
  · split <;> rfl

theorem handle_sfuAudio (worker : MediaWorker σ) (request : SignalingProtocolMessage)
    (listening : Bool) :
    (worker.handle acceptOffer request listening).1.sfuAudio = worker.sfuAudio ∧
      (worker.handle acceptOffer request listening).1.transcribing = worker.transcribing := by
  simp only [MediaWorker.handle]
  split
  · exact ⟨rfl, rfl⟩
  · split <;> exact ⟨rfl, rfl⟩

theorem handle_sentCommands (worker : MediaWorker σ) (request : SignalingProtocolMessage)
    (listening : Bool) :
    sentCommands (worker.handle acceptOffer request listening).2 = [] := by
  simp only [MediaWorker.handle]
  split
  · rfl
  · split <;> rfl

/-- Every step of the loop is the router's reaction to the step's event. -/
theorem fires_router (hfires : (MediaWorker.loop acceptOffer).Fires move) :
    (move.post.audioExtractor, sentCommands move.outputs) =
      routerStep move.pre.audioExtractor (routerEvent move) := by
  obtain ⟨worker, input, next, outputs⟩ := move
  have hstep : worker.LoopStep acceptOffer input next outputs :=
    MediaWorker.loopStep_of_step hfires
  cases hstep with
  | idle hpoint => rfl
  | signal hpoint request listening =>
      simp only [routerEvent, routerStep]
      rw [handle_audioExtractor, handle_sentCommands]
  | forward hpoint htranscribing info rest hqueue =>
      cases hcommand : (forwardAudio worker.audioExtractor info).2 <;>
        simp [routerEvent, htranscribing, hqueue, routerStep, sentCommands, hcommand,
          LoopOutput.command]
  | drained hpoint hempty =>
      rcases hempty with hoff | hqueue
      · simp [routerEvent, hoff, routerStep, sentCommands]
      · simp [routerEvent, hqueue, routerStep, sentCommands]
  | arrived hpoint arrivals => rfl

theorem fires_audioExtractor (hfires : (MediaWorker.loop acceptOffer).Fires move) :
    move.post.audioExtractor = (routerStep move.pre.audioExtractor (routerEvent move)).1 :=
  congrArg Prod.fst (fires_router hfires)

theorem fires_sentCommands (hfires : (MediaWorker.loop acceptOffer).Fires move) :
    sentCommands move.outputs = (routerStep move.pre.audioExtractor (routerEvent move)).2 :=
  congrArg Prod.snd (fires_router hfires)

/-- A sent command is the forwarded form of the packet drained in that step. -/
theorem fires_sent (hfires : (MediaWorker.loop acceptOffer).Fires move)
    {command : TranscriptionCommand} (hsent : LoopOutput.sent command ∈ move.outputs) :
    ∃ info ids, routerEvent move = .drained info ∧
      label move.pre.audioExtractor info.ssrc = some ids ∧ ids.1 ≠ 0 ∧
      command = .audio (audioPacket ids info) := by
  have hmem := mem_sentCommands_iff.mpr hsent
  rw [fires_sentCommands hfires] at hmem
  cases hevent : routerEvent move with
  | quiet => simp [hevent, routerStep] at hmem
  | handled request => simp [hevent, routerStep] at hmem
  | drained info =>
      rw [hevent] at hmem
      have hforward : (forwardAudio move.pre.audioExtractor info).2 = some command := by
        simpa [routerStep] using hmem
      obtain ⟨ids, hlabel, hids, hcommand⟩ := forwardAudio_eq_some_iff.mp hforward
      exact ⟨info, ids, rfl, hlabel, hids, hcommand⟩

/-- The queue of the tap loses at its head what is drained and gains at its end
what is tapped. -/
theorem fires_sfuAudio (hfires : (MediaWorker.loop acceptOffer).Fires move) :
    move.pre.sfuAudio ++ tappedAudio move =
      (drainedPacket move).toList ++ move.post.sfuAudio := by
  obtain ⟨worker, input, next, outputs⟩ := move
  have hstep : worker.LoopStep acceptOffer input next outputs :=
    MediaWorker.loopStep_of_step hfires
  cases hstep with
  | idle hpoint => simp [tappedAudio, drainedPacket, routerEvent]
  | signal hpoint request listening =>
      simp [tappedAudio, drainedPacket, routerEvent, handle_sfuAudio]
  | forward hpoint htranscribing info rest hqueue =>
      simp [tappedAudio, drainedPacket, routerEvent, htranscribing, hqueue]
  | drained hpoint hempty =>
      rcases hempty with hoff | hqueue
      · simp [tappedAudio, drainedPacket, routerEvent, hoff]
      · simp [tappedAudio, drainedPacket, routerEvent, hqueue]
  | arrived hpoint arrivals => simp [tappedAudio, drainedPacket, routerEvent]

/-- Packets leave the queue of the tap in the order in which they entered it. -/
theorem run_arrival_order {start final : MediaWorker σ} {moves : List (LoopMove σ)}
    (hrun : (MediaWorker.loop acceptOffer).Run start moves final) :
    start.sfuAudio ++ moves.flatMap tappedAudio =
      moves.filterMap drainedPacket ++ final.sfuAudio := by
  induction hrun with
  | nil state => simp
  | @cons move moves final hfires hrest ih =>
      have hstep := fires_sfuAudio hfires
      calc
        move.pre.sfuAudio ++ (move :: moves).flatMap tappedAudio =
            (move.pre.sfuAudio ++ tappedAudio move) ++ moves.flatMap tappedAudio := by
          simp
        _ = (drainedPacket move).toList ++
              (move.post.sfuAudio ++ moves.flatMap tappedAudio) := by
          rw [hstep, List.append_assoc]
        _ = (drainedPacket move).toList ++
              (moves.filterMap drainedPacket ++ final.sfuAudio) := by
          rw [ih]
        _ = (move :: moves).filterMap drainedPacket ++ final.sfuAudio := by
          cases hdrained : drainedPacket move <;> simp [hdrained]

end Signal
end MediaServer
