import MediaServer.Signal.AudioRouter

/-!
# Whose speech the forwarded audio is

The gateway knows the endpoint a packet comes from, but `AudioPacketInfo` does
not carry it: the drain loop works with the SSRC alone and credits an SSRC it
has not seen to the default session, the endpoint enabled last.  In a run in
which every SSRC belongs to one endpoint, and is registered for no other, the
labels are right exactly when every SSRC is first drained while its own endpoint
is the default session.
-/

namespace MediaServer
namespace Signal

open Foundation Transcription

variable {σ : Type} {acceptOffer : AcceptOffer σ}

/-- The packets that reach the gateway in a step. -/
def arrivedIn : LoopInput → List RtpArrival
  | .read arrivals => arrivals
  | _ => []

/-- Along the inputs of a run every SSRC is used by its owner only, and
registered for its owner only. -/
structure OwnedBy (owner : UInt32 → SessionKey) (inputs : List LoopInput) : Prop where
  arrivals : ∀ input ∈ inputs, ∀ arrival ∈ arrivedIn input, ∀ ids,
    arrival.endpoint = some ids → owner arrival.packet.ssrc = ids
  registrations : ∀ ssrc sessionId endpointId listening,
    .poll (some (.registerSsrc ssrc sessionId endpointId, listening)) ∈ inputs →
      owner ssrc = (sessionId, endpointId)

/-- The condition on a step: if it drains the first packet of an SSRC while a
default session is set, that session is the SSRC's owner.  Session `0` is
exempt, nothing is forwarded for it. -/
def LearnsOwner (owner : UInt32 → SessionKey) (move : LoopMove σ) : Prop :=
  ∀ info ids, drainedPacket move = some info →
    move.pre.audioExtractor.ssrcMap.get info.ssrc = none →
    move.pre.audioExtractor.defaultSession = some ids →
    ids.1 = 0 ∨ ids = owner info.ssrc

/-- The invariant: every entry of the SSRC map that is forwarded under names the
owner of its SSRC. -/
def MapsOwners (owner : UInt32 → SessionKey) (extractor : RtpAudioExtractor) : Prop :=
  ∀ ssrc ids, extractor.ssrcMap.get ssrc = some ids → ids.1 = 0 ∨ ids = owner ssrc

theorem mapsOwners_new (owner : UInt32 → SessionKey) :
    MapsOwners owner RtpAudioExtractor.new := by
  intro ssrc ids hentry
  simp at hentry

variable {owner : UInt32 → SessionKey} {move : LoopMove σ}

/-- A step that learns an SSRC for its owner only, and registers it for its
owner only, keeps the invariant. -/
theorem mapsOwners_step (hfires : (MediaWorker.loop acceptOffer).Fires move)
    {inputs : List LoopInput} (howned : OwnedBy owner inputs) (hinput : move.input ∈ inputs)
    (hlearns : LearnsOwner owner move) (hpre : MapsOwners owner move.pre.audioExtractor) :
    MapsOwners owner move.post.audioExtractor := by
  rw [fires_audioExtractor hfires]
  intro ssrc ids hentry
  cases hevent : routerEvent move with
  | quiet =>
      rw [hevent] at hentry
      exact hpre ssrc ids hentry
  | handled request =>
      rw [hevent] at hentry
      simp only [routerStep] at hentry
      by_cases hself : ∃ sessionId endpointId,
          request = .registerSsrc ssrc sessionId endpointId
      · obtain ⟨sessionId, endpointId, rfl⟩ := hself
        have hids : (sessionId, endpointId) = ids := by simpa [updateExtractor] using hentry
        obtain ⟨listening, hpoll⟩ := routerEvent_eq_handled_iff.mp hevent
        have howner := howned.registrations ssrc sessionId endpointId listening (hpoll ▸ hinput)
        exact .inr (hids ▸ howner.symm)
      · have hother : ∀ sessionId endpointId,
            request ≠ .registerSsrc ssrc sessionId endpointId := by
          intro sessionId endpointId hrequest
          exact hself ⟨sessionId, endpointId, hrequest⟩
        rw [ssrcMap_updateExtractor_of_ne hother] at hentry
        exact hpre ssrc ids hentry
  | drained info =>
      rw [hevent] at hentry
      simp only [routerStep] at hentry
      rw [ssrcMap_forwardAudio] at hentry
      split at hentry
      · rename_i hssrc
        subst hssrc
        cases hmapped : move.pre.audioExtractor.ssrcMap.get info.ssrc with
        | some bound =>
            have hbound : bound = ids := by simpa [label, hmapped] using hentry
            exact hpre info.ssrc ids (hbound ▸ hmapped)
        | none =>
            have hdefault := (label_of_unmapped hmapped).symm.trans hentry
            exact hlearns info ids (drainedPacket_eq_some_iff.mpr hevent) hmapped hdefault
      · exact hpre ssrc ids hentry

/-- Under the invariant, a step that meets the condition labels what it sends
with the owner. -/
theorem key_of_sent (hfires : (MediaWorker.loop acceptOffer).Fires move)
    (hlearns : LearnsOwner owner move) (hpre : MapsOwners owner move.pre.audioExtractor)
    {packet : AudioPacket} (hsent : LoopOutput.sent (.audio packet) ∈ move.outputs) :
    packet.key = owner packet.ssrc := by
  obtain ⟨info, ids, hevent, hlabel, hids, hpacket⟩ := fires_sent hfires hsent
  obtain rfl : packet = audioPacket ids info := by simpa using hpacket
  have howner : ids.1 = 0 ∨ ids = owner info.ssrc := by
    cases hmapped : move.pre.audioExtractor.ssrcMap.get info.ssrc with
    | some bound =>
        have hbound : bound = ids := by simpa [label, hmapped] using hlabel
        exact hpre info.ssrc ids (hbound ▸ hmapped)
    | none =>
        have hdefault := (label_of_unmapped hmapped).symm.trans hlabel
        exact hlearns info ids (drainedPacket_eq_some_iff.mpr hevent) hmapped hdefault
  rcases howner with hzero | howner
  · exact absurd hzero hids
  · exact howner

/-- A step that does not meet the condition sends a packet labelled with another
endpoint than its owner. -/
theorem learnsOwner_of_key (hfires : (MediaWorker.loop acceptOffer).Fires move)
    (hkeys : ∀ packet, LoopOutput.sent (.audio packet) ∈ move.outputs →
      packet.key = owner packet.ssrc) : LearnsOwner owner move := by
  intro info ids hdrained hunmapped hdefault
  by_cases hids : ids.1 = 0
  · exact .inl hids
  · right
    have hlabel := (label_of_unmapped hunmapped).trans hdefault
    have hforward : (forwardAudio move.pre.audioExtractor info).2 =
        some (.audio (audioPacket ids info)) :=
      forwardAudio_eq_some_iff.mpr ⟨ids, hlabel, hids, rfl⟩
    have hsent : LoopOutput.sent (.audio (audioPacket ids info)) ∈ move.outputs := by
      rw [← mem_sentCommands_iff, fires_sentCommands hfires,
        drainedPacket_eq_some_iff.mp hdrained]
      simp [routerStep, hforward]
    exact hkeys _ hsent

/-- Every packet sent has arrived before, on the transport of its SSRC's
owner, with the same SSRC, timestamp and payload. -/
theorem sent_arrived {start final : MediaWorker σ} (hempty : start.sfuAudio = [])
    {before after : List (LoopMove σ)}
    (hrun : (MediaWorker.loop acceptOffer).Run start (before ++ move :: after) final)
    {inputs : List LoopInput} (howned : OwnedBy owner inputs)
    (hinputs : ∀ earlier ∈ before, earlier.input ∈ inputs) {packet : AudioPacket}
    (hsent : LoopOutput.sent (.audio packet) ∈ move.outputs) :
    ∃ earlier ∈ before, ∃ arrival ∈ arrivedIn earlier.input,
      arrival.endpoint = some (owner packet.ssrc) ∧ arrival.packet.ssrc = packet.ssrc ∧
      arrival.packet.timestamp = packet.timestamp ∧ arrival.packet.payload = packet.opusData := by
  obtain ⟨hbefore, hfires, -⟩ := hrun.split_at
  obtain ⟨info, ids, hevent, -, -, hpacket⟩ := fires_sent hfires hsent
  obtain rfl : packet = audioPacket ids info := by simpa using hpacket
  -- the drained packet waits at the head of the queue, so it was tapped before
  have hqueued : info ∈ move.pre.sfuAudio := by
    have hqueue := fires_sfuAudio hfires
    have htapped : tappedAudio move = [] := by
      unfold routerEvent at hevent
      unfold tappedAudio
      split at hevent <;> simp_all
    rw [htapped, drainedPacket_eq_some_iff.mpr hevent, List.append_nil] at hqueue
    simp [hqueue]
  have htapped : info ∈ before.flatMap tappedAudio := by
    have horder := run_arrival_order hbefore
    rw [hempty, List.nil_append] at horder
    rw [horder]
    exact List.mem_append_right _ hqueued
  obtain ⟨earlier, hearlier, htap⟩ := List.mem_flatMap.mp htapped
  unfold tappedAudio at htap
  cases hinput : earlier.input with
  | poll _ => simp [hinput] at htap
  | drain => simp [hinput] at htap
  | read arrivals =>
      simp only [hinput] at htap
      split at htap
      · obtain ⟨arrival, harrival, hinfo⟩ := List.mem_filterMap.mp htap
        have harrived : arrival ∈ arrivedIn earlier.input := by
          simpa [arrivedIn, hinput] using harrival
        cases hendpoint : arrival.endpoint with
        | none => simp [tapAudio, hendpoint] at hinfo
        | some source =>
            have hsource := howned.arrivals earlier.input (hinputs earlier hearlier)
              arrival harrived source hendpoint
            simp only [tapAudio, hendpoint] at hinfo
            split at hinfo
            · obtain rfl := Option.some.inj hinfo
              exact ⟨earlier, hearlier, arrival, harrived, by rw [hendpoint, ← hsource]; rfl,
                rfl, rfl, rfl⟩
            · contradiction
      · contradiction

/-- In a run of a fresh worker in which every SSRC has an owner, each packet
sent has arrived before on the transport of its SSRC's owner, and all packets
sent are labelled with that owner exactly when every SSRC that is credited to a
default session is credited to its owner. -/
theorem attribution_iff_learnsOwner (serverStates : σ) (transcribing : Bool)
    (owner : UInt32 → SessionKey) {moves : List (LoopMove σ)} {final : MediaWorker σ}
    (hrun : (MediaWorker.loop acceptOffer).Run (MediaWorker.new serverStates transcribing)
      moves final)
    (howned : OwnedBy owner (moves.map Transition.input)) :
    (∀ before move after, moves = before ++ move :: after →
      ∀ packet, LoopOutput.sent (.audio packet) ∈ move.outputs →
        ∃ earlier ∈ before, ∃ arrival ∈ arrivedIn earlier.input,
          arrival.endpoint = some (owner packet.ssrc) ∧ arrival.packet.ssrc = packet.ssrc ∧
          arrival.packet.timestamp = packet.timestamp ∧
          arrival.packet.payload = packet.opusData) ∧
    ((∀ move ∈ moves, ∀ packet, LoopOutput.sent (.audio packet) ∈ move.outputs →
        packet.key = owner packet.ssrc) ↔
      ∀ move ∈ moves, LearnsOwner owner move) := by
  refine ⟨?_, ?_, ?_⟩
  · intro before move after hmoves packet hsent
    subst hmoves
    refine sent_arrived rfl hrun howned ?_ hsent
    intro earlier hearlier
    exact List.mem_map_of_mem (List.mem_append_left _ hearlier)
  · intro hkeys move hmem
    exact learnsOwner_of_key (hrun.fires_of_mem hmem) (hkeys move hmem)
  · intro hlearns move hmem packet hsent
    have hlearnsHere := hlearns move hmem
    obtain ⟨before, after, rfl⟩ := List.append_of_mem hmem
    have hnew : MapsOwners owner
        (MediaWorker.new serverStates transcribing : MediaWorker σ).audioExtractor :=
      mapsOwners_new owner
    -- up to the step every SSRC was learned for its owner
    have hstep : ∀ earlier, (MediaWorker.loop acceptOffer).Fires earlier → earlier ∈ before →
        MapsOwners owner earlier.pre.audioExtractor →
        MapsOwners owner earlier.post.audioExtractor := by
      intro earlier hfires hearlier hpre
      have hmoves : earlier ∈ before ++ move :: after := List.mem_append_left _ hearlier
      exact mapsOwners_step hfires howned (List.mem_map_of_mem hmoves)
        (hlearns earlier hmoves) hpre
    have hpre : MapsOwners owner move.pre.audioExtractor :=
      Machine.Run.invariant_before (fun worker => MapsOwners owner worker.audioExtractor) hstep
        hrun (fun _ hearlier => hearlier) hnew
    exact key_of_sent (hrun.fires_of_mem hmem) hlearnsHere hpre hsent

/-- Endpoint `(1, 1)` is enabled and heard before `(1, 2)` is enabled and heard. -/
def heardInTurn : List LoopInput :=
  [.poll (some (.enableTranscription 1 1, false)), .drain,
    .read [⟨some (1, 1), ⟨5, 960, 1, 111, [8]⟩⟩], .poll none, .drain, .drain, .read [],
    .poll (some (.enableTranscription 1 2, false)), .drain,
    .read [⟨some (1, 2), ⟨9, 960, 1, 111, [9]⟩⟩], .poll none, .drain]

/-- Both endpoints are enabled before `(1, 1)` is heard. -/
def heardAfterBoth : List LoopInput :=
  [.poll (some (.enableTranscription 1 1, false)), .drain, .read [],
    .poll (some (.enableTranscription 1 2, false)), .drain,
    .read [⟨some (1, 1), ⟨5, 960, 1, 111, [8]⟩⟩], .poll none, .drain]

/-- SSRC `5` belongs to `(1, 1)`, every other one to `(1, 2)`. -/
def twoOwners (ssrc : UInt32) : SessionKey := if ssrc = 5 then (1, 1) else (1, 2)

theorem ownedBy_heardInTurn : OwnedBy twoOwners heardInTurn where
  arrivals := by simp [heardInTurn, arrivedIn, twoOwners]
  registrations := by simp [heardInTurn]

theorem ownedBy_heardAfterBoth : OwnedBy twoOwners heardAfterBoth where
  arrivals := by simp [heardAfterBoth, arrivedIn, twoOwners]
  registrations := by simp [heardAfterBoth]

theorem attribution_iff_learnsOwner_heardInTurn :
    ∃ moves final,
      (MediaWorker.loop MediaWorker.answerAll).exec (MediaWorker.new () true) heardInTurn =
        some (moves, final) ∧
      ((∀ move ∈ moves, ∀ packet, LoopOutput.sent (.audio packet) ∈ move.outputs →
          packet.key = twoOwners packet.ssrc) ↔
        ∀ move ∈ moves, LearnsOwner twoOwners move) := by
  have hexec : ∃ moves final,
      (MediaWorker.loop MediaWorker.answerAll).exec (MediaWorker.new () true) heardInTurn =
        some (moves, final) := ⟨_, _, rfl⟩
  obtain ⟨moves, final, hexec⟩ := hexec
  have howned : OwnedBy twoOwners (moves.map Transition.input) := by
    rw [Machine.exec_inputs hexec]
    exact ownedBy_heardInTurn
  exact ⟨moves, final, hexec,
    (attribution_iff_learnsOwner () true twoOwners (Machine.exec_run hexec) howned).2⟩

/-- When both endpoints are enabled before `(1, 1)` is heard, its speech is
attributed to `(1, 2)`. -/
theorem attributed_to_other_endpoint :
    ¬ ∀ owner moves final,
      (MediaWorker.loop MediaWorker.answerAll).Run (MediaWorker.new () true) moves final →
      OwnedBy owner (moves.map Transition.input) →
      ∀ move ∈ moves, ∀ packet, LoopOutput.sent (.audio packet) ∈ move.outputs →
        packet.key = owner packet.ssrc := by
  intro hattributes
  have hexec : ∃ moves final move,
      (MediaWorker.loop MediaWorker.answerAll).exec (MediaWorker.new () true) heardAfterBoth =
        some (moves, final) ∧
      moves[7]? = some move ∧ LoopOutput.sent (.audio ⟨1, 2, [8], 960, 5⟩) ∈ move.outputs :=
    ⟨_, _, _, rfl, rfl, List.mem_cons_self⟩
  obtain ⟨moves, final, move, hexec, hmove, hsent⟩ := hexec
  have howned : OwnedBy twoOwners (moves.map Transition.input) := by
    rw [Machine.exec_inputs hexec]
    exact ownedBy_heardAfterBoth
  have hkey := hattributes twoOwners moves final (Machine.exec_run hexec) howned move
    (List.mem_of_getElem? hmove) _ hsent
  have hother : (⟨1, 2, [8], 960, 5⟩ : AudioPacket).key ≠ twoOwners 5 := by decide
  exact hother hkey

end Signal
end MediaServer
