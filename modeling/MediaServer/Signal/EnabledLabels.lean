import MediaServer.Signal.AudioRouter

/-!
# When forwarded audio belongs to an enabled endpoint

Disabling an endpoint removes it from `transcription_sessions` only.  The drain
loop never reads that map: it labels packets from the SSRC map and from the
default session, and both outlive the flag.  So audio of a disabled endpoint is
forwarded whenever one of the two still names it.  This file determines the
steps that bring such a state about, and shows that a run without them only
forwards audio of enabled endpoints.
-/

namespace MediaServer
namespace Signal

open Foundation Transcription

variable {σ : Type} {acceptOffer : AcceptOffer σ}

/-- The condition on a step: it does not disable an endpoint that packets are
still credited to, and it registers no SSRC for an endpoint that is not enabled.
Session `0` is exempt, nothing is forwarded for it. -/
def KeepsCreditedEnabled (move : LoopMove σ) : Prop :=
  match routerEvent move with
  | .handled (.disableTranscription sessionId endpointId) =>
      sessionId = 0 ∨ ¬ Credits move.pre.audioExtractor (sessionId, endpointId)
  | .handled (.registerSsrc _ sessionId endpointId) =>
      sessionId = 0 ∨
        move.pre.audioExtractor.isTranscriptionEnabled sessionId endpointId = true
  | _ => True

/-- The invariant: whatever packet comes next, it would be forwarded under the
label of an enabled endpoint. -/
def ForwardsEnabled (extractor : RtpAudioExtractor) : Prop :=
  ∀ info packet, (forwardAudio extractor info).2 = some (.audio packet) →
    extractor.isTranscriptionEnabled packet.sessionId packet.endpointId = true

/-- The invariant in terms of labels. -/
theorem forwardsEnabled_iff {extractor : RtpAudioExtractor} :
    ForwardsEnabled extractor ↔
      ∀ ids, Credits extractor ids → ids.1 ≠ 0 →
        extractor.isTranscriptionEnabled ids.1 ids.2 = true := by
  constructor
  · rintro hforwards ids ⟨ssrc, hlabel⟩ hids
    let info : AudioPacketInfo := ⟨ssrc, 0, 0, 0, []⟩
    have hsent : (forwardAudio extractor info).2 = some (.audio (audioPacket ids info)) :=
      forwardAudio_eq_some_iff.mpr ⟨ids, hlabel, hids, rfl⟩
    exact hforwards info (audioPacket ids info) hsent
  · intro hcredited info packet hsent
    obtain ⟨ids, hlabel, hids, hpacket⟩ := forwardAudio_eq_some_iff.mp hsent
    obtain rfl : packet = audioPacket ids info := by simpa using hpacket
    exact hcredited ids ⟨info.ssrc, hlabel⟩ hids

theorem forwardsEnabled_new : ForwardsEnabled RtpAudioExtractor.new := by
  rw [forwardsEnabled_iff]
  rintro ids ⟨ssrc, hlabel⟩
  simp [label] at hlabel

/-- Every step that meets the condition keeps the invariant. -/
theorem forwardsEnabled_step {move : LoopMove σ}
    (hfires : (MediaWorker.loop acceptOffer).Fires move) (hkeeps : KeepsCreditedEnabled move)
    (hpre : ForwardsEnabled move.pre.audioExtractor) :
    ForwardsEnabled move.post.audioExtractor := by
  rw [fires_audioExtractor hfires]
  rw [forwardsEnabled_iff] at hpre ⊢
  unfold KeepsCreditedEnabled at hkeeps
  intro ids hcredits hids
  cases hevent : routerEvent move with
  | quiet =>
      rw [hevent] at hcredits
      exact hpre ids hcredits hids
  | drained info =>
      rw [hevent] at hcredits
      obtain ⟨ssrc, hlabel⟩ := hcredits
      simp only [routerStep] at hlabel ⊢
      rw [isTranscriptionEnabled_forwardAudio]
      rw [label_forwardAudio] at hlabel
      exact hpre ids ⟨ssrc, hlabel⟩ hids
  | handled request =>
      rw [hevent] at hcredits hkeeps
      simp only [routerStep] at hcredits ⊢
      cases request with
      | ok _ _ | err _ _ _ | offer _ _ _ | answer _ _ _ | leave _ _ =>
          exact hpre ids hcredits hids
      | enableTranscription sessionId endpointId =>
          simp only [updateExtractor, RtpAudioExtractor.isTranscriptionEnabled_enable,
            Bool.or_eq_true, decide_eq_true_eq] at hcredits ⊢
          rcases credits_of_enable hcredits with hself | hbefore
          · exact .inl hself
          · exact .inr (hpre ids hbefore hids)
      | disableTranscription sessionId endpointId =>
          simp only [updateExtractor, RtpAudioExtractor.isTranscriptionEnabled_disable,
            Bool.and_eq_true, Bool.not_eq_true', decide_eq_false_iff_not] at hcredits ⊢
          have hbefore : Credits move.pre.audioExtractor ids := hcredits
          refine ⟨?_, hpre ids hbefore hids⟩
          intro hself
          obtain rfl : ids = (sessionId, endpointId) := hself
          rcases hkeeps with hzero | hfree
          · exact hids hzero
          · exact hfree hbefore
      | registerSsrc ssrc sessionId endpointId =>
          simp only [updateExtractor,
            RtpAudioExtractor.isTranscriptionEnabled_registerSsrc] at hcredits ⊢
          rcases credits_of_registerSsrc hcredits with rfl | hbefore
          · rcases hkeeps with hzero | henabled
            · exact absurd hzero hids
            · exact henabled
          · exact hpre ids hbefore hids

/-- A step that does not meet the condition leaves the invariant broken. -/
theorem not_forwardsEnabled_of_not_keeps {move : LoopMove σ}
    (hfires : (MediaWorker.loop acceptOffer).Fires move)
    (hbreaks : ¬ KeepsCreditedEnabled move) : ¬ ForwardsEnabled move.post.audioExtractor := by
  rw [fires_audioExtractor hfires, forwardsEnabled_iff]
  unfold KeepsCreditedEnabled at hbreaks
  intro hcredited
  cases hevent : routerEvent move with
  | quiet => simp [hevent] at hbreaks
  | drained info => simp [hevent] at hbreaks
  | handled request =>
      rw [hevent] at hbreaks hcredited
      simp only [routerStep] at hcredited
      cases request with
      | ok _ _ | err _ _ _ | offer _ _ _ | answer _ _ _ | leave _ _ => simp at hbreaks
      | enableTranscription _ _ => simp at hbreaks
      | disableTranscription sessionId endpointId =>
          simp only [not_or, not_not] at hbreaks
          obtain ⟨hids, hbefore⟩ := hbreaks
          have henabled := hcredited (sessionId, endpointId) hbefore hids
          simp [updateExtractor] at henabled
      | registerSsrc ssrc sessionId endpointId =>
          simp only [not_or] at hbreaks
          obtain ⟨hids, hdisabled⟩ := hbreaks
          have hlabel : label (move.pre.audioExtractor.registerSsrc ssrc sessionId endpointId)
              ssrc = some (sessionId, endpointId) := by
            simp [label]
          exact hdisabled (hcredited (sessionId, endpointId) ⟨ssrc, hlabel⟩ hids)

/-- A run from a fresh worker keeps every packet that could come next credited
to an enabled endpoint exactly when no step of it disables an endpoint packets
are still credited to or registers an SSRC for an endpoint that is not enabled.
In such a run all audio sent is labelled with an endpoint enabled at the moment
of sending. -/
theorem audio_enabled_iff_keeps (serverStates : σ) (transcribing : Bool)
    {moves : List (LoopMove σ)} {final : MediaWorker σ}
    (hrun : (MediaWorker.loop acceptOffer).Run (MediaWorker.new serverStates transcribing)
      moves final) :
    ((∀ move ∈ moves, ForwardsEnabled move.post.audioExtractor) ↔
      ∀ move ∈ moves, KeepsCreditedEnabled move) ∧
    ((∀ move ∈ moves, KeepsCreditedEnabled move) →
      ∀ move ∈ moves, ∀ packet, LoopOutput.sent (.audio packet) ∈ move.outputs →
        move.pre.audioExtractor.isTranscriptionEnabled packet.sessionId packet.endpointId =
          true) := by
  -- before every step of a run that meets the condition the invariant holds
  have hbefore : (∀ move ∈ moves, KeepsCreditedEnabled move) →
      ∀ move ∈ moves, ForwardsEnabled move.pre.audioExtractor := by
    intro hkeeps move hmem
    obtain ⟨earlier, later, rfl⟩ := List.append_of_mem hmem
    have hnew : ForwardsEnabled
        (MediaWorker.new serverStates transcribing : MediaWorker σ).audioExtractor :=
      forwardsEnabled_new
    exact Machine.Run.invariant_before (fun worker => ForwardsEnabled worker.audioExtractor)
      (fun move hfires hmove hpre => forwardsEnabled_step hfires hmove hpre) hrun
      (fun move hmove => hkeeps move (List.mem_append_left _ hmove)) hnew
  refine ⟨⟨?_, ?_⟩, ?_⟩
  · intro hforwards move hmem
    by_contra hbreaks
    exact not_forwardsEnabled_of_not_keeps (hrun.fires_of_mem hmem) hbreaks
      (hforwards move hmem)
  · intro hkeeps move hmem
    exact forwardsEnabled_step (hrun.fires_of_mem hmem) (hkeeps move hmem)
      (hbefore hkeeps move hmem)
  · intro hkeeps move hmem packet hsent
    obtain ⟨info, ids, -, hlabel, hids, hpacket⟩ := fires_sent (hrun.fires_of_mem hmem) hsent
    exact hbefore hkeeps move hmem info packet
      (forwardAudio_eq_some_iff.mpr ⟨ids, hlabel, hids, hpacket⟩)

/-- Endpoint `(7, 1)` is enabled and then heard. -/
def enabledAndHeard : List LoopInput :=
  [.poll (some (.enableTranscription 7 1, false)), .drain,
    .read [⟨some (7, 1), ⟨9, 960, 2, 111, [8]⟩⟩], .poll none, .drain]

/-- The packet is sent, and its endpoint is enabled when it is. -/
theorem audio_enabled_iff_keeps_enabledAndHeard :
    ∃ moves final,
      (MediaWorker.loop MediaWorker.answerAll).exec (MediaWorker.new () true) enabledAndHeard =
        some (moves, final) ∧
      (moves.flatMap fun move => sentCommands move.outputs) = [.audio ⟨7, 1, [8], 960, 9⟩] ∧
      (∀ move ∈ moves, ForwardsEnabled move.post.audioExtractor) ∧
      ∀ move ∈ moves, ∀ packet, LoopOutput.sent (.audio packet) ∈ move.outputs →
        move.pre.audioExtractor.isTranscriptionEnabled packet.sessionId packet.endpointId =
          true := by
  have hexec : ∃ moves final,
      (MediaWorker.loop MediaWorker.answerAll).exec (MediaWorker.new () true) enabledAndHeard =
        some (moves, final) ∧
      (moves.flatMap fun move => sentCommands move.outputs) = [.audio ⟨7, 1, [8], 960, 9⟩] :=
    ⟨_, _, rfl, rfl⟩
  obtain ⟨moves, final, hexec, hsent⟩ := hexec
  -- no step of it disables an endpoint or registers an SSRC
  have hkeeps : ∀ move ∈ moves, KeepsCreditedEnabled move := by
    intro move hmem
    have hinput : ∀ request responds, move.input = .poll (some (request, responds)) →
        request = .enableTranscription 7 1 :=
      Machine.forall_input_of_exec (fun input => ∀ request responds,
        input = .poll (some (request, responds)) → request = .enableTranscription 7 1) hexec
        (by simp [enabledAndHeard]) move hmem
    unfold KeepsCreditedEnabled
    cases hevent : routerEvent move with
    | quiet => trivial
    | drained info => trivial
    | handled request =>
        obtain ⟨responds, hpoll⟩ := routerEvent_eq_handled_iff.mp hevent
        rw [hinput request responds hpoll]
        trivial
  have hiff := audio_enabled_iff_keeps () true (Machine.exec_run hexec)
  exact ⟨moves, final, hexec, hsent, hiff.1.mpr hkeeps, hiff.2 hkeeps⟩

/-- Endpoint `(7, 1)` is enabled, a packet arrives, and the endpoint is disabled
before the packet is drained. -/
def disabledBeforeDrain : List LoopInput :=
  [.poll (some (.enableTranscription 7 1, false)), .drain,
    .read [⟨some (7, 1), ⟨9, 960, 2, 111, [8]⟩⟩],
    .poll (some (.disableTranscription 7 1, false)), .drain]

/-- The packet is sent under the label of the disabled endpoint. -/
theorem audio_sent_after_disable :
    ¬ ∀ moves final,
      (MediaWorker.loop MediaWorker.answerAll).Run (MediaWorker.new () true) moves final →
      ∀ move ∈ moves, ∀ packet, LoopOutput.sent (.audio packet) ∈ move.outputs →
        move.pre.audioExtractor.isTranscriptionEnabled packet.sessionId packet.endpointId =
          true := by
  intro henables
  have hexec : ∃ moves final move,
      (MediaWorker.loop MediaWorker.answerAll).exec (MediaWorker.new () true)
        disabledBeforeDrain = some (moves, final) ∧
      -- the fifth step drains the packet
      moves[4]? = some move ∧
      LoopOutput.sent (.audio ⟨7, 1, [8], 960, 9⟩) ∈ move.outputs ∧
      move.pre.audioExtractor.isTranscriptionEnabled 7 1 = false :=
    ⟨_, _, _, rfl, rfl, List.mem_cons_self, rfl⟩
  obtain ⟨moves, final, move, hrun, hmove, hsent, hdisabled⟩ := hexec
  have henabled := henables moves final (Machine.exec_run hrun) move
    (List.mem_of_getElem? hmove) _ hsent
  rw [hdisabled] at henabled
  contradiction

end Signal
end MediaServer
