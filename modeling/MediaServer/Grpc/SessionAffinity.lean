import MediaServer.Grpc.Components

/-!
# Session affinity

Every handler computes the port of its session anew, from a map whose order may
differ each time.  Sorting makes the result a function of the session id alone,
`Deployment.portOf`, and the invariant of this file carries this through the
server: what a call is about to send, what lies in the channel of a media worker,
and what the extractor of that worker has learned all belong to sessions of its
own port.
-/

namespace MediaServer
namespace Transcription

open Foundation

/-- The session occurs nowhere in the state of the extractor. -/
structure RtpAudioExtractor.Avoids (extractor : RtpAudioExtractor) (sessionId : UInt64) :
    Prop where
  ssrcMap : ∀ ssrc endpointId, extractor.ssrcMap.get ssrc ≠ some (sessionId, endpointId)
  defaultSession : ∀ endpointId, extractor.defaultSession ≠ some (sessionId, endpointId)
  transcriptionSessions : ∀ endpointId,
    extractor.transcriptionSessions.containsKey (sessionId, endpointId) = false

end Transcription

namespace Signal

open Foundation Transcription

variable {extractor : RtpAudioExtractor} {sessionId : UInt64}

theorem avoids_new (sessionId : UInt64) : RtpAudioExtractor.new.Avoids sessionId where
  ssrcMap := by simp
  defaultSession := by simp
  transcriptionSessions := by simp [RtpAudioExtractor.new]

/-- A message teaches the extractor no session but the one it names. -/
theorem avoids_updateExtractor {request : SignalingProtocolMessage}
    (havoids : extractor.Avoids sessionId) (hother : request.key.1 ≠ sessionId) :
    (updateExtractor extractor request).Avoids sessionId := by
  obtain ⟨hmap, hdefault, hsessions⟩ := havoids
  cases request with
  | registerSsrc registered session endpoint =>
      refine ⟨fun ssrc endpointId hentry => ?_, hdefault, hsessions⟩
      have hinserted : (if ssrc = registered then some (session, endpoint)
          else extractor.ssrcMap.get ssrc) = some (sessionId, endpointId) := by
        simpa [updateExtractor] using hentry
      split at hinserted
      · exact hother (Prod.mk.inj (Option.some.inj hinserted)).1
      · exact hmap ssrc endpointId hinserted
  | enableTranscription session endpoint =>
      refine ⟨hmap, fun endpointId hset => ?_, fun endpointId => ?_⟩
      · have hids : (session, endpoint) = (sessionId, endpointId) := by
          simpa [updateExtractor] using hset
        exact hother (Prod.mk.inj hids).1
      · have hne : (sessionId, endpointId) ≠ (session, endpoint) := by
          intro hids
          exact hother (Prod.mk.inj hids).1.symm
        simp [updateExtractor, RtpAudioExtractor.enableTranscriptionForSession, hne,
          hsessions endpointId]
  | disableTranscription session endpoint =>
      refine ⟨hmap, hdefault, fun endpointId => ?_⟩
      simp [updateExtractor, RtpAudioExtractor.disableTranscriptionForSession,
        hsessions endpointId]
  | ok _ _ | err _ _ _ | offer _ _ _ | answer _ _ _ | leave _ _ =>
      exact ⟨hmap, hdefault, hsessions⟩

/-- Draining a packet touches nothing of the enabled sessions. -/
theorem transcriptionSessions_forwardAudio (extractor : RtpAudioExtractor)
    (info : AudioPacketInfo) :
    (forwardAudio extractor info).1.transcriptionSessions = extractor.transcriptionSessions := by
  unfold forwardAudio lookupSession
  cases extractor.ssrcMap.get info.ssrc with
  | some ids => by_cases hids : ids.1 = 0 <;> simp [hids]
  | none =>
      cases extractor.defaultSession with
      | some ids => by_cases hids : ids.1 = 0 <;> simp [hids]
      | none => simp

/-- A drained packet teaches the extractor a binding to its default session, which
it knew already. -/
theorem avoids_forwardAudio (info : AudioPacketInfo) (havoids : extractor.Avoids sessionId) :
    (forwardAudio extractor info).1.Avoids sessionId := by
  obtain ⟨hmap, hdefault, hsessions⟩ := havoids
  refine ⟨fun ssrc endpointId hentry => ?_, ?_, ?_⟩
  · rw [ssrcMap_forwardAudio] at hentry
    split at hentry
    · cases hmapped : extractor.ssrcMap.get ssrc with
      | some ids =>
          rw [label_of_mapped hmapped] at hentry
          exact hmap ssrc endpointId (hmapped.trans hentry)
      | none =>
          rw [label_of_unmapped hmapped] at hentry
          exact hdefault endpointId hentry
    · exact hmap ssrc endpointId hentry
  · rw [defaultSession_forwardAudio]
    exact hdefault
  · rw [transcriptionSessions_forwardAudio]
    exact hsessions

end Signal

namespace Grpc

open Foundation Signal Transcription

/-! ## What calls send -/

/-- The port to which a call sent its offer. -/
def CallPoint.offeredTo : CallPoint → Option UInt16
  | .offerAwaiting port | .offerAnswered port _ | .offerNotifying port _ => some port
  | _ => none

section Protocol

variable {portOf : UInt64 → Option UInt16} {channelOpen : Bool} {mediaOpen : UInt16 → Bool}
  {request : Request} {point after : CallPoint}

/-- A call stays with the port its offer went to, the port of its session. -/
theorem CallStep.offeredTo {effect : CallEffect} {port : UInt16}
    (hstep : CallStep portOf channelOpen mediaOpen request point effect after)
    (hpoint : ∀ port, point.offeredTo = some port → portOf request.key.1 = some port)
    (hafter : after.offeredTo = some port) : portOf request.key.1 = some port := by
  cases hstep with
  | offerSent request target hport =>
      obtain rfl : target = port := Option.some.inj hafter
      exact hport
  | offerReceived request target response => exact hpoint port hafter
  | offerStarted request target response _ _ => exact hpoint port hafter
  | _ => contradiction

/-- A message names the session of its call and goes to the port of that session. -/
theorem CallStep.message_port {message : SignalingProtocolMessage} {kept : Bool} {port : UInt16}
    (hstep : CallStep portOf channelOpen mediaOpen request point (.message port message kept)
      after)
    (hpoint : ∀ port, point.offeredTo = some port → portOf request.key.1 = some port) :
    portOf message.key.1 = some port := by
  cases hstep with
  | offerSent request _ hport => exact hport
  | leaveSent request _ hport => exact hport
  | enableNotified request _ hport => exact hport
  | disableNotified request _ hport => exact hport
  | offerNotified request _ response => exact hpoint port rfl

end Protocol

variable {σ δ : Type}

namespace Server

/-- A media worker has been sent, and has learned, nothing about the sessions of
other ports. -/
structure AffineThread (deployment : Deployment σ δ) (port : UInt16) (thread : MediaThread σ) :
    Prop where
  messages : ∀ message ∈ thread.rx.history, deployment.portOf message.request.key.1 = some port
  extractor : ∀ sessionId, deployment.portOf sessionId ≠ some port →
    thread.worker.audioExtractor.Avoids sessionId

/-- Everything about a session is where its port says. -/
structure Affine (deployment : Deployment σ δ) (server : Server σ δ) : Prop where
  calls : ∀ id request point, server.callAt id = some (request, point) →
    ∀ port, point.offeredTo = some port → deployment.portOf request.key.1 = some port
  threads : ∀ port thread, server.media.get port = some thread →
    AffineThread deployment port thread

theorem affine_new (deployment : Deployment σ δ) : Affine deployment (new deployment) where
  calls := by
    intro id request point hcall
    simp [callAt, new] at hcall
  threads := by
    intro port thread hthread
    obtain rfl := thread_of_new hthread
    exact ⟨by simp [MediaThread.new], fun sessionId _ => avoids_new sessionId⟩

variable {deployment : Deployment σ δ} {move : ServerMove σ δ}

/-- A call that moves stays with the port of its session. -/
theorem affine_calls (hfires : (machine deployment).Fires move)
    (haffine : Affine deployment move.pre) {id : Nat} {request : Request} {point : CallPoint}
    (hcall : move.post.callAt id = some (request, point)) (port : UInt16)
    (hport : point.offeredTo = some port) : deployment.portOf request.key.1 = some port := by
  rcases callAt_post_cases hfires hcall with ⟨rfl, -⟩ | ⟨before, effect, htakes⟩ | ⟨-, hbefore⟩
  · contradiction
  · exact htakes.callStep.offeredTo (haffine.calls id request before htakes.before) hport
  · exact haffine.calls id request point hbefore port hport

/-- The channel and the extractor of a media worker stay with the sessions of its
port. -/
theorem affineThread_step (haffine : Affine deployment move.pre) {port : UInt16}
    {thread after : MediaThread σ} (hstep : ThreadStep deployment move port thread after)
    (hthread : AffineThread deployment port thread) : AffineThread deployment port after := by
  obtain ⟨hmessages, hextractor⟩ := hthread
  cases hstep with
  | unchanged => exact ⟨hmessages, hextractor⟩
  | received id request point after message kept htakes hempty =>
      refine ⟨fun sent hsent => ?_, hextractor⟩
      rw [Fifo.history_push, List.mem_append, List.mem_singleton] at hsent
      rcases hsent with hearlier | rfl
      · exact hmessages sent hearlier
      · exact htakes.callStep.message_port (haffine.calls id request point htakes.before)
  | handled message rest worker hinput hrunning hpop hupdate htranscriber =>
      have hmem : message ∈ thread.rx.history :=
        List.mem_append_right _ (Fifo.mem_waiting_of_pop hpop)
      constructor
      · rw [Fifo.history_pop hpop]
        exact hmessages
      · intro sessionId hport
        have hother : message.request.key.1 ≠ sessionId := by
          rintro rfl
          exact hport (hmessages message hmem)
        rw [hupdate]
        exact avoids_updateExtractor (hextractor sessionId hport) hother
  | continued input worker hinput hrunning hpoll hcontinued =>
      refine ⟨hmessages, fun sessionId hport => ?_⟩
      rcases hcontinued with hsame | ⟨info, hforward⟩
      · rw [hsame]
        exact hextractor sessionId hport
      · rw [hforward]
        exact avoids_forwardAudio info (hextractor sessionId hport)
  | stopped hinput => exact ⟨hmessages, hextractor⟩

theorem affine_fires (hfires : (machine deployment).Fires move)
    (haffine : Affine deployment move.pre) : Affine deployment move.post where
  calls _ _ _ hcall := affine_calls hfires haffine hcall
  threads := forall_thread_post hfires haffine.threads
    fun _ _ _ _ hstep hthread => affineThread_step haffine hstep hthread

theorem affine_run {final : Server σ δ} {moves : List (ServerMove σ δ)}
    (hrun : (machine deployment).Run (new deployment) moves final) : Affine deployment final :=
  hrun.invariant (Affine deployment) (fun _ hfires haffine => affine_fires hfires haffine)
    (affine_new deployment)

/-! ## One worker for each session -/

/-- The next thing some call would do, under some order of the ports, is to send the
message to the port. -/
structure Addresses (deployment : Deployment σ δ) (server : Server σ δ) (port : UInt16)
    (message : SignalingProtocolMessage) : Prop where
  call : ∃ call ∈ server.calls, ∃ keys, keys.Perm deployment.ports ∧
    ∃ kept sent failed absent,
      SignalingSvc.action (.main deployment.enableTranscription) keys call.request call.point =
        some (.message port message kept sent failed absent)

theorem addresses_port {server : Server σ δ} (haffine : Affine deployment server)
    {port : UInt16} {message : SignalingProtocolMessage}
    (haddresses : Addresses deployment server port message) :
    deployment.portOf message.key.1 = some port := by
  obtain ⟨call, hmem, keys, hkeys, kept, sent, failed, absent, haction⟩ := haddresses.call
  obtain ⟨id, hget⟩ := List.mem_iff_getElem?.mp hmem
  have hcall : server.callAt id = some (call.request, call.point) := by
    unfold callAt
    rw [hget, Option.map_some]
  -- the choice of the port looks at no channel
  have hfollows : Follows (pickPort deployment.ports) false (fun _ => false) call.request
      call.point (.message port message kept sent failed absent) :=
    follows_action (by simp) hkeys haction
  exact hfollows.1.message_port (haffine.calls id call.request call.point hcall)

/-- The index of a port is in range, in whatever order the ports are listed. -/
theorem index_in_range {keys ports : List UInt16} (hkeys : keys.Perm ports) (hports : ports ≠ [])
    (sessionId : UInt64) :
    ∃ hindex : sessionId.toNat % (keys.insertionSort (· ≤ ·)).length <
        (keys.insertionSort (· ≤ ·)).length,
      pickPort keys sessionId = some (keys.insertionSort (· ≤ ·))[
        sessionId.toNat % (keys.insertionSort (· ≤ ·)).length] := by
  have hnonempty : keys ≠ [] := by
    rintro rfl
    exact hports hkeys.symm.eq_nil
  have hindex : sessionId.toNat % (keys.insertionSort (· ≤ ·)).length <
      (keys.insertionSort (· ≤ ·)).length := by
    apply Nat.mod_lt
    rw [List.length_insertionSort]
    exact List.length_pos_of_ne_nil hnonempty
  refine ⟨hindex, ?_⟩
  unfold pickPort
  rw [if_neg hnonempty]
  exact List.getElem?_eq_getElem hindex

/-- The thread of a port stays. -/
theorem thread_of_run {final : Server σ δ} {moves : List (ServerMove σ δ)}
    (hrun : (machine deployment).Run (new deployment) moves final) {port : UInt16}
    (hport : port ∈ deployment.ports) : ∃ thread, final.media.get port = some thread := by
  refine hrun.invariant (fun server => ∃ thread, server.media.get port = some thread) ?_ ?_
  · rintro move hfires ⟨thread, hthread⟩
    obtain ⟨after, hafter, -⟩ := threadStep_of_fires hfires hthread
    exact ⟨after, hafter⟩
  · exact ⟨MediaThread.new deployment port, by rw [media_new, if_pos hport]⟩

/-- Every session has its media worker: in every run all messages that name the
session are addressed and sent to this worker, and no other worker ever knows the
session. -/
theorem session_affinity (deployment : Deployment σ δ) (hports : deployment.ports ≠ []) :
    (∀ keys : List UInt16, keys.Perm deployment.ports → ∀ sessionId : UInt64,
      ∃ hindex : sessionId.toNat % (keys.insertionSort (· ≤ ·)).length <
          (keys.insertionSort (· ≤ ·)).length,
        pickPort keys sessionId = some (keys.insertionSort (· ≤ ·))[
          sessionId.toNat % (keys.insertionSort (· ≤ ·)).length]) ∧
    ∀ sessionId, ∃ port ∈ deployment.ports, ∀ moves final,
      (machine deployment).Run (new deployment) moves final →
        (∃ thread, final.media.get port = some thread) ∧
        (∀ target message, Addresses deployment final target message →
          message.key.1 = sessionId → target = port) ∧
        ∀ target thread, final.media.get target = some thread →
          (∀ message ∈ thread.rx.history, message.request.key.1 = sessionId → target = port) ∧
          (target ≠ port → thread.worker.audioExtractor.Avoids sessionId) := by
  refine ⟨fun keys hkeys sessionId => index_in_range hkeys hports sessionId, fun sessionId => ?_⟩
  cases hport : deployment.portOf sessionId with
  | none => exact absurd (pickPort_eq_none_iff.mp hport) hports
  | some port =>
      refine ⟨port, pickPort_mem hport, fun moves final hrun => ?_⟩
      have haffine := affine_run hrun
      -- what names the session has its port
      have hsame : ∀ {named target}, deployment.portOf named = some target →
          named = sessionId → target = port := by
        rintro named target htarget rfl
        exact Option.some.inj (htarget.symm.trans hport)
      refine ⟨thread_of_run hrun (pickPort_mem hport), ?_, ?_⟩
      · intro target message haddresses
        exact hsame (addresses_port haffine haddresses)
      · intro target thread hthread
        have haffineThread := haffine.threads target thread hthread
        refine ⟨fun message hmem => hsame (haffineThread.messages message hmem), fun hne => ?_⟩
        apply haffineThread.extractor
        rw [hport]
        exact fun hboth => hne (Option.some.inj hboth).symm

/-- Two workers, listed in the order opposite to that of their ports. -/
def twoWorkers : Deployment Unit Unit :=
  { Deployment.single with
    ports := [3479, 3478]
    ports_nodup := by decide }

/-- Session 5 is enabled and left again, with the ports listed differently each
time. -/
def enabledThenLeft : List ServerInput :=
  [.arrive (.enableTranscription ⟨5, 1, "", "", "", "", ""⟩),
    .advance 0 [3478, 3479] .allSucceed, .advance 0 [3478, 3479] .allSucceed,
    .media 3479 .poll, .media 3479 .drain, .media 3479 (.read []),
    .arrive (.leave ⟨5, 1⟩), .advance 1 [3479, 3478] .allSucceed,
    .advance 1 [3479, 3478] .allSucceed]

theorem session_affinity_enabledThenLeft :
    ∃ moves final own other,
      (machine twoWorkers).exec (new twoWorkers) enabledThenLeft = some (moves, final) ∧
      final.media.get 3479 = some own ∧ final.media.get 3478 = some other ∧
      own.rx.history.map (fun message => message.request) =
        [.enableTranscription 5 1, .leave 5 1] ∧
      own.worker.audioExtractor.defaultSession = some (5, 1) ∧
      other.worker.audioExtractor.Avoids 5 := by
  have hexec : ∃ moves final own other,
      (machine twoWorkers).exec (new twoWorkers) enabledThenLeft = some (moves, final) ∧
      final.media.get 3479 = some own ∧ final.media.get 3478 = some other ∧
      own.rx.history.map (fun message => message.request) =
        [.enableTranscription 5 1, .leave 5 1] ∧
      own.worker.audioExtractor.defaultSession = some (5, 1) :=
    ⟨_, _, _, _, rfl, rfl, rfl, rfl, rfl⟩
  obtain ⟨moves, final, own, other, hexec, hown, hother, hhistory, hdefault⟩ := hexec
  refine ⟨moves, final, own, other, hexec, hown, hother, hhistory, hdefault, ?_⟩
  obtain ⟨port, -, hworker⟩ := (session_affinity twoWorkers (by decide)).2 5
  obtain ⟨-, -, hthreads⟩ := hworker moves final (Machine.exec_run hexec)
  -- the leave went to the worker of the session
  obtain rfl : 3479 = port := by
    have hmem : SignalingProtocolMessage.leave 5 1 ∈
        own.rx.history.map (fun message => message.request) := by
      rw [hhistory]
      decide
    obtain ⟨message, hsent, hleave⟩ := List.mem_map.mp hmem
    exact (hthreads 3479 own hown).1 message hsent (by rw [hleave]; rfl)
  exact (hthreads 3478 other hother).2 (by decide)

end Server
end Grpc
end MediaServer
