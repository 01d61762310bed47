import MediaServer.Foundation.Log
import MediaServer.Grpc.CommandQueue

/-!
# No audio before its session was requested

Audio of an endpoint can be labelled with it only after the media worker has
handled a message enabling it, and a call sends that message only after it has
sent the start of the session.  The two go through different channels, so the
invariant follows the request on its whole way: to the calls about to notify a
worker, to the messages waiting in the workers' channels, to the endpoints the
workers credit packets to, and from there into the history of the command
channel.
-/

namespace MediaServer
namespace Grpc

open Foundation Signal Transcription

/-- The command starts a session of the key. -/
def StartOf (command : TranscriptionCommand) (key : SessionKey) : Prop :=
  ∃ config, command = .startSession key.1 key.2 config

/-- The command is audio labelled with the key. -/
def AudioOf (command : TranscriptionCommand) (key : SessionKey) : Prop :=
  ∃ packet, command = .audio packet ∧ packet.key = key

variable {σ δ : Type}

namespace Server

/-- A session of the key has been requested. -/
def StartRequested (server : Server σ δ) (key : SessionKey) : Prop :=
  ∃ command ∈ server.transcriber.commands.history, StartOf command key

/-- What a media worker with its channel may know of endpoints: only such as
have been requested. -/
structure ThreadRequested (requested : SessionKey → Prop) (thread : MediaThread σ) : Prop where
  waiting : ∀ message ∈ thread.rx.waiting, ∀ sessionId endpointId,
    message.request = .enableTranscription sessionId endpointId →
      requested (sessionId, endpointId)
  unregistered : ∀ message ∈ thread.rx.waiting, ∀ ssrc sessionId endpointId,
    message.request ≠ .registerSsrc ssrc sessionId endpointId
  credited : ∀ ids, Credits thread.worker.audioExtractor ids → requested ids

/-- The invariant: wherever an endpoint has got to, its session was requested. -/
structure RequestedFirst (server : Server σ δ) : Prop where
  notifying : ∀ id request point, server.callAt id = some (request, point) → Notifies point →
    server.StartRequested request.key
  threads : ∀ port thread, server.media.get port = some thread →
    ThreadRequested server.StartRequested thread
  history : Log.Preceded StartOf AudioOf server.transcriber.commands.history

theorem ThreadRequested.mono {requested later : SessionKey → Prop} {thread : MediaThread σ}
    (hthread : ThreadRequested requested thread) (hmono : ∀ key, requested key → later key) :
    ThreadRequested later thread where
  waiting := fun message hmem sessionId endpointId hrequest =>
    hmono _ (hthread.waiting message hmem sessionId endpointId hrequest)
  unregistered := hthread.unregistered
  credited := fun ids hcredits => hmono _ (hthread.credited ids hcredits)

variable {deployment : Deployment σ δ} {move : ServerMove σ δ}

theorem requestedFirst_new : RequestedFirst (new deployment) where
  notifying := by
    intro id request point hcall
    simp [callAt, new] at hcall
  threads := by
    intro port thread hthread
    obtain rfl := thread_of_new hthread
    refine ⟨by simp [MediaThread.new], by simp [MediaThread.new], ?_⟩
    rintro ids ⟨ssrc, hlabel⟩
    simp [label, MediaThread.new, MediaWorker.new] at hlabel
  history := Log.preceded_nil

/-- Handling a message credits only endpoints that were credited before or that the
message enables. -/
theorem credits_of_update {extractor : RtpAudioExtractor} {request : SignalingProtocolMessage}
    {ids : SessionKey}
    (hunregistered : ∀ ssrc sessionId endpointId,
      request ≠ .registerSsrc ssrc sessionId endpointId)
    (hcredits : Credits (updateExtractor extractor request) ids) :
    request = .enableTranscription ids.1 ids.2 ∨ Credits extractor ids := by
  cases request with
  | enableTranscription sessionId endpointId =>
      rcases credits_of_enable hcredits with rfl | hbefore
      · exact .inl rfl
      · exact .inr hbefore
  | registerSsrc ssrc sessionId endpointId =>
      exact absurd rfl (hunregistered ssrc sessionId endpointId)
  | disableTranscription sessionId endpointId => exact .inr hcredits
  | ok _ _ | err _ _ _ | offer _ _ _ | answer _ _ _ | leave _ _ => exact .inr hcredits

/-- What has been requested stays requested. -/
theorem startRequested_fires (hfires : (machine deployment).Fires move) {key : SessionKey}
    (hrequested : move.pre.StartRequested key) : move.post.StartRequested key := by
  obtain ⟨added, hhistory⟩ := fires_history hfires
  obtain ⟨start, hmem, hstart⟩ := hrequested
  refine ⟨start, ?_, hstart⟩
  rw [hhistory]
  exact List.mem_append_left _ hmem

/-- A call about to notify a media worker has sent its start. -/
theorem notifying_step (hfires : (machine deployment).Fires move)
    (hfirst : RequestedFirst move.pre) {id : Nat} {request : Request} {point : CallPoint}
    (hcall : move.post.callAt id = some (request, point)) (hnotifies : Notifies point) :
    move.post.StartRequested request.key := by
  rcases callAt_post_cases hfires hcall with ⟨rfl, -⟩ | ⟨before, effect, htakes⟩ | ⟨-, hbefore⟩
  · simp [Notifies] at hnotifies
  · cases effect with
    | quiet => exact absurd hnotifies htakes.callStep.not_notifies_of_quiet
    | message port message kept => exact absurd hnotifies htakes.callStep.message_cases.1
    | command command =>
        rcases htakes.callStep.command_cases with ⟨-, config, rfl⟩ | ⟨hnot, -⟩
        · refine ⟨_, ?_, config, rfl⟩
          rw [htakes.affects.2.2, Fifo.history_push]
          exact List.mem_append_right _ List.mem_cons_self
        · rcases hnot with rfl | rfl <;> simp [Notifies] at hnotifies
  · exact startRequested_fires hfires (hfirst.notifying id request point hbefore hnotifies)

/-- A thread learns of endpoints only from calls about to notify it. -/
theorem threadRequested_step (hfires : (machine deployment).Fires move)
    (hfirst : RequestedFirst move.pre) {port : UInt16} {thread after : MediaThread σ}
    (hthread : move.pre.media.get port = some thread)
    (hstep : ThreadStep deployment move port thread after) :
    ThreadRequested move.post.StartRequested after := by
  have hbefore : ThreadRequested move.post.StartRequested thread :=
    (hfirst.threads port thread hthread).mono fun _ => startRequested_fires hfires
  cases hstep with
  | unchanged => exact hbefore
  | received id request point after message kept htakes hempty =>
      obtain ⟨-, hmessage⟩ := htakes.callStep.message_cases
      refine ⟨?_, ?_, hbefore.credited⟩
      · intro waiting hwaiting sessionId endpointId hrequest
        rw [Fifo.waiting_push, hempty, List.nil_append] at hwaiting
        obtain rfl := List.mem_singleton.mp hwaiting
        dsimp only at hrequest
        subst hrequest
        rcases hmessage with ⟨_, hmessage⟩ | ⟨hmessage, -⟩ | ⟨hmessage, hnotifies⟩ |
          ⟨hmessage, -⟩ <;> simp at hmessage
        obtain ⟨rfl, rfl⟩ := hmessage
        exact startRequested_fires hfires
          (hfirst.notifying id request point htakes.before hnotifies)
      · intro waiting hwaiting ssrc sessionId endpointId hrequest
        rw [Fifo.waiting_push, hempty, List.nil_append] at hwaiting
        obtain rfl := List.mem_singleton.mp hwaiting
        dsimp only at hrequest
        subst hrequest
        rcases hmessage with ⟨_, hmessage⟩ | ⟨hmessage, -⟩ | ⟨hmessage, -⟩ |
          ⟨hmessage, -⟩ <;> simp at hmessage
  | handled message rest worker hinput hrunning hpop hextractor htranscriber =>
      have hhead : message ∈ thread.rx.waiting := Fifo.mem_waiting_of_pop hpop
      have htail : ∀ waiting ∈ rest.waiting, waiting ∈ thread.rx.waiting :=
        fun waiting hwaiting => Fifo.mem_waiting_of_mem_pop hpop hwaiting
      refine ⟨fun waiting hwaiting => hbefore.waiting waiting (htail waiting hwaiting),
        fun waiting hwaiting => hbefore.unregistered waiting (htail waiting hwaiting), ?_⟩
      intro ids hcredits
      dsimp only at hcredits
      rw [hextractor] at hcredits
      rcases credits_of_update (hbefore.unregistered message hhead) hcredits with
        hrequest | hcredited
      · exact hbefore.waiting message hhead ids.1 ids.2 hrequest
      · exact hbefore.credited ids hcredited
  | continued input worker hinput hrunning hpoll hextractor =>
      refine ⟨hbefore.waiting, hbefore.unregistered, ?_⟩
      intro ids hcredits
      dsimp only at hcredits
      rcases hextractor with hsame | ⟨info, hforward⟩
      · rw [hsame] at hcredits
        exact hbefore.credited ids hcredits
      · rw [hforward] at hcredits
        exact hbefore.credited ids (credits_of_forwardAudio hcredits)
  | stopped hinput => exact ⟨hbefore.waiting, hbefore.unregistered, hbefore.credited⟩

/-- The channel gets audio only of endpoints with a start in its history. -/
theorem preceded_step (hfires : (machine deployment).Fires move)
    (hfirst : RequestedFirst move.pre) :
    Log.Preceded StartOf AudioOf move.post.transcriber.commands.history := by
  have hstep := transcriberStep_of_fires hfires
  generalize move.post.transcriber = after at hstep ⊢
  cases hstep with
  | unchanged hinput => exact hfirst.history
  | commanded id request point after command htakes hrunning =>
      dsimp only
      rw [Fifo.history_push]
      apply hfirst.history.concat
      rintro key ⟨packet, rfl, -⟩
      rcases htakes.callStep.command_cases with ⟨-, config, hcommand⟩ | ⟨-, hcommand⟩ <;>
        simp at hcommand
  | forwarded port thread info command hinput hthread hsent =>
      dsimp only
      rw [Fifo.history_push]
      apply hfirst.history.concat
      rintro key ⟨packet, rfl, rfl⟩
      obtain ⟨ids, hlabel, -, hpacket⟩ := forwardAudio_eq_some_iff.mp hsent
      obtain rfl : packet = audioPacket ids info := by simpa using hpacket
      exact (hfirst.threads port thread hthread).credited ids ⟨info.ssrc, hlabel⟩
  | processed env command commands hinput hrunning hpop =>
      dsimp only
      rw [Fifo.history_pop hpop]
      exact hfirst.history

/-- Every step keeps the invariant. -/
theorem requestedFirst_step (hfires : (machine deployment).Fires move)
    (hfirst : RequestedFirst move.pre) : RequestedFirst move.post where
  notifying := fun _ _ _ hcall hnotifies => notifying_step hfires hfirst hcall hnotifies
  threads := forall_thread_post hfires hfirst.threads
    fun _ _ _ hthread hstep _ => threadRequested_step hfires hfirst hthread hstep
  history := preceded_step hfires hfirst

/-- In every state reached from the start, whatever the interleaving, every
audio command in the history of the command channel is preceded in it by a start
of the session of its label. -/
theorem start_precedes_audio {moves : List (ServerMove σ δ)} {final : Server σ δ}
    (hrun : (machine deployment).Run (new deployment) moves final) :
    ∀ before packet after,
      final.transcriber.commands.history = before ++ .audio packet :: after →
      ∃ config, .startSession packet.sessionId packet.endpointId config ∈ before := by
  have hfirst : RequestedFirst final :=
    hrun.invariant RequestedFirst
      (fun _ hfires hpre => requestedFirst_step hfires hpre)
      requestedFirst_new
  intro before packet after hhistory
  obtain ⟨start, hmem, config, rfl⟩ :=
    hfirst.history before (.audio packet) after packet.key hhistory ⟨packet, rfl, rfl⟩
  exact ⟨config, hmem⟩

/-- Endpoint `(1, 2)` is enabled and then heard. -/
def enabledThenHeard : List ServerInput :=
  [.arrive (.enableTranscription ⟨1, 2, "", "", "", "", ""⟩), .advance 0 [3478] .allSucceed,
    .advance 0 [3478] .allSucceed, .media 3478 .poll, .media 3478 .drain,
    .media 3478 (.read [⟨some (1, 2), ⟨9, 960, 2, 111, [8]⟩⟩]), .media 3478 .poll,
    .media 3478 .drain]

theorem start_precedes_audio_enabledThenHeard :
    ∃ moves final,
      (machine .single).exec (new .single) enabledThenHeard = some (moves, final) ∧
      final.transcriber.commands.history =
        [.startSession 1 2 none] ++ .audio ⟨1, 2, [8], 960, 9⟩ :: [] ∧
      ∃ config, .startSession 1 2 config ∈ [TranscriptionCommand.startSession 1 2 none] := by
  have hexec : ∃ moves final,
      (machine .single).exec (new .single) enabledThenHeard = some (moves, final) ∧
      final.transcriber.commands.history =
        [.startSession 1 2 none] ++ .audio ⟨1, 2, [8], 960, 9⟩ :: [] :=
    ⟨_, _, rfl, rfl⟩
  obtain ⟨moves, final, hexec, hhistory⟩ := hexec
  exact ⟨moves, final, hexec, hhistory,
    start_precedes_audio (Machine.exec_run hexec) _ _ _ hhistory⟩

end Server
end Grpc
end MediaServer
