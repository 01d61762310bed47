import MediaServer.Foundation.Log
import MediaServer.Grpc.CommandQueue

/-!
# What a leave leaves behind

A leave stops the session of its endpoint and sends a message to the media
worker, whose handler changes nothing.  So what the extractor holds of the
endpoint stays, and nothing of it remains in the transcription path only when the
handler finds nothing to clean up: no extractor holds the endpoint, no message or
call that could bring it back is under way, and nothing but stops of it was sent
since the leave's own stop.

Such a state is `AtRest`.  It is kept by every step but the arrival of a request
that asks for transcription of the endpoint, and from it on the endpoint is named
by no command but stops.
-/

namespace MediaServer
namespace Grpc

open Foundation Signal Transcription

/-! ## What an extractor holds of an endpoint -/

/-- The extractor has the endpoint enabled, credits new SSRCs to it or has it as
the target of an SSRC. -/
def Holds (extractor : RtpAudioExtractor) (key : SessionKey) : Prop :=
  extractor.isTranscriptionEnabled key.1 key.2 = true ∨ extractor.defaultSession = some key ∨
    ∃ ssrc, extractor.ssrcMap.get ssrc = some key

/-- The handler of the message makes the extractor hold the endpoint. -/
def Installs (request : SignalingProtocolMessage) (key : SessionKey) : Prop :=
  request = .enableTranscription key.1 key.2 ∨ ∃ ssrc, request = .registerSsrc ssrc key.1 key.2

/-- A message makes the extractor hold no endpoint but the one it installs. -/
theorem holds_of_update {extractor : RtpAudioExtractor} {request : SignalingProtocolMessage}
    {key : SessionKey} (hinstalls : ¬ Installs request key)
    (hholds : Holds (updateExtractor extractor request) key) : Holds extractor key := by
  cases request with
  | enableTranscription sessionId endpointId =>
      have hkey : key ≠ (sessionId, endpointId) := by
        rintro rfl
        exact hinstalls (.inl rfl)
      rcases hholds with henabled | hdefault | hmapped
      · left
        simpa [updateExtractor, hkey] using henabled
      · exact absurd (Option.some.inj hdefault).symm hkey
      · exact .inr (.inr hmapped)
  | disableTranscription sessionId endpointId =>
      rcases hholds with henabled | hdefault | hmapped
      · left
        simp only [updateExtractor, RtpAudioExtractor.isTranscriptionEnabled_disable,
          Bool.and_eq_true] at henabled
        exact henabled.2
      · exact .inr (.inl hdefault)
      · exact .inr (.inr hmapped)
  | registerSsrc ssrc sessionId endpointId =>
      have hkey : (sessionId, endpointId) ≠ key := by
        rintro rfl
        exact hinstalls (.inr ⟨ssrc, rfl⟩)
      rcases hholds with henabled | hdefault | ⟨bound, hmapped⟩
      · exact .inl henabled
      · exact .inr (.inl hdefault)
      · simp only [updateExtractor, RtpAudioExtractor.ssrcMap_registerSsrc,
          HashMap.get_insert] at hmapped
        split at hmapped
        · exact absurd (Option.some.inj hmapped) hkey
        · exact .inr (.inr ⟨bound, hmapped⟩)
  | ok _ _ | err _ _ _ | offer _ _ _ | answer _ _ _ | leave _ _ => exact hholds

/-- What the next packet of an SSRC is credited to is held. -/
theorem holds_of_label {extractor : RtpAudioExtractor} {ssrc : UInt32} {key : SessionKey}
    (hlabel : label extractor ssrc = some key) : Holds extractor key := by
  cases hentry : extractor.ssrcMap.get ssrc with
  | some ids =>
      rw [label_of_mapped hentry] at hlabel
      exact .inr (.inr ⟨ssrc, hentry.trans hlabel⟩)
  | none =>
      rw [label_of_unmapped hentry] at hlabel
      exact .inr (.inl hlabel)

/-- Forwarding a packet makes the extractor hold no endpoint anew. -/
theorem holds_of_forwardAudio {extractor : RtpAudioExtractor} {info : AudioPacketInfo}
    {key : SessionKey} (hholds : Holds (forwardAudio extractor info).1 key) :
    Holds extractor key := by
  rcases hholds with henabled | hdefault | ⟨ssrc, hmapped⟩
  · rw [isTranscriptionEnabled_forwardAudio] at henabled
    exact .inl henabled
  · rw [defaultSession_forwardAudio] at hdefault
    exact .inr (.inl hdefault)
  · rw [ssrcMap_forwardAudio] at hmapped
    split at hmapped
    · exact holds_of_label hmapped
    · exact .inr (.inr ⟨ssrc, hmapped⟩)

/-! ## Calls that may start a session -/

/-- The request asks for transcription of its endpoint. -/
def Request.asksForTranscription : Request → Bool
  | .offer request => request.enableTranscription
  | .enableTranscription _ => true
  | .leave _ | .disableTranscription _ => false

/-- The step is the arrival of a request asking for transcription of the endpoint. -/
def ServerInput.asksFor (key : SessionKey) : ServerInput → Bool
  | .arrive request => request.key = key && request.asksForTranscription
  | _ => false

/-- A call at the point may still start a session or notify a media worker. -/
def MayStart (request : Request) (point : CallPoint) : Prop :=
  (∀ reply, point ≠ .returned reply) ∧
    (request.asksForTranscription = true ∨ Notifies point)

section Protocol

variable {portOf : UInt64 → Option UInt16} {channelOpen : Bool} {mediaOpen : UInt16 → Bool}
  {request : Request} {point after : CallPoint} {effect : CallEffect}

/-- Only requests that ask for transcription come to notify a media worker that it
is enabled. -/
theorem CallStep.asks_of_notifies
    (hstep : CallStep portOf channelOpen mediaOpen request point effect after)
    (hnotifies : Notifies after) : request.asksForTranscription = true := by
  cases hstep with
  | offerStarted request port response hrequested hopen => exact hrequested
  | enableStarted request config hconfig hopen => rfl
  | _ => simp [Notifies] at hnotifies

/-- A call that may not start a session does not become one that may. -/
theorem CallStep.not_mayStart
    (hstep : CallStep portOf channelOpen mediaOpen request point effect after)
    (hbefore : ¬ MayStart request point) : ¬ MayStart request after := by
  rintro ⟨-, hasks⟩
  have hpoint : ∀ reply, point ≠ .returned reply := by
    rintro reply rfl
    exact not_callStep_returned hstep
  rcases hasks with hasks | hnotifies
  · exact hbefore ⟨hpoint, .inl hasks⟩
  · exact hbefore ⟨hpoint, .inl (hstep.asks_of_notifies hnotifies)⟩

/-- A call that may not start a session sends no command but the stop of its
endpoint. -/
theorem CallStep.command_of_not_mayStart {command : TranscriptionCommand}
    (hstep : CallStep portOf channelOpen mediaOpen request point (.command command) after)
    (hbefore : ¬ MayStart request point) :
    command = .stopSession request.key.1 request.key.2 := by
  rcases hstep.command_cases with ⟨hnotifies, -⟩ | ⟨-, hstop⟩
  · have hpoint : ∀ reply, point ≠ .returned reply := by
      rintro reply rfl
      exact not_callStep_returned hstep
    exact absurd ⟨hpoint, .inl (hstep.asks_of_notifies hnotifies)⟩ hbefore
  · exact hstop

/-- A call that may not start a session installs nothing. -/
theorem CallStep.not_installs {port : UInt16} {message : SignalingProtocolMessage} {kept : Bool}
    {key : SessionKey}
    (hstep : CallStep portOf channelOpen mediaOpen request point (.message port message kept)
      after)
    (hbefore : request.key = key → ¬ MayStart request point) : ¬ Installs message key := by
  obtain ⟨-, hmessage⟩ := hstep.message_cases
  rintro (rfl | ⟨ssrc, rfl⟩)
  · rcases hmessage with ⟨_, hmessage⟩ | ⟨hmessage, -⟩ | ⟨hmessage, hnotifies⟩ | ⟨hmessage, -⟩
    · contradiction
    · contradiction
    · obtain ⟨hsession, hendpoint⟩ := by simpa using hmessage
      have hkey : request.key = key := Prod.ext hsession.symm hendpoint.symm
      have hpoint : ∀ reply, point ≠ .returned reply := by
        rintro reply rfl
        exact not_callStep_returned hstep
      exact hbefore hkey ⟨hpoint, .inr hnotifies⟩
    · contradiction
  · rcases hmessage with ⟨_, hmessage⟩ | ⟨hmessage, -⟩ | ⟨hmessage, -⟩ | ⟨hmessage, -⟩ <;>
      contradiction

end Protocol

variable {σ δ : Type}

namespace Server

/-! ## Endpoints at rest -/

/-- Nothing of the endpoint is left with the media workers, and nothing is under
way that could bring it back. -/
structure AtRest (server : Server σ δ) (key : SessionKey) : Prop where
  extractors : ∀ port thread, server.media.get port = some thread →
    ¬ Holds thread.worker.audioExtractor key
  messages : ∀ port thread, server.media.get port = some thread →
    ∀ message ∈ thread.rx.waiting, ¬ Installs message.request key
  calls : ∀ id request point, server.callAt id = some (request, point) → request.key = key →
    ¬ MayStart request point

/-- Among the commands the endpoint is named by stops only. -/
def OnlyStops (key : SessionKey) (commands : List TranscriptionCommand) : Prop :=
  ∀ command ∈ commands, command.key = some key → command = .stopSession key.1 key.2

theorem OnlyStops.nil (key : SessionKey) : OnlyStops key [] := by
  intro command hmem
  contradiction

theorem OnlyStops.append {key : SessionKey} {earlier later : List TranscriptionCommand}
    (hearlier : OnlyStops key earlier) (hlater : OnlyStops key later) :
    OnlyStops key (earlier ++ later) := by
  intro command hmem
  rcases List.mem_append.mp hmem with hmem | hmem
  · exact hearlier command hmem
  · exact hlater command hmem

theorem OnlyStops.of_subset {key : SessionKey} {taken commands : List TranscriptionCommand}
    (hall : OnlyStops key commands) (htaken : taken ⊆ commands) : OnlyStops key taken := by
  intro command hmem
  exact hall command (htaken hmem)

variable {deployment : Deployment σ δ} {move : ServerMove σ δ} {key : SessionKey}

/-- With a single media worker that holds nothing of the endpoint and has read everything, and
with calls none of which may start the session, the endpoint is at rest. -/
theorem atRest_of_processed {server : Server σ δ} {thread : MediaThread σ}
    (honly : ∀ port held, server.media.get port = some held → held = thread)
    (hholds : ¬ Holds thread.worker.audioExtractor key) (hread : thread.rx.waiting = [])
    (hcalls : ∀ call ∈ server.calls, ¬ MayStart call.request call.point) :
    AtRest server key where
  extractors := by
    intro port held hheld
    obtain rfl := honly port held hheld
    exact hholds
  messages := by
    intro port held hheld message hmem
    obtain rfl := honly port held hheld
    rw [hread] at hmem
    contradiction
  calls := by
    intro id request point hcall _
    obtain ⟨call, hfound, hcall⟩ := Option.map_eq_some_iff.mp hcall
    obtain ⟨rfl, rfl⟩ := Prod.mk.inj hcall
    exact hcalls call (List.mem_of_getElem? hfound)

/-- An endpoint at rest stays at rest until a request asks for its transcription. -/
theorem atRest_step (hfires : (machine deployment).Fires move)
    (hasks : move.input.asksFor key = false) (hrest : AtRest move.pre key) :
    AtRest move.post key := by
  refine ⟨?_, ?_, ?_⟩
  · refine forall_thread_post hfires hrest.extractors ?_
    intro port thread after hthread hstep hclean hholds
    cases hstep with
    | unchanged => exact hclean hholds
    | received id request point after message kept htakes hempty => exact hclean hholds
    | handled message rest worker hinput hrunning hpop hextractor htranscriber =>
        have hmem : message ∈ thread.rx.waiting := Fifo.mem_waiting_of_pop hpop
        dsimp only at hholds
        rw [hextractor] at hholds
        exact hclean (holds_of_update (hrest.messages port thread hthread message hmem) hholds)
    | continued input worker hinput hrunning hpoll hextractor =>
        dsimp only at hholds
        rcases hextractor with hsame | ⟨info, hforward⟩
        · rw [hsame] at hholds
          exact hclean hholds
        · rw [hforward] at hholds
          exact hclean (holds_of_forwardAudio hholds)
    | stopped hinput => exact hclean hholds
  · refine forall_thread_post hfires hrest.messages ?_
    intro port thread after hthread hstep hclean
    cases hstep with
    | unchanged => exact hclean
    | received id request point after message kept htakes hempty =>
        intro waiting hwaiting
        rw [Fifo.waiting_push, hempty, List.nil_append] at hwaiting
        obtain rfl := List.mem_singleton.mp hwaiting
        exact htakes.callStep.not_installs (hrest.calls id request point htakes.before)
    | handled message rest worker hinput hrunning hpop hextractor htranscriber =>
        intro waiting hwaiting
        exact hclean waiting (Fifo.mem_waiting_of_mem_pop hpop hwaiting)
    | continued input worker hinput hrunning hpoll hextractor => exact hclean
    | stopped hinput => exact hclean
  · intro id request point hcall hkey
    rcases callAt_post_cases hfires hcall with
      ⟨rfl, hinput⟩ | ⟨before, effect, htakes⟩ | ⟨-, hbefore⟩
    · rw [hinput] at hasks
      rintro ⟨-, hstarts | hnotifies⟩
      · simp [ServerInput.asksFor, hkey, hstarts] at hasks
      · simp [Notifies] at hnotifies
    · exact htakes.callStep.not_mayStart (hrest.calls id request before htakes.before hkey)
    · exact hrest.calls id request point hbefore hkey

/-- While an endpoint is at rest no command but its stop names it. -/
theorem onlyStops_step (hfires : (machine deployment).Fires move) (hrest : AtRest move.pre key) :
    ∃ added, move.post.transcriber.commands.history =
      move.pre.transcriber.commands.history ++ added ∧ OnlyStops key added := by
  have hstep := transcriberStep_of_fires hfires
  generalize move.post.transcriber = after at hstep ⊢
  cases hstep with
  | unchanged hinput => exact ⟨[], (List.append_nil _).symm, .nil key⟩
  | commanded id request point after command htakes hrunning =>
      refine ⟨[command], Fifo.history_push _ _, ?_⟩
      intro sent hsent hkey
      obtain rfl := List.mem_singleton.mp hsent
      have hself : request.key = key := by
        rcases htakes.callStep.command_cases with ⟨-, config, rfl⟩ | ⟨-, rfl⟩ <;>
          exact Option.some.inj hkey
      rw [← hself]
      exact htakes.callStep.command_of_not_mayStart
        (hrest.calls id request point htakes.before hself)
  | forwarded port thread info command hinput hthread hsent =>
      refine ⟨[command], Fifo.history_push _ _, ?_⟩
      intro sent hmem hkey
      obtain rfl := List.mem_singleton.mp hmem
      obtain ⟨ids, hlabel, -, rfl⟩ := forwardAudio_eq_some_iff.mp hsent
      obtain rfl : ids = key := Option.some.inj hkey
      exact absurd (holds_of_label hlabel) (hrest.extractors port thread hthread)
  | processed env command commands hinput hrunning hpop =>
      refine ⟨[], ?_, .nil key⟩
      dsimp only
      rw [Fifo.history_pop hpop, List.append_nil]

/-- Over a run without requests for transcription of the endpoint it stays at rest
and is named by no command but stops. -/
theorem atRest_run {start final : Server σ δ} {moves : List (ServerMove σ δ)}
    (hrun : (machine deployment).Run start moves final)
    (hasks : ∀ move ∈ moves, move.input.asksFor key = false) (hrest : AtRest start key) :
    AtRest final key ∧ ∃ added, final.transcriber.commands.history =
      start.transcriber.commands.history ++ added ∧ OnlyStops key added := by
  induction hrun with
  | nil state => exact ⟨hrest, [], (List.append_nil _).symm, .nil key⟩
  | cons hfires hmoves ih =>
      obtain ⟨here, hhere, hstops⟩ := onlyStops_step hfires hrest
      have hafter := atRest_step hfires (hasks _ List.mem_cons_self) hrest
      obtain ⟨hfinal, later, hlater, hlaterStops⟩ :=
        ih (fun move hmem => hasks move (List.mem_cons_of_mem _ hmem)) hafter
      exact ⟨hfinal, here ++ later, by rw [hlater, hhere, List.append_assoc],
        hstops.append hlaterStops⟩

/-! ## The transcription worker after the stop -/

/-- The worker has neither a session nor a decoder for the endpoint. -/
def Clear (worker : TranscriptionWorker δ) (key : SessionKey) : Prop :=
  worker.manager.sessions.get key = none ∧ worker.decoders.get key = none

/-- The command, if it names the endpoint. -/
def naming (key : SessionKey) (command : TranscriptionCommand) : Option TranscriptionCommand :=
  if command.key = some key then some command else none

/-- The worker is clear of an endpoint whenever the last processed command that named
it, if there is one, was its stop. -/
def ClearAfterStop (server : Server σ δ) (key : SessionKey) : Prop :=
  (∀ command, Log.lastWrite (naming key) server.transcriber.commands.taken = some command →
    command = .stopSession key.1 key.2) → Clear server.transcriber.worker key

theorem clearAfterStop_step (hfires : (machine deployment).Fires move)
    (hclear : ClearAfterStop move.pre key) : ClearAfterStop move.post key := by
  unfold ClearAfterStop at hclear ⊢
  have hstep := transcriberStep_of_fires hfires
  generalize move.post.transcriber = after at hstep ⊢
  cases hstep with
  | unchanged hinput => exact hclear
  | commanded id request point after command htakes hrunning => exact hclear
  | forwarded port thread info command hinput hthread hsent => exact hclear
  | processed env command commands hinput hrunning hpop =>
      dsimp only
      rw [Fifo.taken_pop hpop]
      intro hlast
      by_cases hkey : command.key = some key
      · have hwrite : naming key command = some command := if_pos hkey
        obtain rfl : command = .stopSession key.1 key.2 :=
          hlast command (by rw [Log.lastWrite_concat, hwrite, Option.some_or])
        simp [Clear, TranscriptionWorker.processCommand]
      · have hwrite : naming key command = none := if_neg hkey
        have hbefore : Clear move.pre.transcriber.worker key := by
          refine hclear fun earlier hearlier => hlast earlier ?_
          rw [Log.lastWrite_concat, hwrite, Option.none_or, hearlier]
        obtain ⟨hsession, hdecoder⟩ := TranscriptionWorker.processCommand_of_ne deployment.codec
          move.pre.transcriber.worker env hkey
        exact ⟨hsession.trans hbefore.1, hdecoder.trans hbefore.2⟩

theorem clearAfterStop_of_run {moves : List (ServerMove σ δ)} {final : Server σ δ}
    (hrun : (machine deployment).Run (new deployment) moves final) : ClearAfterStop final key := by
  have hnew : ClearAfterStop (new deployment) key := by
    intro _
    exact ⟨HashMap.get_empty key, HashMap.get_empty key⟩
  exact hrun.invariant (fun server => ClearAfterStop server key)
    (fun _ hfires hpre => clearAfterStop_step hfires hpre) hnew

/-- After commands that end with a stop of the endpoint, or name it by stops only,
and others that name it by stops only, the last one that names it is a stop. -/
theorem stop_of_lastNaming {earlier later : List TranscriptionCommand}
    (hearlier : OnlyStops key earlier ∨ ∃ sent, earlier = sent ++ [.stopSession key.1 key.2])
    (hlater : OnlyStops key later) {command : TranscriptionCommand}
    (hlast : Log.lastWrite (naming key) (earlier ++ later) = some command) :
    command = .stopSession key.1 key.2 := by
  have hstops : ∀ {commands}, OnlyStops key commands →
      Log.lastWrite (naming key) commands = some command →
      command = .stopSession key.1 key.2 := by
    intro commands honly hnamed
    obtain ⟨found, hmem, hnaming⟩ := Log.exists_of_lastWrite hnamed
    unfold naming at hnaming
    split at hnaming
    · rename_i hkey
      obtain rfl := Option.some.inj hnaming
      exact honly found hmem hkey
    · contradiction
  rw [Log.lastWrite_append] at hlast
  cases hnamed : Log.lastWrite (naming key) later with
  | some found =>
      rw [hnamed, Option.some_or] at hlast
      exact hstops hlater (hnamed.trans hlast)
  | none =>
      rw [hnamed, Option.none_or] at hlast
      rcases hearlier with honly | ⟨sent, rfl⟩
      · exact hstops honly hlast
      · have hwrite : naming key (.stopSession key.1 key.2) = some (.stopSession key.1 key.2) :=
          if_pos rfl
        rw [Log.lastWrite_concat, hwrite, Option.some_or] at hlast
        exact (Option.some.inj hlast).symm

/-- Once the leave's stop is processed the worker is clear of the endpoint, if only
stops of it were sent since, and if the channel was open for the stop or only stops
of it were sent before. -/
theorem clear_of_stop {moves : List (ServerMove σ δ)} {final : Server σ δ} {id : Nat}
    {request : LeaveRequest} {effect : CallEffect} {later : List TranscriptionCommand}
    (hrun : (machine deployment).Run (new deployment) moves final)
    (hstop : TakesTransition deployment move id (.leave request) .entered effect .leaveSending)
    (hstopped : move.pre.channelOpen deployment = true ∨
      OnlyStops (request.sessionId, request.endpointId) move.post.transcriber.commands.history)
    (hhistory : final.transcriber.commands.history =
      move.post.transcriber.commands.history ++ later)
    (hlater : OnlyStops (request.sessionId, request.endpointId) later)
    (hprocessed : ∀ command, effect = .command command →
      move.post.transcriber.commands.history.length ≤ final.transcriber.commands.taken.length) :
    Clear final.transcriber.worker (request.sessionId, request.endpointId) := by
  apply clearAfterStop_of_run hrun
  intro command hlast
  have htaken : final.transcriber.commands.taken <+:
      move.post.transcriber.commands.history ++ later :=
    hhistory ▸ List.prefix_append _ _
  cases hstop.callStep with
  | leaveStopped request hopen =>
      -- the stop was processed, and with it everything sent before it
      obtain ⟨rest, hrest⟩ := List.prefix_of_prefix_length_le (List.prefix_append _ later) htaken
        (hprocessed _ rfl)
      rw [← hrest, List.prefix_append_right_inj] at htaken
      rw [← hrest] at hlast
      refine stop_of_lastNaming (.inr ⟨move.pre.transcriber.commands.history, ?_⟩)
        (hlater.of_subset htaken.subset) hlast
      rw [hstop.affects.2.2, Fifo.history_push]
  | leaveUnstopped request hclosed =>
      have honly : OnlyStops (request.sessionId, request.endpointId)
          move.post.transcriber.commands.history := by
        refine hstopped.resolve_left ?_
        rw [hclosed]
        exact Bool.false_ne_true
      have hall : OnlyStops (request.sessionId, request.endpointId)
          final.transcriber.commands.taken :=
        (honly.append hlater).of_subset htaken.subset
      exact stop_of_lastNaming (.inl hall) (.nil _) (by rw [List.append_nil, hlast])

/-! ## The leave -/

/-- Nothing of the endpoint is in the transcription path. -/
structure NothingRemains (server : Server σ δ) (key : SessionKey) : Prop where
  session : server.transcriber.worker.manager.hasSession key.1 key.2 = false
  decoder : server.transcriber.worker.decoders.containsKey key = false
  extractors : ∀ port thread, server.media.get port = some thread →
    ¬ Holds thread.worker.audioExtractor key

/-- The condition on the state in which a media worker takes the message of a leave:
the endpoint is at rest, and since the call came to stop the session nothing but
stops of it was sent.  Either the channel was open for its stop, or the endpoint had
been named by stops only. -/
structure FindsNothing (deployment : Deployment σ δ) (stop : ServerMove σ δ)
    (server : Server σ δ) (key : SessionKey) : Prop where
  atRest : AtRest server key
  stopped : stop.pre.channelOpen deployment = true ∨
    OnlyStops key stop.post.transcriber.commands.history
  since : ∃ sent, server.transcriber.commands.history =
    stop.post.transcriber.commands.history ++ sent ∧ OnlyStops key sent

/-- In every run: if a media worker that takes the message of a leave finds nothing
of the endpoint, then in every later state, as long as no request asks for its
transcription, once the leave's stop is processed nothing of the endpoint is in the
transcription path, and no packet is labelled with it.  The handler itself changes
no extractor, so what it does find remains. -/
theorem leave_leaves_nothing {before between after : List (ServerMove σ δ)}
    {stop handle : ServerMove σ δ} {final : Server σ δ} {id : Nat} {request : LeaveRequest}
    {effect : CallEffect} {port : UInt16}
    (hrun : (machine deployment).Run (new deployment)
      (before ++ stop :: (between ++ handle :: after)) final)
    (hstop : TakesTransition deployment stop id (.leave request) .entered effect .leaveSending)
    (hhandle : TakesMessage handle port ⟨.leave request.sessionId request.endpointId, id, true⟩)
    (hfinds : FindsNothing deployment stop handle.pre (request.sessionId, request.endpointId))
    (hlater : ∀ move ∈ after,
      move.input.asksFor (request.sessionId, request.endpointId) = false)
    (hprocessed : ∀ command, effect = .command command →
      stop.post.transcriber.commands.history.length ≤
        final.transcriber.commands.taken.length) :
    NothingRemains final (request.sessionId, request.endpointId) ∧
    (∃ added, final.transcriber.commands.history =
        handle.pre.transcriber.commands.history ++ added ∧
      ∀ packet, .audio packet ∈ added →
        packet.key ≠ (request.sessionId, request.endpointId)) ∧
    ∀ other, handle.post.extractorAt other = handle.pre.extractorAt other := by
  obtain ⟨-, -, hrest⟩ := hrun.split_at
  obtain ⟨-, hfires, hafter⟩ := hrest.split_at
  have hasks : ∀ move ∈ handle :: after,
      move.input.asksFor (request.sessionId, request.endpointId) = false := by
    intro move hmem
    rcases List.mem_cons.mp hmem with rfl | hmem
    · rw [hhandle.input]
      rfl
    · exact hlater move hmem
  obtain ⟨hfinal, added, hadded, hstops⟩ := atRest_run (.cons hfires hafter) hasks hfinds.atRest
  refine ⟨?_, ⟨added, hadded, ?_⟩, (untouched_of_message hfires hhandle fun _ => rfl).extractors⟩
  · obtain ⟨sent, hsent, hsince⟩ := hfinds.since
    rw [hsent, List.append_assoc] at hadded
    have hclear : Clear final.transcriber.worker (request.sessionId, request.endpointId) :=
      clear_of_stop hrun hstop hfinds.stopped hadded (hsince.append hstops) hprocessed
    refine ⟨?_, ?_, hfinal.extractors⟩
    · unfold TranscriptionManager.hasSession
      exact (HashMap.containsKey_eq_false_iff _ _).mpr hclear.1
    · exact (HashMap.containsKey_eq_false_iff _ _).mpr hclear.2
  · intro packet hmem hkey
    have hnone := hstops (.audio packet) hmem (congrArg some hkey)
    contradiction

/-- A disable and an enable of endpoint `(1, 2)` overlap: the session is started after it
was stopped, and the extractor is disabled after it was enabled.  Endpoint `(1, 3)` is
enabled then, everything is processed, and a leave of endpoint `(1, 2)` arrives. -/
def leftTranscribed : List ServerInput :=
  [.arrive (.disableTranscription ⟨1, 2⟩), .advance 0 [3478] .allSucceed,
    .arrive (.enableTranscription ⟨1, 2, "", "", "", "", ""⟩), .advance 1 [3478] .allSucceed,
    .advance 1 [3478] .allSucceed, .media 3478 .poll, .media 3478 .drain,
    .media 3478 (.read []), .advance 0 [3478] .allSucceed, .media 3478 .poll,
    .media 3478 .drain, .media 3478 (.read []),
    .arrive (.enableTranscription ⟨1, 3, "", "", "", "", ""⟩), .advance 2 [3478] .allSucceed,
    .advance 2 [3478] .allSucceed, .media 3478 .poll, .media 3478 .drain,
    .media 3478 (.read []), .transcribe .allSucceed, .transcribe .allSucceed,
    .transcribe .allSucceed, .arrive (.leave ⟨1, 2⟩)]

/-- The call of the leave, which has sent its stop, sends its message. -/
def sendingLeave : List ServerInput := [.advance 3 [3478] .allSucceed]

/-- The media worker takes the message, the call returns, and the transcription worker
processes the stop. -/
def handlingLeave : List ServerInput :=
  [.media 3478 .poll, .advance 3 [3478] .allSucceed, .transcribe .allSucceed]

/-- The endpoint has a session and a decoder when the leave arrives, and neither of them
afterwards. -/
theorem leave_leaves_nothing_leftTranscribed :
    ∃ (arrived sent final : Server Unit Unit) (before between after : List (ServerMove Unit Unit))
      (stop handle : ServerMove Unit Unit),
      (machine .single).exec (new .single) leftTranscribed = some (before, arrived) ∧
      (machine .single).exec arrived [.advance 3 [3478] .allSucceed] = some ([stop], stop.post) ∧
      (machine .single).exec stop.post sendingLeave = some (between, sent) ∧
      (machine .single).exec sent handlingLeave = some (handle :: after, final) ∧
      arrived.transcriber.worker.manager.hasSession 1 2 = true ∧
      arrived.transcriber.worker.decoders.containsKey (1, 2) = true ∧
      NothingRemains final (1, 2) := by
  have hexec : ∃ (arrived sent final : Server Unit Unit)
      (before between after : List (ServerMove Unit Unit)) (stop handle : ServerMove Unit Unit)
      (rested thread : MediaThread Unit) (calls : List Call),
      (machine .single).exec (new .single) leftTranscribed = some (before, arrived) ∧
      (machine .single).exec arrived [.advance 3 [3478] .allSucceed] = some ([stop], stop.post) ∧
      (machine .single).exec stop.post sendingLeave = some (between, sent) ∧
      (machine .single).exec sent handlingLeave = some (handle :: after, final) ∧
      arrived.transcriber.worker.manager.hasSession 1 2 = true ∧
      arrived.transcriber.worker.decoders.containsKey (1, 2) = true ∧
      arrived.media.get 3478 = some rested ∧
      (rested.worker.audioExtractor.isTranscriptionEnabled 1 2 = false ∧
        rested.worker.audioExtractor.defaultSession = some (1, 3) ∧
        rested.worker.audioExtractor.ssrcMap = HashMap.empty ∧ rested.rx.waiting = []) ∧
      (arrived.calls = calls ++ [⟨.leave ⟨1, 2⟩, .entered, none⟩] ∧
        calls.map Call.point =
          [.disableTranscription ⟨true, ""⟩, .enableTranscription ⟨true, ""⟩,
            .enableTranscription ⟨true, ""⟩].map .returned) ∧
      stop.pre.callAt 3 = some (.leave ⟨1, 2⟩, .entered) ∧
      stop.post.callAt 3 = some (.leave ⟨1, 2⟩, .leaveSending) ∧
      stop.pre.channelOpen .single = true ∧
      sent.media.get 3478 = some thread ∧
      thread.rx.waiting = [⟨.leave 1 2, 3, true⟩] ∧
      sent.transcriber.commands.history = stop.post.transcriber.commands.history ∧
      stop.post.transcriber.commands.history.length = 4 ∧
      final.transcriber.commands.taken.length = 4 :=
    ⟨_, _, _, _, _, _, _, _, _, _, [_, _, _], rfl, rfl, rfl, rfl, rfl, rfl, rfl,
      ⟨rfl, rfl, rfl, rfl⟩, ⟨rfl, rfl⟩, rfl, rfl, rfl, rfl, rfl, rfl, rfl, rfl⟩
  obtain ⟨arrived, sent, final, before, between, after, stop, handle, rested, thread, calls,
    hbefore, hstop, hbetween, hafter, hsession, hdecoder, hrested,
    ⟨hdisabled, hother, hunmapped, hread⟩, ⟨hcalls, hpoints⟩, hentered, hsending, hopen, hthread,
    hwaiting, hhistory, hlength, htaken⟩ := hexec
  refine ⟨arrived, sent, final, before, between, after, stop, handle, hbefore, hstop, hbetween,
    hafter, hsession, hdecoder, ?_⟩
  -- the endpoint is at rest when its leave arrives
  have hrest : AtRest arrived (1, 2) := by
    refine atRest_of_processed ?_ ?_ hread ?_
    · intro port held hheld
      obtain rfl : port = 3478 :=
        List.mem_singleton.mp (mem_ports_of_run (Machine.exec_run hbefore) hheld)
      exact (Option.some.inj (hrested.symm.trans hheld)).symm
    · rintro (henabled | hdefault | ⟨ssrc, hmapped⟩)
      · rw [hdisabled] at henabled
        contradiction
      · rw [hother] at hdefault
        simp at hdefault
      · rw [hunmapped] at hmapped
        simp at hmapped
    · intro call hmem hstarts
      rw [hcalls, List.mem_append, List.mem_singleton] at hmem
      rcases hmem with hmem | rfl
      · have hpoint : call.point ∈ calls.map Call.point := List.mem_map_of_mem hmem
        rw [hpoints] at hpoint
        obtain ⟨reply, -, hreply⟩ := List.mem_map.mp hpoint
        exact hstarts.1 reply hreply.symm
      · simp [MayStart, Request.asksForTranscription, Notifies] at hstarts
  have hhandled := Machine.exec_run hafter
  obtain ⟨rfl, -, -⟩ := Machine.Run.cons_iff.mp hhandled
  -- the first transition of the call
  obtain ⟨rfl, hstopFires, -⟩ := Machine.Run.cons_iff.mp (Machine.exec_run hstop)
  obtain ⟨effect, point, htakes⟩ := (callAt_fires hstopFires hentered).resolve_right (by
    rintro ⟨-, hstays⟩
    rw [hsending] at hstays
    simp at hstays)
  obtain rfl : point = .leaveSending := by
    have hpost := htakes.callAt
    rw [hsending] at hpost
    simpa using hpost.symm
  -- nobody asks for transcription of endpoint `(1, 2)` any more
  let quiet : ServerInput → Prop := fun input => input.asksFor (1, 2) = false
  have hsince := (Machine.exec_run hstop).append (Machine.exec_run hbetween)
  have hasks : ∀ move ∈ [stop] ++ between, quiet move.input := by
    intro move hmem
    rcases List.mem_append.mp hmem with hmem | hmem
    · exact Machine.forall_input_of_exec quiet hstop (by decide) move hmem
    · exact Machine.forall_input_of_exec quiet hbetween (by decide) move hmem
  have hlater : ∀ move ∈ handle :: after, quiet move.input :=
    Machine.forall_input_of_exec quiet hafter (by decide)
  have hfinds : FindsNothing .single stop handle.pre (1, 2) :=
    ⟨(atRest_run hsince hasks hrest).1, .inl hopen,
      ⟨[], by rw [hhistory, List.append_nil], .nil (1, 2)⟩⟩
  have hhandle : TakesMessage handle 3478 ⟨.leave 1 2, 3, true⟩ := by
    have hinput : handle.input = .media 3478 .poll := by
      have hinputs := Machine.exec_inputs hafter
      exact (List.cons.inj hinputs).1
    exact ⟨hinput, thread, [], hthread, hwaiting⟩
  have hrun := (Machine.exec_run hbefore).append (hsince.append hhandled)
  rw [List.append_assoc] at hrun
  exact (leave_leaves_nothing hrun htakes hhandle hfinds
    (fun move hmem => hlater move (List.mem_cons_of_mem _ hmem))
    (fun _ _ => by omega)).1

/-- Endpoint `(1, 2)` is enabled, and everything this causes is processed. -/
def enabledOnly : List ServerInput :=
  [.arrive (.enableTranscription ⟨1, 2, "", "", "", "", ""⟩), .advance 0 [3478] .allSucceed,
    .advance 0 [3478] .allSucceed, .media 3478 .poll, .transcribe .allSucceed]

/-- The endpoint leaves, and everything this causes is processed. -/
def leftAfterwards : List ServerInput :=
  [.arrive (.leave ⟨1, 2⟩), .advance 1 [3478] .allSucceed, .media 3478 .drain,
    .media 3478 (.read []), .advance 1 [3478] .allSucceed, .media 3478 .poll,
    .advance 1 [3478] .allSucceed, .transcribe .allSucceed]

/-- After both the extractor still has the endpoint enabled. -/
theorem leave_keeps_endpoint :
    ¬ ∀ (before after : List (ServerMove Unit Unit)) (arrival : ServerMove Unit Unit)
        (final : Server Unit Unit) (thread : MediaThread Unit),
      (machine .single).Run (new .single) (before ++ arrival :: after) final →
      arrival.input = .arrive (.leave ⟨1, 2⟩) →
      (∀ move ∈ after, move.input.asksFor (1, 2) = false) →
      (∀ call ∈ final.calls, ∃ reply, call.point = .returned reply) →
      final.media.get 3478 = some thread →
      final.transcriber.commands.waiting = [] → thread.rx.waiting = [] →
      NothingRemains final (1, 2) := by
  intro hclears
  have hexec : ∃ (before after : List (ServerMove Unit Unit)) (arrival : ServerMove Unit Unit)
      (middle final : Server Unit Unit) (thread : MediaThread Unit),
      (machine .single).exec (new .single) enabledOnly = some (before, middle) ∧
      (machine .single).exec middle leftAfterwards = some (arrival :: after, final) ∧
      arrival.input = .arrive (.leave ⟨1, 2⟩) ∧
      after.all (fun move => !move.input.asksFor (1, 2)) = true ∧
      final.calls.map Call.point =
        [.enableTranscription ⟨true, ""⟩, .leave (.ok ⟨true, ""⟩)].map .returned ∧
      final.media.get 3478 = some thread ∧
      final.transcriber.commands.waiting = [] ∧ thread.rx.waiting = [] ∧
      thread.worker.audioExtractor.isTranscriptionEnabled 1 2 = true :=
    ⟨_, _, _, _, _, _, rfl, rfl, rfl, rfl, rfl, rfl, rfl, rfl, rfl⟩
  obtain ⟨before, after, arrival, middle, final, thread, hbefore, hafter, harrival, hasks, hpoints,
    hthread, hcommands, hmessages, henabled⟩ := hexec
  have hquiet : ∀ move ∈ after, move.input.asksFor (1, 2) = false := by
    intro move hmem
    simpa using List.all_eq_true.mp hasks move hmem
  have hnothing := hclears before after arrival final thread
    ((Machine.exec_run hbefore).append (Machine.exec_run hafter)) harrival hquiet
    (returned_of_points hpoints) hthread hcommands hmessages
  exact hnothing.extractors 3478 thread hthread (.inl henabled)

end Server
end Grpc
end MediaServer
