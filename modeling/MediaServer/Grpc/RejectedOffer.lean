import MediaServer.Grpc.Components

/-!
# What a rejected offer leaves behind

`offer` starts the transcription session between receiving the media worker's
answer and looking at it.  So a rejected offer is as if it had not been made only
when it comes to no start: transcription was not requested, or the channel of the
transcription worker was not open when the call had its answer.

The effects of a call are followed through the whole run, in the steps of the
call itself and in the steps in which a media worker takes a message of the call.
-/

namespace MediaServer
namespace Grpc

open Foundation Signal Transcription

/-- An offer that is not about to notify a media worker goes on without touching
transcription, unless it has its answer and finds the channel open. -/
theorem CallStep.offer_cases {portOf : UInt64 → Option UInt16} {channelOpen : Bool}
    {mediaOpen : UInt16 → Bool} {request : OfferRequest} {point after : CallPoint}
    {effect : CallEffect}
    (hstep : CallStep portOf channelOpen mediaOpen (.offer request) point effect after)
    (hpoint : ¬ Notifies point) :
    (¬ Notifies after ∧
      (effect = .quiet ∨ ∃ port, effect = .message port
        (.offer request.sessionId request.endpointId request.offerSdp) true)) ∨
    (request.enableTranscription = true ∧ channelOpen = true ∧
      (∃ port answer, point = .offerAnswered port answer) ∧
      ∃ command, effect = .command command) := by
  cases hstep with
  | offerSent request port hport => exact .inl ⟨by simp [Notifies], .inr ⟨port, rfl⟩⟩
  | offerStarted request port answer hrequested hopen =>
      exact .inr ⟨hrequested, hopen, ⟨port, answer, rfl⟩, _, rfl⟩
  | offerNotified request port answer =>
      exact absurd (.inr ⟨port, answer, rfl⟩) hpoint
  | offerUnnotified request port answer hclosed =>
      exact absurd (.inr ⟨port, answer, rfl⟩) hpoint
  | offerRefused request hport => exact .inl ⟨by simp [Notifies], .inl rfl⟩
  | offerUnsent request port status hport hclosed => exact .inl ⟨by simp [Notifies], .inl rfl⟩
  | offerReceived request port answer => exact .inl ⟨by simp [Notifies], .inl rfl⟩
  | offerUnanswered request port status => exact .inl ⟨by simp [Notifies], .inl rfl⟩
  | offerUnstarted request port answer hunstarted => exact .inl ⟨by simp [Notifies], .inl rfl⟩

variable {σ δ : Type}

namespace Server

/-- The step is taken for the call: the call advances, or a media worker takes a
message the call has sent. -/
def ActsFor (move : ServerMove σ δ) (id : Nat) : Prop :=
  (∃ keys env, move.input = .advance id keys env) ∨
  ∃ port message, TakesMessage move port message ∧ message.call = id

/-- If the step is the one in which the offer, having its answer, would start the
session, then the channel of the transcription worker is not open. -/
def FindsClosed (deployment : Deployment σ δ) (move : ServerMove σ δ) (id : Nat)
    (request : OfferRequest) : Prop :=
  (∃ keys env, move.input = .advance id keys env) →
    ∀ port answer, move.pre.callAt id = some (.offer request, .offerAnswered port answer) →
      move.pre.channelOpen deployment = false

/-- The invariant: the call is not about to notify a media worker, and of its
messages only the offer itself may be waiting. -/
structure OnlyOffered (server : Server σ δ) (id : Nat) : Prop where
  point : ∀ request point, server.callAt id = some (request, point) → ¬ Notifies point
  messages : ∀ port thread, server.media.get port = some thread →
    ∀ message ∈ thread.rx.waiting, message.call = id →
      ∃ sessionId endpointId offerSdp, message.request = .offer sessionId endpointId offerSdp

variable {deployment : Deployment σ δ} {move : ServerMove σ δ} {id : Nat}
  {request : OfferRequest}

/-- An offer that sends nothing but itself touches nothing of transcription. -/
theorem untouched_of_affects {effect : CallEffect}
    (haffects : Affects move.pre move.post id effect)
    (heffect : effect = .quiet ∨ ∃ port message kept, effect = .message port message kept) :
    TranscriptionUntouched move := by
  rcases heffect with rfl | ⟨port, message, kept, rfl⟩
  · obtain ⟨hmedia, htranscriber⟩ := haffects
    refine ⟨htranscriber, fun port => ?_⟩
    unfold extractorAt
    rw [hmedia]
  · obtain ⟨htranscriber, thread, hthread, -, -, hmedia⟩ := haffects
    exact ⟨htranscriber, extractorAt_insert hthread hmedia rfl⟩

/-- A step that meets the condition keeps the invariant and, if it is taken for the
call, leaves the transcription state alone. -/
theorem onlyOffered_step (hfires : (machine deployment).Fires move)
    (hoffer : ∀ found point, move.post.callAt id = some (found, point) → found = .offer request)
    (hcloses : request.enableTranscription = false ∨ FindsClosed deployment move id request)
    (honly : OnlyOffered move.pre id) :
    OnlyOffered move.post id ∧ (ActsFor move id → TranscriptionUntouched move) := by
  -- the transitions the call can take from where it is
  have htransition : ∀ found point effect after,
      TakesTransition deployment move id found point effect after →
      ¬ Notifies after ∧ (effect = .quiet ∨ ∃ port, effect = .message port
        (.offer request.sessionId request.endpointId request.offerSdp) true) := by
    intro found point effect after htakes
    obtain rfl : found = .offer request := hoffer found after htakes.callAt
    rcases htakes.callStep.offer_cases (honly.point _ _ htakes.before) with
      hquiet | ⟨hrequested, hopen, ⟨port, answer, rfl⟩, -⟩
    · exact hquiet
    · rcases hcloses with hunrequested | hcloses
      · rw [hrequested] at hunrequested
        contradiction
      · rw [hcloses htakes.advances port answer htakes.before] at hopen
        contradiction
  refine ⟨⟨?_, ?_⟩, ?_⟩
  · intro found point hcall
    rcases callAt_post_cases hfires hcall with
      ⟨rfl, -⟩ | ⟨before, effect, htakes⟩ | ⟨-, hbefore⟩
    · simp [Notifies]
    · exact (htransition found before effect point htakes).1
    · exact honly.point found point hbefore
  · refine forall_thread_post hfires honly.messages ?_
    intro port thread after hthread hstep hmessages
    cases hstep with
    | unchanged => exact hmessages
    | received sender asked point after message kept htakes hempty =>
        intro waiting hwaiting hcall
        rw [Fifo.waiting_push, hempty, List.nil_append] at hwaiting
        obtain rfl := List.mem_singleton.mp hwaiting
        dsimp only at hcall ⊢
        subst hcall
        obtain ⟨-, heffect⟩ := htransition asked point _ after htakes
        obtain ⟨sent, hsent⟩ := heffect.resolve_left (by simp)
        obtain ⟨-, rfl, -⟩ := by simpa using hsent
        exact ⟨_, _, _, rfl⟩
    | handled message rest worker hinput hrunning hpop hextractor htranscriber =>
        intro waiting hwaiting hcall
        exact hmessages waiting (Fifo.mem_waiting_of_mem_pop hpop hwaiting) hcall
    | continued input worker hinput hrunning hpoll hextractor => exact hmessages
    | stopped hinput => exact hmessages
  · rintro (⟨keys, env, hinput⟩ | ⟨port, message, htaken, hcall⟩)
    · obtain ⟨found, point, effect, after, htakes⟩ := takesTransition_of_fires hfires hinput
      obtain ⟨-, hquiet | ⟨port, hmessage⟩⟩ := htransition found point effect after htakes
      · exact untouched_of_affects htakes.affects (.inl hquiet)
      · exact untouched_of_affects htakes.affects (.inr ⟨port, _, true, hmessage⟩)
    · obtain ⟨thread, rest, hthread, hwaiting⟩ := htaken.waiting
      have hmem : message ∈ thread.rx.waiting := by
        rw [hwaiting]
        exact List.mem_cons_self
      obtain ⟨sessionId, endpointId, offerSdp, hrequest⟩ :=
        honly.messages port thread hthread message hmem hcall
      refine untouched_of_message hfires htaken fun extractor => ?_
      rw [hrequest, updateExtractor_offer]

theorem onlyOffered_new : OnlyOffered (new deployment) id where
  point := by
    intro found point hcall
    simp [callAt, new] at hcall
  messages := by
    intro port thread hthread message hmem
    obtain rfl := thread_of_new hthread
    simp [MediaThread.new] at hmem

/-- A step in which the offer finds the channel open leaves a command behind. -/
theorem touched_of_open (hfires : (machine deployment).Fires move)
    (hrequested : request.enableTranscription = true)
    (hopens : ¬ FindsClosed deployment move id request) :
    ActsFor move id ∧ ¬ TranscriptionUntouched move := by
  unfold FindsClosed at hopens
  push Not at hopens
  obtain ⟨⟨keys, env, hinput⟩, port, answer, hcall, hopen⟩ := hopens
  refine ⟨.inl ⟨keys, env, hinput⟩, fun huntouched => ?_⟩
  rcases callAt_fires hfires hcall with ⟨effect, after, htakes⟩ | ⟨hother, -⟩
  · cases htakes.callStep with
    | offerStarted request port answer _ _ =>
        have hpushed := htakes.affects.2.2
        rw [huntouched.transcriber] at hpushed
        have hwaiting := congrArg (fun transcriber => transcriber.commands.waiting.length) hpushed
        simp at hwaiting
    | offerUnstarted request port answer hunstarted =>
        rcases hunstarted with hunrequested | hclosed
        · rw [hrequested] at hunrequested
          contradiction
        · exact absurd hclosed hopen
  · exact hother keys env hinput

/-- For an offer that is answered with an error, every step taken for the call
leaves the transcription state alone exactly when transcription was not requested
or the call, having its answer, did not find the channel of the transcription
worker open. -/
theorem rejected_offer_untouched_iff {moves : List (ServerMove σ δ)} {final : Server σ δ}
    {response : OfferResponse} (hrun : (machine deployment).Run (new deployment) moves final)
    (hreturned : final.callAt id = some (.offer request, .returned (.offer (.ok response)))) :
    response.error ≠ "" →
      ((∀ move ∈ moves, ActsFor move id → TranscriptionUntouched move) ↔
        request.enableTranscription = false ∨
          ∀ move ∈ moves, FindsClosed deployment move id request) := by
  intro _
  constructor
  · intro huntouched
    by_contra hopens
    push Not at hopens
    obtain ⟨hrequested, move, hmem, hfinds⟩ := hopens
    have htouched := touched_of_open (hrun.fires_of_mem hmem)
      (Bool.eq_true_of_not_eq_false hrequested) hfinds
    exact htouched.2 (huntouched move hmem htouched.1)
  · intro hcloses
    -- the call is this offer throughout the run
    have hoffer : ∀ move ∈ moves, ∀ found point, move.post.callAt id = some (found, point) →
        found = .offer request := by
      intro move hmem found point hcall
      obtain ⟨before, after, rfl⟩ := List.append_of_mem hmem
      obtain ⟨last, hlast⟩ := callAt_run hrun.split_at.2.2 hcall
      rw [hreturned] at hlast
      obtain ⟨rfl, -⟩ := by simpa using hlast
      rfl
    have hcondition : ∀ move ∈ moves,
        request.enableTranscription = false ∨ FindsClosed deployment move id request := by
      intro move hmem
      exact hcloses.imp_right fun hall => hall move hmem
    have hkeeps : ∀ step : ServerMove σ δ, (machine deployment).Fires step →
        ((∀ found point, step.post.callAt id = some (found, point) → found = .offer request) ∧
          (request.enableTranscription = false ∨ FindsClosed deployment step id request)) →
        OnlyOffered step.pre id → OnlyOffered step.post id :=
      fun step hfires hallowed hpre => (onlyOffered_step hfires hallowed.1 hallowed.2 hpre).1
    intro move hmem
    obtain ⟨before, after, rfl⟩ := List.append_of_mem hmem
    have hbefore : OnlyOffered move.pre id :=
      Machine.Run.invariant_before (fun server => OnlyOffered server id) hkeeps hrun
        (fun step hstep => ⟨hoffer step (List.mem_append_left _ hstep),
          hcondition step (List.mem_append_left _ hstep)⟩)
        onlyOffered_new
    exact (onlyOffered_step hrun.split_at.2.1 (hoffer move hmem) (hcondition move hmem)
      hbefore).2

/-- A server whose media worker rejects every offer. -/
def rejecting : Deployment Unit Unit :=
  { Deployment.single with acceptOffer := fun states _ _ _ => (states, .error "invalid SDP") }

/-- An offer arrives, is rejected, and the call returns. -/
def offeredAndRejected (request : OfferRequest) : List ServerInput :=
  [.arrive (.offer request), .advance 0 [3478] .allSucceed, .media 3478 .poll,
    .advance 0 [3478] .allSucceed, .advance 0 [3478] .allSucceed]

theorem rejected_offer_untouched_iff_offeredAndRejected :
    ∃ moves final,
      (machine rejecting).exec (new rejecting) (offeredAndRejected ⟨1, 2, "", false⟩) =
        some (moves, final) ∧
      ∀ move ∈ moves, ActsFor move 0 → TranscriptionUntouched move := by
  have hexec : ∃ moves final,
      (machine rejecting).exec (new rejecting) (offeredAndRejected ⟨1, 2, "", false⟩) =
        some (moves, final) ∧
      final.callAt 0 = some (.offer ⟨1, 2, "", false⟩,
        .returned (.offer (.ok ⟨1, 2, "", "invalid SDP"⟩))) :=
    ⟨_, _, rfl, rfl⟩
  obtain ⟨moves, final, hexec, hreturned⟩ := hexec
  exact ⟨moves, final, hexec,
    (rejected_offer_untouched_iff (Machine.exec_run hexec) hreturned (by decide)).mpr (.inl rfl)⟩

/-- With transcription requested, the call queues a start before it returns the
error. -/
theorem rejected_offer_starts_session :
    ¬ ∀ (moves : List (ServerMove Unit Unit)) (final : Server Unit Unit)
        (response : OfferResponse),
      (machine rejecting).Run (new rejecting) moves final →
      final.callAt 0 = some (.offer ⟨1, 2, "", true⟩, .returned (.offer (.ok response))) →
      response.error ≠ "" →
      ∀ move ∈ moves, ActsFor move 0 → TranscriptionUntouched move := by
  intro hspares
  have hexec : ∃ moves final move,
      (machine rejecting).exec (new rejecting)
        (offeredAndRejected ⟨1, 2, "", true⟩ ++ [.advance 0 [3478] .allSucceed]) =
        some (moves, final) ∧
      final.callAt 0 = some (.offer ⟨1, 2, "", true⟩,
        .returned (.offer (.ok ⟨1, 2, "", "invalid SDP"⟩))) ∧
      -- the fifth step comes after the answer and before it is looked at
      moves[4]? = some move ∧ move.input = .advance 0 [3478] .allSucceed ∧
      move.pre.transcriber.commands.waiting = [] ∧
      move.post.transcriber.commands.waiting = [.startSession 1 2 none] :=
    ⟨_, _, _, rfl, rfl, rfl, rfl, rfl, rfl⟩
  obtain ⟨moves, final, move, hexec, hreturned, hmove, hinput, hbefore, hafter⟩ := hexec
  have huntouched := hspares moves final _ (Machine.exec_run hexec) hreturned (by decide) move
    (List.mem_of_getElem? hmove) (.inl ⟨[3478], .allSucceed, hinput⟩)
  rw [huntouched.transcriber, hbefore] at hafter
  contradiction

end Server
end Grpc
end MediaServer
