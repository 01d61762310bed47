import MediaServer.Grpc.Components

/-!
# Replies on the response channels

Every call that wants an answer creates a response channel for one message.  A
handler replies to offers and leaves and to nothing else of what calls send, and
a call sends at most one of these, so that a channel is sent to at most once: the
worker never finds it full, and what an offer receives is the answer to its own
description.

The invariant follows a message from the call to its reply: not sent yet,
waiting in the channel of one media worker, replied to.
-/

namespace MediaServer
namespace Signal

open Foundation Transcription

variable {σ : Type}

/-- The handlers of these messages leave the response channel alone. -/
def SignalingProtocolMessage.Unanswered (request : SignalingProtocolMessage) : Prop :=
  (∃ ssrc sessionId endpointId, request = .registerSsrc ssrc sessionId endpointId) ∨
  (∃ sessionId endpointId, request = .enableTranscription sessionId endpointId) ∨
  ∃ sessionId endpointId, request = .disableTranscription sessionId endpointId

theorem reply_of_unanswered {request : SignalingProtocolMessage} (hrequest : request.Unanswered)
    (acceptOffer : AcceptOffer σ) (serverStates : σ) (audioExtractor : Option RtpAudioExtractor) :
    (handleSignalingMessageWithExtractor acceptOffer serverStates request audioExtractor).reply =
      none := by
  rcases hrequest with ⟨_, _, _, rfl⟩ | ⟨_, _, rfl⟩ | ⟨_, _, rfl⟩ <;> rfl

/-- The response to an offer carries what `accept_offer` returned for its description,
under the session and the endpoint that it names. -/
inductive AnswersOffer (acceptOffer : AcceptOffer σ) (serverStates : σ)
    (sessionId endpointId : UInt64) (offer : String) : SignalingProtocolMessage → Prop
  | answered (answerSdp : String)
      (haccepted : (acceptOffer serverStates sessionId endpointId offer).2 = .ok answerSdp) :
      AnswersOffer acceptOffer serverStates sessionId endpointId offer
        (.answer sessionId endpointId answerSdp)
  | refused (reason : String)
      (hrejected : (acceptOffer serverStates sessionId endpointId offer).2 = .error reason) :
      AnswersOffer acceptOffer serverStates sessionId endpointId offer
        (.err sessionId endpointId reason)

theorem answersOffer_handleOfferMessage (acceptOffer : AcceptOffer σ) (serverStates : σ)
    (sessionId endpointId : UInt64) (offer : String) :
    AnswersOffer acceptOffer serverStates sessionId endpointId offer
      (handleOfferMessage acceptOffer serverStates sessionId endpointId offer).2 := by
  unfold handleOfferMessage
  split
  · rename_i states answerSdp haccepted
    exact .answered answerSdp (congrArg Prod.snd haccepted)
  · rename_i states reason hrejected
    exact .refused reason (congrArg Prod.snd hrejected)

/-- It is an answer or an error. -/
theorem AnswersOffer.cases_response {acceptOffer : AcceptOffer σ} {serverStates : σ}
    {sessionId endpointId : UInt64} {offer : String} {response : SignalingProtocolMessage}
    (hanswers : AnswersOffer acceptOffer serverStates sessionId endpointId offer response) :
    (∃ answerSdp, response = .answer sessionId endpointId answerSdp) ∨
      ∃ reason, response = .err sessionId endpointId reason := by
  cases hanswers with
  | answered answerSdp => exact .inl ⟨answerSdp, rfl⟩
  | refused reason => exact .inr ⟨reason, rfl⟩

end Signal

namespace Grpc

open Foundation Signal Transcription

/-! ## The message a call waits on -/

/-- The message of a call whose reply it may wait for. -/
def Request.question : Request → Option SignalingProtocolMessage
  | .offer request => some (.offer request.sessionId request.endpointId request.offerSdp)
  | .leave request => some (.leave request.sessionId request.endpointId)
  | .enableTranscription _ | .disableTranscription _ => none

/-- The call may still send that message. -/
def CallPoint.Unsent (point : CallPoint) : Prop := point = .entered ∨ point = .leaveSending

/-- The response a call has received. -/
def CallPoint.response : CallPoint → Option SignalingProtocolMessage
  | .offerAnswered _ response | .offerNotifying _ response => some response
  | _ => none

section Protocol

variable {portOf : UInt64 → Option UInt16} {channelOpen : Bool} {mediaOpen : UInt16 → Bool}
  {request : Request} {point after : CallPoint}

/-- The receiving half of a response channel is kept for the one message that is
replied to. -/
theorem CallStep.kept_cases {port : UInt16} {message : SignalingProtocolMessage} {kept : Bool}
    (hstep : CallStep portOf channelOpen mediaOpen request point (.message port message kept)
      after) :
    (kept = true ∧ request.question = some message ∧ portOf request.key.1 = some port ∧
      point.Unsent ∧ ¬ after.Unsent) ∨
    (kept = false ∧ message.Unanswered) := by
  cases hstep with
  | offerSent request port hport =>
      exact .inl ⟨rfl, rfl, hport, .inl rfl, by simp [CallPoint.Unsent]⟩
  | leaveSent request port hport =>
      exact .inl ⟨rfl, rfl, hport, .inr rfl, by simp [CallPoint.Unsent]⟩
  | offerNotified request port response => exact .inr ⟨rfl, .inr (.inl ⟨_, _, rfl⟩)⟩
  | enableNotified request port _ => exact .inr ⟨rfl, .inr (.inl ⟨_, _, rfl⟩)⟩
  | disableNotified request port _ => exact .inr ⟨rfl, .inr (.inr ⟨_, _, rfl⟩)⟩

/-- A call that has sent its message does not come back to send it. -/
theorem CallStep.unsent_of_after {effect : CallEffect}
    (hstep : CallStep portOf channelOpen mediaOpen request point effect after)
    (hafter : after.Unsent) : point.Unsent := by
  rcases hafter with rfl | rfl
  · cases hstep
  · cases hstep with
    | leaveStopped request _ => exact .inl rfl
    | leaveUnstopped request _ => exact .inl rfl

/-- A call comes by its response in one way. -/
theorem CallStep.response_cases {effect : CallEffect} {response : SignalingProtocolMessage}
    (hstep : CallStep portOf channelOpen mediaOpen request point effect after)
    (hresponse : after.response = some response) :
    point.response = some response ∨
      ∃ offered port, request = .offer offered ∧ point = .offerAwaiting port ∧
        after = .offerAnswered port response := by
  cases hstep with
  | offerReceived offered port received =>
      obtain rfl : received = response := Option.some.inj hresponse
      exact .inr ⟨offered, port, rfl, rfl, rfl⟩
  | offerStarted offered port received _ _ => exact .inl hresponse
  | _ => contradiction

/-- A call that has just got its response was waiting for it. -/
theorem CallStep.awaiting_of_answered {effect : CallEffect} {port : UInt16}
    {response : SignalingProtocolMessage}
    (hstep : CallStep portOf channelOpen mediaOpen request point effect
      (.offerAnswered port response)) :
    ∃ offered, request = .offer offered ∧ point = .offerAwaiting port := by
  cases hstep with
  | offerReceived offered _ _ => exact ⟨offered, rfl, rfl⟩

/-- Only an offer waits for a message. -/
theorem action_receive {wiring : Wiring} {keys : List UInt16}
    {received : SignalingProtocolMessage → CallPoint} {failed : CallPoint}
    (haction : SignalingSvc.action wiring keys request point = some (.receive received failed)) :
    (∃ port, point = .offerAwaiting port ∧ received = .offerAnswered port) ∧
      ∃ reply, failed = .returned reply := by
  cases request with
  | offer request =>
      simp only [SignalingSvc.action, SignalingSvc.offer] at haction
      split at haction
      · split at haction <;> simp at haction
      · rename_i port
        obtain ⟨rfl, rfl⟩ := by simpa using haction
        exact ⟨⟨port, rfl, rfl⟩, _, rfl⟩
      · split at haction <;> simp at haction
      · simp at haction
      · contradiction
  | leave request =>
      simp only [SignalingSvc.action, SignalingSvc.leave] at haction
      split at haction
      · simp at haction
      · split at haction <;> simp at haction
      · simp at haction
      · contradiction
  | enableTranscription request =>
      simp only [SignalingSvc.action, SignalingSvc.enableTranscription] at haction
      split at haction
      · split at haction
        · split at haction <;> simp at haction
        · simp at haction
      · split at haction <;> simp at haction
      · contradiction
  | disableTranscription request =>
      simp only [SignalingSvc.action, SignalingSvc.disableTranscription] at haction
      split at haction
      · split at haction <;> simp at haction
      · split at haction <;> simp at haction
      · contradiction

end Protocol

variable {σ δ : Type}

namespace Server

/-! ## Replies and inboxes -/

/-- What waits in the response channel of a call. -/
def inboxAt (server : Server σ δ) (id : Nat) : Option SignalingProtocolMessage :=
  (server.calls[id]?).bind Call.inbox

/-- The message a media worker takes in a step, with the thread of the worker. -/
def takenIn (move : ServerMove σ δ) : Option (MediaThread σ × SignalingMessage) :=
  match move.input with
  | .media port .poll =>
      (move.pre.media.get port).bind fun thread =>
        thread.rx.pop.map fun popped => (thread, popped.1)
  | _ => none

/-- What the handler of a message sends on its response channel. -/
def replyTo (deployment : Deployment σ δ) (thread : MediaThread σ) (message : SignalingMessage) :
    Option SignalingProtocolMessage :=
  (handleSignalingMessageWithExtractor deployment.acceptOffer thread.worker.serverStates
    message.request (some thread.worker.audioExtractor)).reply

/-- What a media worker sends in a step on a response channel of a call, whether or
not the call still listens. -/
def repliedTo (deployment : Deployment σ δ) (id : Nat) (move : ServerMove σ δ) :
    Option SignalingProtocolMessage :=
  (takenIn move).bind fun taken =>
    if taken.2.call = id then replyTo deployment taken.1 taken.2 else none

/-- All that is sent on the response channels of a call. -/
def repliesFor (deployment : Deployment σ δ) (id : Nat) (moves : List (ServerMove σ δ)) :
    List SignalingProtocolMessage :=
  moves.filterMap (repliedTo deployment id)

variable {deployment : Deployment σ δ} {move : ServerMove σ δ} {id : Nat}

theorem takenIn_eq_some_iff {thread : MediaThread σ} {message : SignalingMessage} :
    takenIn move = some (thread, message) ↔
      ∃ port rest, move.input = .media port .poll ∧ move.pre.media.get port = some thread ∧
        thread.rx.pop = some (message, rest) := by
  unfold takenIn
  constructor
  · intro htaken
    split at htaken
    · rename_i port hinput
      obtain ⟨found, hfound, hpopped⟩ := Option.bind_eq_some_iff.mp htaken
      obtain ⟨⟨taken, rest⟩, hpop, hboth⟩ := Option.map_eq_some_iff.mp hpopped
      obtain ⟨rfl, rfl⟩ := Prod.mk.inj hboth
      exact ⟨port, rest, hinput, hfound, hpop⟩
    · contradiction
  · rintro ⟨port, rest, hinput, hthread, hpop⟩
    simp [hinput, hthread, hpop]

theorem repliedTo_eq_some_iff {reply : SignalingProtocolMessage} :
    repliedTo deployment id move = some reply ↔
      ∃ thread message, takenIn move = some (thread, message) ∧ message.call = id ∧
        replyTo deployment thread message = some reply := by
  unfold repliedTo
  constructor
  · intro hreplied
    obtain ⟨⟨thread, message⟩, htaken, hreply⟩ := Option.bind_eq_some_iff.mp hreplied
    split at hreply
    · rename_i hcall
      exact ⟨thread, message, htaken, hcall, hreply⟩
    · contradiction
  · rintro ⟨thread, message, htaken, hcall, hreply⟩
    simp [htaken, hcall, hreply]

theorem repliesFor_append (moves : List (ServerMove σ δ)) :
    repliesFor deployment id (moves ++ [move]) =
      repliesFor deployment id moves ++ (repliedTo deployment id move).toList := by
  unfold repliesFor
  rw [List.filterMap_append]
  cases hreplied : repliedTo deployment id move <;> simp [hreplied]

/-- What a step is for the response channel of a call. -/
inductive InboxStep (deployment : Deployment σ δ) (move : ServerMove σ δ) (id : Nat) : Prop
  | unchanged (hinbox : move.post.inboxAt id = move.pre.inboxAt id)
      (hcall : ∀ request port response,
        move.post.callAt id = some (request, .offerAnswered port response) →
          move.pre.callAt id = some (request, .offerAnswered port response))
  /-- the call takes the reply -/
  | received (request : Request) (port : UInt16) (response : SignalingProtocolMessage)
      (hbefore : move.pre.inboxAt id = some response) (hafter : move.post.inboxAt id = none)
      (hcall : move.post.callAt id = some (request, .offerAnswered port response))
  /-- the reply of a media worker reaches it -/
  | replied (reply : SignalingProtocolMessage)
      (hreplied : repliedTo deployment id move = some reply)
      (hafter : move.post.inboxAt id = some reply)
      (hcall : move.post.callAt id = move.pre.callAt id)

theorem inboxAt_set {server next : Server σ δ} {call updated : Call}
    (hcall : server.calls[id]? = some call) (hcalls : next.calls = server.calls.set id updated)
    (other : Nat) :
    next.inboxAt other = if other = id then updated.inbox else server.inboxAt other := by
  have hlt : id < server.calls.length := (List.getElem?_eq_some_iff.mp hcall).1
  unfold inboxAt
  rw [hcalls, List.getElem?_set]
  by_cases hother : other = id
  · subst hother
    simp [hlt]
  · rw [if_neg (Ne.symm hother), if_neg hother]

/-- What the interpretation of an action does to the call: it moves, or it takes the
reply that waits. -/
theorem calls_of_act {server next : Server σ δ} {call : Call} {env : Environment}
    {action : Action} (hact : server.act deployment id call env action = some next) :
    (∃ point, next.calls = server.calls.set id { call with point := point } ∧
      ∀ received failed, action = .receive received failed → point = failed) ∨
    ∃ received failed response, action = .receive received failed ∧
      call.inbox = some response ∧
      next.calls = server.calls.set id ⟨call.request, received response, none⟩ := by
  unfold act at hact
  cases action with
  | proceed after =>
      obtain rfl := Option.some.inj hact
      exact .inl ⟨after, rfl, by simp⟩
  | startSession sessionId endpointId config started failed =>
      dsimp only at hact
      split at hact
      · obtain rfl := Option.some.inj hact
        exact .inl ⟨started, rfl, by simp⟩
      · rename_i reason _
        obtain rfl := Option.some.inj hact
        exact .inl ⟨failed reason, rfl, by simp⟩
  | stopSession sessionId endpointId after =>
      obtain rfl := Option.some.inj hact
      exact .inl ⟨after, rfl, by simp⟩
  | message port request kept sent failed absent =>
      dsimp only at hact
      split at hact
      · obtain rfl := Option.some.inj hact
        exact .inl ⟨absent, rfl, by simp⟩
      · split at hact
        · split at hact
          · obtain rfl := Option.some.inj hact
            exact .inl ⟨sent, rfl, by simp⟩
          · contradiction
        · obtain rfl := Option.some.inj hact
          exact .inl ⟨failed, rfl, by simp⟩
  | receive received failed =>
      dsimp only at hact
      split at hact
      · rename_i response hinbox
        obtain rfl := Option.some.inj hact
        exact .inr ⟨received, failed, response, rfl, hinbox, rfl⟩
      · split at hact
        · split at hact
          · contradiction
          · obtain rfl := Option.some.inj hact
            refine .inl ⟨failed, rfl, fun other last hboth => ?_⟩
            injection hboth
        · contradiction

theorem inboxAt_of_calls {server next : Server σ δ} (hcalls : next.calls = server.calls)
    (id : Nat) : next.inboxAt id = server.inboxAt id := by
  unfold inboxAt
  rw [hcalls]

/-- A step in which no call advances gives no call its response. -/
theorem answered_of_not_advance (hfires : (machine deployment).Fires move)
    (hinput : ∀ other keys env, move.input ≠ .advance other keys env) {request : Request}
    {port : UInt16} {response : SignalingProtocolMessage}
    (hcall : move.post.callAt id = some (request, .offerAnswered port response)) :
    move.pre.callAt id = some (request, .offerAnswered port response) := by
  rcases callAt_post_cases hfires hcall with
    ⟨hentered, -⟩ | ⟨before, effect, htakes⟩ | ⟨-, hbefore⟩
  · contradiction
  · obtain ⟨keys, env, hadvance⟩ := htakes.advances
    exact absurd hadvance (hinput id keys env)
  · exact hbefore

/-- A call that advances to having its response was waiting for it. -/
theorem answered_by_receive {server next : Server σ δ} {keys : List UInt16} {env : Environment}
    {call : Call} {request : Request} {port : UInt16} {response : SignalingProtocolMessage}
    (hfires : (machine deployment).Fires ⟨server, .advance id keys env, next, []⟩)
    (hcall : server.calls[id]? = some call)
    (hanswered : next.callAt id = some (request, .offerAnswered port response)) :
    ∃ offered, call.request = .offer offered ∧ call.point = .offerAwaiting port := by
  obtain ⟨asked, point, effect, after, htakes⟩ := takesTransition_of_fires hfires rfl
  obtain ⟨rfl, rfl⟩ : call.request = asked ∧ call.point = point := by
    have hbefore : server.callAt id = some (asked, point) := htakes.before
    rw [callAt, hcall] at hbefore
    simpa using hbefore
  obtain rfl : after = .offerAnswered port response := by
    have hafter : next.callAt id = some (call.request, after) := htakes.callAt
    rw [hanswered] at hafter
    obtain ⟨-, hpoint⟩ := Prod.mk.inj (Option.some.inj hafter)
    exact hpoint.symm
  exact htakes.callStep.awaiting_of_answered

/-- What a call that advances does to its response channel. -/
theorem inboxStep_of_advance {server next : Server σ δ} {other : Nat} {keys : List UInt16}
    {env : Environment} (hfires : (machine deployment).Fires ⟨server, .advance other keys env, next,
      []⟩) (hadvance : server.advance deployment other keys env = some next) (id : Nat) :
    InboxStep deployment ⟨server, .advance other keys env, next, []⟩ id := by
  unfold advance at hadvance
  split at hadvance
  · contradiction
  · rename_i call hcall
    split at hadvance
    · split at hadvance
      · contradiction
      · rename_i action haction
        rcases calls_of_act hadvance with
          ⟨moved, hcalls, hfailed⟩ | ⟨received, failed, response, rfl, hinbox, hcalls⟩
        · refine .unchanged ?_ fun request port response hanswered => ?_
          · dsimp only
            rw [inboxAt_set hcall hcalls]
            split
            · rename_i hid
              rw [hid, inboxAt, hcall]
              rfl
            · rfl
          · dsimp only at hanswered ⊢
            rw [callAt_set hcall hcalls] at hanswered
            split at hanswered
            · rename_i hid
              subst hid
              -- nothing but the receipt of a reply leads to this point
              obtain ⟨offered, hoffer, hawaiting⟩ := answered_by_receive hfires hcall
                (by rw [callAt_set hcall hcalls, if_pos rfl, hanswered])
              rw [hoffer, hawaiting] at haction
              have hpoint := hfailed _ _ (Option.some.inj haction).symm
              obtain ⟨-, hmoved⟩ := Prod.mk.inj (Option.some.inj hanswered)
              rw [hpoint] at hmoved
              contradiction
            · exact hanswered
        · by_cases hid : id = other
          · subst hid
            obtain ⟨⟨port, -, rfl⟩, -⟩ := action_receive haction
            refine .received call.request port response ?_ ?_ ?_
            · dsimp only
              rw [inboxAt, hcall]
              exact hinbox
            · dsimp only
              rw [inboxAt_set hcall hcalls, if_pos rfl]
            · dsimp only
              rw [callAt_set hcall hcalls, if_pos rfl]
          · refine .unchanged ?_ fun request port response hanswered => ?_
            · dsimp only
              rw [inboxAt_set hcall hcalls, if_neg hid]
            · dsimp only at hanswered ⊢
              rwa [callAt_set hcall hcalls, if_neg hid] at hanswered
    · contradiction

/-- The loop leaves all calls alone. -/
theorem calls_of_loopStep {server next : Server σ δ} {port : UInt16} {thread : MediaThread σ}
    {input : LoopInput} {outputs : List LoopOutput}
    (hstep : server.loopStep deployment port thread input = some (next, outputs)) :
    next.calls = server.calls ∧
      ∃ worker, thread.worker.step deployment.acceptOffer input = some (worker, outputs) := by
  unfold loopStep at hstep
  split at hstep
  · contradiction
  · rename_i worker sent hworker
    obtain ⟨rfl, rfl⟩ := Prod.mk.inj (Option.some.inj hstep)
    refine ⟨?_, worker, hworker⟩
    unfold sendCommands
    split <;> rfl

/-- A worker that handles a message replies when its handler does and the call still
listens. -/
theorem sentReply_of_step {thread : MediaThread σ} {message : SignalingMessage} {listening : Bool}
    {worker : MediaWorker σ} {outputs : List LoopOutput}
    (hstep : thread.worker.step deployment.acceptOffer (.poll (some (message.request, listening))) =
      some (worker, outputs)) :
    sentReply outputs = if listening then replyTo deployment thread message else none := by
  simp only [MediaWorker.step] at hstep
  split at hstep
  · obtain rfl : (thread.worker.handle deployment.acceptOffer message.request listening).2 =
        outputs := congrArg Prod.snd (Option.some.inj hstep)
    simp only [MediaWorker.handle, replyTo]
    cases hreply : (handleSignalingMessageWithExtractor deployment.acceptOffer
      thread.worker.serverStates message.request (some thread.worker.audioExtractor)).reply with
    | none => cases listening <;> rfl
    | some reply => cases listening <;> rfl
  · contradiction

/-- A reply that is delivered reaches one response channel, and found it empty. -/
theorem inboxAt_of_deliver {server next : Server σ δ} {target : Nat}
    {reply : SignalingProtocolMessage} (hdeliver : server.deliver target reply = some next) :
    (next = server ∧ server.calls[target]? = none) ∨
    (server.inboxAt target = none ∧ ∀ other,
      next.inboxAt other = if other = target then some reply else server.inboxAt other) := by
  unfold deliver at hdeliver
  split at hdeliver
  · rename_i hnone
    exact .inl ⟨(Option.some.inj hdeliver).symm, hnone⟩
  · rename_i call hcall
    split at hdeliver
    · contradiction
    · rename_i hempty
      obtain rfl := Option.some.inj hdeliver
      refine .inr ⟨?_, fun other => ?_⟩
      · rw [inboxAt, hcall]
        exact hempty
      · rw [inboxAt_set hcall rfl]

/-- What a step of a media worker's thread does to a response channel. -/
theorem inboxAt_of_mediaStep {server next : Server σ δ} {port : UInt16} {input : MediaInput}
    (hstep : server.mediaStep deployment port input = some next) (outputs : List SendAudio)
    (id : Nat) :
    next.inboxAt id = server.inboxAt id ∨
      ∃ reply, repliedTo deployment id ⟨server, .media port input, next, outputs⟩ = some reply ∧
        next.inboxAt id = some reply := by
  unfold mediaStep at hstep
  split at hstep
  · contradiction
  · rename_i thread hthread
    split at hstep
    · have hquiet : ∀ loopInput,
          (server.loopStep deployment port thread loopInput).map Prod.fst = some next →
          next.inboxAt id = server.inboxAt id := by
        intro loopInput hmoved
        obtain ⟨⟨moved, sent⟩, hloop, rfl⟩ := Option.map_eq_some_iff.mp hmoved
        exact inboxAt_of_calls (calls_of_loopStep hloop).1 id
      cases input with
      | poll =>
          dsimp only at hstep
          split at hstep
          · exact .inl (hquiet _ hstep)
          · rename_i message rx hpop
            split at hstep
            · contradiction
            · rename_i moved sent hloop
              obtain ⟨hcalls, worker, hworker⟩ := calls_of_loopStep hloop
              have hmoved := inboxAt_of_calls hcalls
              split at hstep
              · obtain rfl := Option.some.inj hstep
                exact .inl (hmoved id)
              · rename_i reply hreply
                rcases inboxAt_of_deliver hstep with ⟨rfl, -⟩ | ⟨-, hinbox⟩
                · exact .inl (hmoved id)
                · by_cases hid : id = message.call
                  · right
                    have htaken : takenIn (⟨server, .media port .poll, next, outputs⟩ :
                        ServerMove σ δ) = some (thread, message) :=
                      takenIn_eq_some_iff.mpr ⟨port, rx, rfl, hthread, hpop⟩
                    have hreplied : replyTo deployment thread message = some reply := by
                      have hsent := sentReply_of_step hworker
                      rw [hreply] at hsent
                      split at hsent
                      · exact hsent.symm
                      · contradiction
                    refine ⟨reply, ?_, by rw [hinbox, if_pos hid]⟩
                    exact repliedTo_eq_some_iff.mpr
                      ⟨thread, message, htaken, hid.symm, hreplied⟩
                  · left
                    rw [hinbox, if_neg hid, hmoved]
      | drain => exact .inl (hquiet _ hstep)
      | read arrivals => exact .inl (hquiet _ hstep)
      | stop =>
          obtain rfl := Option.some.inj hstep
          exact .inl rfl
    · contradiction

/-- Every step is one of these for every response channel. -/
theorem inboxStep_of_fires (hfires : (machine deployment).Fires move) (id : Nat) :
    InboxStep deployment move id := by
  obtain ⟨server, input, next, outputs⟩ := move
  have hstep : server.step deployment input = some (next, outputs) := hfires
  cases input with
  | arrive request =>
      obtain ⟨rfl, rfl⟩ := Prod.mk.inj (Option.some.inj hstep)
      refine .unchanged ?_ fun _ _ _ => answered_of_not_advance hfires (by simp)
      show inboxAt _ id = server.inboxAt id
      unfold inboxAt
      dsimp only
      rw [List.getElem?_append]
      split
      · rfl
      · rename_i hpast
        rw [List.getElem?_eq_none (Nat.le_of_not_lt hpast)]
        cases hindex : id - server.calls.length <;> rfl
  | advance other keys env =>
      obtain ⟨moved, hadvance, hmoved⟩ := Option.map_eq_some_iff.mp hstep
      obtain ⟨rfl, rfl⟩ := Prod.mk.inj hmoved
      exact inboxStep_of_advance hfires hadvance id
  | media port input =>
      obtain ⟨moved, hmedia, hmoved⟩ := Option.map_eq_some_iff.mp hstep
      obtain ⟨rfl, rfl⟩ := Prod.mk.inj hmoved
      rcases inboxAt_of_mediaStep hmedia [] id with hsame | ⟨reply, hreplied, hinbox⟩
      · exact .unchanged hsame fun _ _ _ => answered_of_not_advance hfires (by simp)
      · refine .replied reply hreplied hinbox ?_
        have hserver := serverStep_of_mediaStep hmedia
        cases hserver with
        | looped _ _ _ _ _ _ _ _ _ _ _ _ _ _ hcalls => exact hcalls id
        | stopped _ _ _ _ hnext => rw [hnext]; rfl
  | transcribe env =>
      refine .unchanged (inboxAt_of_calls ?_ id) fun _ _ _ =>
        answered_of_not_advance hfires (by simp)
      have hserver : ServerStep deployment server next (.transcribe env) outputs :=
        serverStep_of_fires hfires
      cases hserver with
      | transcribed _ _ _ _ _ hnext =>
          subst hnext
          rfl

/-! ## The course of a message -/

/-- The message of the call waits in the channel of the media worker of the port. -/
def Awaited (server : Server σ δ) (id : Nat) (port : UInt16) : Prop :=
  ∃ thread, server.media.get port = some thread ∧
    ∃ message ∈ thread.rx.waiting, message.call = id ∧ message.kept = true

/-- The message is one that its call has sent. -/
def Composed (server : Server σ δ) (message : SignalingMessage) : Prop :=
  ∃ request point, server.callAt message.call = some (request, point) ∧
    ((message.kept = true ∧ request.question = some message.request) ∨
      (message.kept = false ∧ message.request.Unanswered))

/-- What waits in the channel of a media worker. -/
structure Posted (server : Server σ δ) (thread : MediaThread σ) : Prop where
  single : thread.rx.waiting.length ≤ 1
  composed : ∀ message ∈ thread.rx.waiting, Composed server message

theorem composed_fires (hfires : (machine deployment).Fires move) {message : SignalingMessage}
    (hcomposed : Composed move.pre message) : Composed move.post message := by
  obtain ⟨request, point, hcall, hmessage⟩ := hcomposed
  rcases callAt_fires hfires hcall with ⟨effect, after, htakes⟩ | ⟨-, hsame⟩
  · exact ⟨request, after, htakes.callAt, hmessage⟩
  · exact ⟨request, point, hsame, hmessage⟩

theorem posted_step (hfires : (machine deployment).Fires move) {port : UInt16}
    {thread after : MediaThread σ} (hstep : ThreadStep deployment move port thread after)
    (hposted : Posted move.pre thread) : Posted move.post after := by
  have hkept : ∀ message ∈ thread.rx.waiting, Composed move.post message :=
    fun message hmem => composed_fires hfires (hposted.composed message hmem)
  cases hstep with
  | unchanged => exact ⟨hposted.single, hkept⟩
  | received id request point last message kept htakes hempty =>
      have hwaiting : (thread.rx.push ⟨message, id, kept⟩).waiting = [⟨message, id, kept⟩] := by
        rw [Fifo.waiting_push, hempty, List.nil_append]
      constructor
      · rw [hwaiting, List.length_singleton]
      · intro sent hsent
        rw [hwaiting, List.mem_singleton] at hsent
        subst hsent
        refine ⟨request, last, htakes.callAt, ?_⟩
        rcases htakes.callStep.kept_cases with ⟨hkept, hquestion, -⟩ | hunkept
        · exact .inl ⟨hkept, hquestion⟩
        · exact .inr hunkept
  | handled message rest worker hinput hrunning hpop hextractor htranscriber =>
      have hnone : rest.waiting = [] := Fifo.waiting_pop_of_single hpop hposted.single
      constructor
      · rw [hnone]
        exact Nat.zero_le 1
      · rw [hnone]
        simp
  | continued input worker hinput hrunning hpoll hextractor => exact ⟨hposted.single, hkept⟩
  | stopped hinput => exact ⟨hposted.single, hkept⟩

/-- What waits in the channels of all media workers. -/
theorem posted_run {final : Server σ δ} {moves : List (ServerMove σ δ)}
    (hrun : (machine deployment).Run (new deployment) moves final) {port : UInt16}
    {thread : MediaThread σ} (hthread : final.media.get port = some thread) :
    Posted final thread := by
  refine hrun.invariant
    (fun server => ∀ port thread, server.media.get port = some thread → Posted server thread)
    ?_ ?_ port thread hthread
  · intro move hfires hposted
    exact forall_thread_post hfires hposted fun _ _ _ _ hstep => posted_step hfires hstep
  · intro port thread hthread
    obtain rfl := thread_of_new hthread
    exact ⟨Nat.zero_le 1, by simp [MediaThread.new]⟩

/-- A message comes to wait in a channel when its call sends it. -/
theorem awaited_fires (hfires : (machine deployment).Fires move) {port : UInt16}
    (hawaited : move.post.Awaited id port) :
    move.pre.Awaited id port ∨
      ∃ request point after message,
        TakesTransition deployment move id request point (.message port message true) after := by
  obtain ⟨after, hafter, message, hmem, hcall, hkept⟩ := hawaited
  cases hthread : move.pre.media.get port with
  | none =>
      rw [media_none_of_fires hfires hthread] at hafter
      contradiction
  | some thread =>
      obtain ⟨found, hfound, hstep⟩ := threadStep_of_fires hfires hthread
      obtain rfl : found = after := Option.some.inj (hfound.symm.trans hafter)
      have hbefore : message ∈ thread.rx.waiting → move.pre.Awaited id port :=
        fun hmem => ⟨thread, hthread, message, hmem, hcall, hkept⟩
      cases hstep with
      | unchanged => exact .inl (hbefore hmem)
      | received sender request point last sent kept htakes hempty =>
          rw [Fifo.waiting_push, List.mem_append, List.mem_singleton] at hmem
          rcases hmem with hearlier | rfl
          · exact .inl (hbefore hearlier)
          · dsimp only at hcall hkept
            subst hcall hkept
            exact .inr ⟨request, point, last, sent, htakes⟩
      | handled taken rest worker hinput hrunning hpop hextractor htranscriber =>
          exact .inl (hbefore (Fifo.mem_waiting_of_mem_pop hpop hmem))
      | continued input worker hinput hrunning hpoll hextractor => exact .inl (hbefore hmem)
      | stopped hinput => exact .inl (hbefore hmem)

/-- The worker that takes a message has it no longer in its channel. -/
theorem thread_of_taken (hfires : (machine deployment).Fires move) {port : UInt16}
    {thread : MediaThread σ} {message : SignalingMessage} {rest : Fifo SignalingMessage}
    (hinput : move.input = .media port .poll) (hthread : move.pre.media.get port = some thread)
    (hpop : thread.rx.pop = some (message, rest)) :
    (∃ worker, move.post.media.get port = some ⟨worker, rest, true⟩) ∧
      ∀ id, move.post.callAt id = move.pre.callAt id := by
  obtain ⟨server, input, next, outputs⟩ := move
  have hstep : ServerStep deployment server next input outputs := serverStep_of_fires hfires
  obtain rfl : input = .media port .poll := hinput
  cases hstep with
  | looped port input found loopInput taken rx worker loopOutputs hfound hrunning htaken hloop
      hmedia htranscriber hcalls =>
      obtain rfl : thread = found := Option.some.inj (hthread.symm.trans hfound)
      refine ⟨⟨worker, ?_⟩, hcalls⟩
      dsimp only
      rw [hmedia, HashMap.get_insert, if_pos rfl]
      cases htaken with
      | idle hempty =>
          rw [hempty] at hpop
          contradiction
      | message other rx hother =>
          obtain ⟨rfl, rfl⟩ := Prod.mk.inj (Option.some.inj (hother.symm.trans hpop))
          rfl

/-- What has been sent on the response channels of a call, against where its message
is: nothing before it is taken, and then the one reply. -/
structure Accounted (server : Server σ δ) (id : Nat) (replies : List SignalingProtocolMessage) :
    Prop where
  single : replies.length ≤ 1
  unsent : (∀ request point, server.callAt id = some (request, point) → point.Unsent) →
    replies = [] ∧ ∀ port, ¬ server.Awaited id port
  unique : ∀ port other, server.Awaited id port → server.Awaited id other → port = other
  awaited : ∀ port, server.Awaited id port → replies = []
  inbox : ∀ reply, server.inboxAt id = some reply → replies = [reply]
  response : ∀ request point response, server.callAt id = some (request, point) →
    point.response = some response → replies = [response]

theorem accounted_new (deployment : Deployment σ δ) (id : Nat) :
    Accounted (new deployment) id [] := by
  have hawaited : ∀ port, ¬ (new deployment).Awaited id port := by
    rintro port ⟨thread, hthread, message, hmem, -⟩
    obtain rfl := thread_of_new hthread
    simp [MediaThread.new] at hmem
  constructor
  · exact Nat.zero_le 1
  · exact fun _ => ⟨rfl, hawaited⟩
  · exact fun port _ hport => absurd hport (hawaited port)
  · exact fun _ _ => rfl
  · intro reply hinbox
    simp [inboxAt, new] at hinbox
  · intro request point response hcall
    simp [callAt, new] at hcall

variable {replies : List SignalingProtocolMessage}

/-- A message that is replied to is the one the call waits on. -/
theorem awaited_of_replied {server : Server σ δ} {thread : MediaThread σ}
    {message : SignalingMessage} {port : UInt16} {rest : Fifo SignalingMessage}
    {reply : SignalingProtocolMessage}
    (hposted : Posted server thread) (hthread : server.media.get port = some thread)
    (hpop : thread.rx.pop = some (message, rest))
    (hreply : replyTo deployment thread message = some reply) :
    server.Awaited message.call port ∧ rest.waiting = [] := by
  have hmem : message ∈ thread.rx.waiting := Fifo.mem_waiting_of_pop hpop
  constructor
  · obtain ⟨request, point, -, ⟨hkept, -⟩ | ⟨-, hunanswered⟩⟩ := hposted.composed message hmem
    · exact ⟨thread, hthread, message, hmem, rfl, hkept⟩
    · have hnone : replyTo deployment thread message = none :=
        reply_of_unanswered hunanswered _ _ _
      rw [hnone] at hreply
      contradiction
  · exact Fifo.waiting_pop_of_single hpop hposted.single

/-- The worker replies to the message of the call. -/
theorem accounted_replied (hfires : (machine deployment).Fires move)
    (hposted : ∀ port thread, move.pre.media.get port = some thread → Posted move.pre thread)
    {reply : SignalingProtocolMessage} (hreplied : repliedTo deployment id move = some reply)
    (haccounted : Accounted move.pre id replies) :
    replies = [] ∧ Accounted move.post id [reply] := by
  obtain ⟨thread, message, htaken, rfl, hreply⟩ := repliedTo_eq_some_iff.mp hreplied
  obtain ⟨port, rest, hinput, hthread, hpop⟩ := takenIn_eq_some_iff.mp htaken
  obtain ⟨hawaited, hrest⟩ := awaited_of_replied (hposted port thread hthread) hthread hpop hreply
  obtain ⟨⟨worker, hworker⟩, hcalls⟩ := thread_of_taken hfires hinput hthread hpop
  have hnone := haccounted.awaited port hawaited
  -- the message was in one channel, and it is no longer there
  have hgone : ∀ other, ¬ move.post.Awaited message.call other := by
    intro other hother
    rcases awaited_fires hfires hother with hbefore | ⟨request, point, after, sent, htakes⟩
    · obtain rfl := haccounted.unique other port hbefore hawaited
      obtain ⟨after, hafter, found, hmem, -⟩ := hother
      obtain rfl := Option.some.inj (hworker.symm.trans hafter)
      dsimp only at hmem
      rw [hrest] at hmem
      contradiction
    · obtain ⟨keys, env, hadvance⟩ := htakes.advances
      rw [hinput] at hadvance
      contradiction
  refine ⟨hnone, Nat.le_refl 1, ?_, ?_, ?_, ?_, ?_⟩
  · intro hunsent
    have hbefore := haccounted.unsent fun request point hcall =>
      hunsent request point (by rw [hcalls, hcall])
    exact absurd hawaited (hbefore.2 port)
  · exact fun other _ hother => absurd hother (hgone other)
  · exact fun other hother => absurd hother (hgone other)
  · intro other hinbox
    rcases inboxStep_of_fires hfires message.call with
      ⟨hsame, -⟩ | ⟨_, _, _, -, hempty, -⟩ | ⟨sent, hsent, hafter, -⟩
    · rw [hsame] at hinbox
      have hearlier := haccounted.inbox other hinbox
      rw [hnone] at hearlier
      contradiction
    · rw [hempty] at hinbox
      contradiction
    · obtain rfl := Option.some.inj (hsent.symm.trans hreplied)
      rw [Option.some.inj (hafter.symm.trans hinbox)]
  · intro request point response hcall hresponse
    rw [hcalls] at hcall
    have hearlier := haccounted.response request point response hcall hresponse
    rw [hnone] at hearlier
    contradiction

/-- The worker does not reply to the message of the call. -/
theorem accounted_quiet (hfires : (machine deployment).Fires move)
    (hreplied : repliedTo deployment id move = none) (haccounted : Accounted move.pre id replies) :
    Accounted move.post id replies := by
  -- a call that sends its message had none under way
  have hsends : ∀ {request point after message port},
      TakesTransition deployment move id request point (.message port message true) after →
      (replies = [] ∧ ∀ port, ¬ move.pre.Awaited id port) ∧
        deployment.portOf request.key.1 = some port ∧ ¬ after.Unsent := by
    intro request point after message port htakes
    rcases htakes.callStep.kept_cases with ⟨-, -, hport, hunsent, hafter⟩ | ⟨hfalse, -⟩
    · refine ⟨haccounted.unsent fun asked at_ hcall => ?_, hport, hafter⟩
      obtain ⟨rfl, rfl⟩ := Prod.mk.inj (Option.some.inj (htakes.before.symm.trans hcall))
      exact hunsent
    · contradiction
  constructor
  · exact haccounted.single
  · intro hunsent
    have hbefore := haccounted.unsent fun request point hcall => by
      rcases callAt_fires hfires hcall with ⟨effect, after, htakes⟩ | ⟨-, hsame⟩
      · exact htakes.callStep.unsent_of_after (hunsent request after htakes.callAt)
      · exact hunsent request point hsame
    refine ⟨hbefore.1, fun port hport => ?_⟩
    rcases awaited_fires hfires hport with hearlier | ⟨request, point, after, message, htakes⟩
    · exact hbefore.2 port hearlier
    · exact (hsends htakes).2.2 (hunsent request after htakes.callAt)
  · intro port other hport hother
    rcases awaited_fires hfires hport with hbefore | ⟨request, point, after, message, htakes⟩
    · rcases awaited_fires hfires hother with hearlier | ⟨_, _, _, _, htakes⟩
      · exact haccounted.unique port other hbefore hearlier
      · exact absurd hbefore ((hsends htakes).1.2 port)
    · rcases awaited_fires hfires hother with hearlier | ⟨asked, at_, last, sent, hagain⟩
      · exact absurd hearlier ((hsends htakes).1.2 other)
      · obtain ⟨rfl, -⟩ :=
          Prod.mk.inj (Option.some.inj (htakes.before.symm.trans hagain.before))
        exact Option.some.inj ((hsends htakes).2.1.symm.trans (hsends hagain).2.1)
  · intro port hport
    rcases awaited_fires hfires hport with hbefore | ⟨request, point, after, message, htakes⟩
    · exact haccounted.awaited port hbefore
    · exact (hsends htakes).1.1
  · intro reply hinbox
    rcases inboxStep_of_fires hfires id with
      ⟨hsame, -⟩ | ⟨_, _, _, -, hempty, -⟩ | ⟨sent, hsent, -, -⟩
    · exact haccounted.inbox reply (hsame ▸ hinbox)
    · rw [hempty] at hinbox
      contradiction
    · rw [hreplied] at hsent
      contradiction
  · intro request point response hcall hresponse
    rcases callAt_post_cases hfires hcall with ⟨rfl, -⟩ | ⟨before, effect, htakes⟩ | ⟨-, hbefore⟩
    · contradiction
    · rcases htakes.callStep.response_cases hresponse with
        hearlier | ⟨offered, port, rfl, rfl, rfl⟩
      · exact haccounted.response request before response htakes.before hearlier
      · rcases inboxStep_of_fires hfires id with
          ⟨-, hanswered⟩ | ⟨_, _, received, hinbox, -, hreceived⟩ | ⟨sent, hsent, -, -⟩
        · have hstill := hanswered _ _ _ hcall
          rw [htakes.before] at hstill
          simp at hstill
        · have hsame := hcall.symm.trans hreceived
          obtain ⟨-, -, rfl⟩ := by simpa using hsame
          exact haccounted.inbox response hinbox
        · rw [hreplied] at hsent
          contradiction
    · exact haccounted.response request point response hbefore hresponse

theorem accounted_run {final : Server σ δ} {moves : List (ServerMove σ δ)}
    (hrun : (machine deployment).Run (new deployment) moves final) (id : Nat) :
    Accounted final id (repliesFor deployment id moves) := by
  refine hrun.history (fun moves server => Accounted server id (repliesFor deployment id moves))
    ?_ (accounted_new deployment id)
  intro earlier move hbefore hfires haccounted
  rw [repliesFor_append]
  cases hreplied : repliedTo deployment id move with
  | none =>
      rw [Option.toList_none, List.append_nil]
      exact accounted_quiet hfires hreplied haccounted
  | some reply =>
      obtain ⟨hnone, hafter⟩ := accounted_replied hfires
        (fun port thread hthread => posted_run hbefore hthread) hreplied haccounted
      rw [hnone]
      exact hafter

/-! ## One reply for each call -/

variable {final : Server σ δ} {moves : List (ServerMove σ δ)}

/-- A worker about to reply finds the response channel empty. -/
theorem inbox_empty_of_reply (hrun : (machine deployment).Run (new deployment) moves final)
    {port : UInt16} {thread : MediaThread σ} (hthread : final.media.get port = some thread)
    {message : SignalingMessage} {rest : Fifo SignalingMessage} {reply : SignalingProtocolMessage}
    (hpop : thread.rx.pop = some (message, rest))
    (hreply : replyTo deployment thread message = some reply) :
    final.inboxAt message.call = none := by
  have haccounted := accounted_run hrun message.call
  -- the step that would take the message
  have hawaited : final.Awaited message.call port :=
    (awaited_of_replied (posted_run hrun hthread) hthread hpop hreply).1
  cases hinbox : final.inboxAt message.call with
  | none => rfl
  | some waiting =>
      have hsome := haccounted.inbox waiting hinbox
      rw [haccounted.awaited port hawaited] at hsome
      contradiction

/-- A worker at the start of its loop can always take its next message. -/
theorem poll_enabled (hrun : (machine deployment).Run (new deployment) moves final)
    {port : UInt16} {thread : MediaThread σ} (hthread : final.media.get port = some thread)
    (hrunning : thread.running = true) (hpoint : thread.worker.point = .signaling) :
    ∃ next, (machine deployment).Fires ⟨final, .media port .poll, next, []⟩ := by
  suffices hstep : ∃ next, final.mediaStep deployment port .poll = some next by
    obtain ⟨next, hnext⟩ := hstep
    refine ⟨next, ?_⟩
    show (final.mediaStep deployment port .poll).map _ = _
    rw [hnext]
    rfl
  simp only [mediaStep, hthread, hrunning, if_true]
  cases hpop : thread.rx.pop with
  | none => simp [loopStep, MediaWorker.step, hpoint]
  | some popped =>
      obtain ⟨message, rest⟩ := popped
      obtain ⟨worker, outputs, hworker⟩ : ∃ worker outputs,
          thread.worker.step deployment.acceptOffer
            (.poll (some (message.request, final.listens message))) = some (worker, outputs) := by
        simp only [MediaWorker.step, hpoint, if_true]
        exact ⟨_, _, rfl⟩
      obtain ⟨moved, hloop⟩ : ∃ moved,
          final.loopStep deployment port ⟨thread.worker, rest, true⟩
            (.poll (some (message.request, final.listens message))) = some (moved, outputs) := by
        unfold loopStep
        rw [hworker]
        exact ⟨_, rfl⟩
      have hsent := sentReply_of_step hworker
      simp only [hloop]
      cases hreply : sentReply outputs with
      | none => exact ⟨moved, rfl⟩
      | some reply =>
          rw [hreply] at hsent
          split at hsent
          · have hempty := inbox_empty_of_reply hrun hthread hpop hsent.symm
            rw [inboxAt, ← (calls_of_loopStep hloop).1] at hempty
            simp only [deliver]
            cases hcall : moved.calls[message.call]? with
            | none => exact ⟨moved, rfl⟩
            | some call =>
                rw [hcall] at hempty
                have hinbox : call.inbox = none := hempty
                simp [hinbox]
          · contradiction

/-- Whatever is sent on the response channel of an offer is what `accept_offer` made of the
description in that offer. -/
theorem reply_of_offer (hrun : (machine deployment).Run (new deployment) moves final)
    {request : OfferRequest} {point : CallPoint}
    (hcall : final.callAt id = some (.offer request, point)) {reply : SignalingProtocolMessage}
    (hreply : reply ∈ repliesFor deployment id moves) :
    ∃ move ∈ moves, ∃ thread message, takenIn move = some (thread, message) ∧ message.call = id ∧
      AnswersOffer deployment.acceptOffer thread.worker.serverStates request.sessionId
        request.endpointId request.offerSdp reply := by
  obtain ⟨move, hmem, hreplied⟩ := List.mem_filterMap.mp hreply
  obtain ⟨thread, message, htaken, rfl, hhandled⟩ := repliedTo_eq_some_iff.mp hreplied
  refine ⟨move, hmem, thread, message, htaken, rfl, ?_⟩
  obtain ⟨port, rest, hinput, hthread, hpop⟩ := takenIn_eq_some_iff.mp htaken
  obtain ⟨earlier, later, rfl⟩ := List.append_of_mem hmem
  obtain ⟨hbefore, hfires, hafter⟩ := hrun.split_at
  have hwaiting : message ∈ thread.rx.waiting := Fifo.mem_waiting_of_pop hpop
  obtain ⟨asked, at_, hat, hmessage⟩ := (posted_run hbefore hthread).composed message hwaiting
  -- the call that asked is the call at the end
  obtain ⟨last, hlast⟩ := callAt_run (.cons hfires hafter) hat
  obtain ⟨rfl, -⟩ := Prod.mk.inj (Option.some.inj (hlast.symm.trans hcall))
  rcases hmessage with ⟨-, hquestion⟩ | ⟨-, hunanswered⟩
  · have hoffer := Option.some.inj hquestion
    rw [replyTo, ← hoffer] at hhandled
    obtain rfl := Option.some.inj hhandled
    exact answersOffer_handleOfferMessage _ _ _ _ _
  · rw [replyTo, reply_of_unanswered hunanswered] at hhandled
    contradiction

/-- In every run each call is replied to at most once, no reply finds its channel
full, and an offer receives the one answer to its own description. -/
theorem one_reply_per_call (hrun : (machine deployment).Run (new deployment) moves final) :
    (∀ id, (repliesFor deployment id moves).length ≤ 1) ∧
    (∀ port thread, final.media.get port = some thread → thread.running = true →
      thread.worker.point = .signaling →
        (∀ message rest reply, thread.rx.pop = some (message, rest) →
          replyTo deployment thread message = some reply →
            final.inboxAt message.call = none) ∧
        ∃ next, (machine deployment).Fires ⟨final, .media port .poll, next, []⟩) ∧
    (∀ id request point response, final.callAt id = some (.offer request, point) →
      point.response = some response →
        repliesFor deployment id moves = [response] ∧
        ((∃ answerSdp, response = .answer request.sessionId request.endpointId answerSdp) ∨
          ∃ reason, response = .err request.sessionId request.endpointId reason) ∧
        ∃ move ∈ moves, ∃ thread message, takenIn move = some (thread, message) ∧
          message.call = id ∧
          AnswersOffer deployment.acceptOffer thread.worker.serverStates request.sessionId
            request.endpointId request.offerSdp response) ∧
    ∀ request : SignalingProtocolMessage, request.Unanswered →
      (∀ serverStates audioExtractor, (handleSignalingMessageWithExtractor
        deployment.acceptOffer serverStates request audioExtractor).reply = none) ∧
      ∀ move ∈ moves, ∀ thread message, takenIn move = some (thread, message) →
        message.request = request → ∀ id, repliedTo deployment id move = none := by
  refine ⟨fun id => (accounted_run hrun id).single, ?_, ?_, ?_⟩
  · intro port thread hthread hrunning hpoint
    exact ⟨fun message rest reply hpop hreply => inbox_empty_of_reply hrun hthread hpop hreply,
      poll_enabled hrun hthread hrunning hpoint⟩
  · intro id request point response hcall hresponse
    have hreplies := (accounted_run hrun id).response _ point response hcall hresponse
    have hmem : response ∈ repliesFor deployment id moves := by
      rw [hreplies]
      exact List.mem_singleton.mpr rfl
    obtain ⟨move, hmove, thread, message, htaken, hsender, hanswers⟩ :=
      reply_of_offer hrun hcall hmem
    exact ⟨hreplies, hanswers.cases_response, move, hmove, thread, message, htaken, hsender,
      hanswers⟩
  · intro request hunanswered
    refine ⟨reply_of_unanswered hunanswered _, ?_⟩
    rintro move - thread message htaken rfl id
    unfold repliedTo
    rw [htaken, Option.bind_some]
    split
    · exact reply_of_unanswered hunanswered _ _ _
    · rfl

/-- Two offers for the same session wait for their answers at the same time. -/
def twoOffers : List ServerInput :=
  [.arrive (.offer ⟨1, 1, "first", false⟩), .arrive (.offer ⟨1, 2, "second", false⟩),
    .advance 1 [3478] .allSucceed, .media 3478 .poll, .media 3478 .drain, .media 3478 (.read []),
    .advance 0 [3478] .allSucceed, .media 3478 .poll, .advance 0 [3478] .allSucceed,
    .advance 1 [3478] .allSucceed]

/-- A worker that answers the first description and cannot read the second. -/
def readsFirst : Deployment Unit Unit :=
  { Deployment.single with
    acceptOffer := fun states _ _ offer =>
      if offer = "second" then (states, .error "cannot parse second")
      else (states, .ok ("answer to " ++ offer)) }

/-- Each of the two gets what belongs to its own description, although the second one was
sent first. -/
theorem one_reply_per_call_twoOffers :
    ∃ moves final,
      (machine readsFirst).exec (new readsFirst) twoOffers = some (moves, final) ∧
      repliesFor readsFirst 0 moves = [.answer 1 1 "answer to first"] ∧
      repliesFor readsFirst 1 moves = [.err 1 2 "cannot parse second"] ∧
      (∃ move ∈ moves, ∃ thread message, takenIn move = some (thread, message) ∧
        message.call = 0 ∧ AnswersOffer readsFirst.acceptOffer thread.worker.serverStates 1 1
          "first" (.answer 1 1 "answer to first")) ∧
      ∃ move ∈ moves, ∃ thread message, takenIn move = some (thread, message) ∧
        message.call = 1 ∧ AnswersOffer readsFirst.acceptOffer thread.worker.serverStates 1 2
          "second" (.err 1 2 "cannot parse second") := by
  have hexec : ∃ moves final,
      (machine readsFirst).exec (new readsFirst) twoOffers = some (moves, final) ∧
      final.callAt 0 = some (.offer ⟨1, 1, "first", false⟩,
        .offerAnswered 3478 (.answer 1 1 "answer to first")) ∧
      final.callAt 1 = some (.offer ⟨1, 2, "second", false⟩,
        .offerAnswered 3478 (.err 1 2 "cannot parse second")) :=
    ⟨_, _, rfl, rfl, rfl⟩
  obtain ⟨moves, final, hexec, hfirst, hsecond⟩ := hexec
  obtain ⟨-, -, hoffers, -⟩ := one_reply_per_call (Machine.exec_run hexec)
  obtain ⟨hone, -, hfrom⟩ := hoffers 0 _ _ _ hfirst rfl
  obtain ⟨htwo, -, hother⟩ := hoffers 1 _ _ _ hsecond rfl
  exact ⟨moves, final, hexec, hone, htwo, hfrom, hother⟩

end Server
end Grpc
end MediaServer
