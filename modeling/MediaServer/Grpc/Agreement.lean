import MediaServer.Grpc.Registers

/-!
# Whether the manager and the media workers agree

Enabling or disabling an endpoint takes two sends, one to the transcription
worker and one to the media worker, and nothing orders the pairs of different
calls.  Once both channels are drained, the manager has the session of the last
start or stop and the media worker the flag of the last message; they agree just
in case these two come from calls of the same kind.  Calls may cross in this way
only while two of opposite kinds are between their sends at the same time.
-/

namespace MediaServer
namespace Grpc

open Foundation Signal Transcription

/-- A request to enable or to disable transcription. -/
def Request.toggles : Request → Bool
  | .enableTranscription _ | .disableTranscription _ => true
  | .offer _ | .leave _ => false

/-- If a request arrives, it is one to enable or to disable. -/
def ServerInput.toggles : ServerInput → Bool
  | .arrive request => request.toggles
  | _ => true

/-- What a call between its two sends is about to tell the media worker: to enable
or to disable the endpoint. -/
def CallPoint.secondSend : CallPoint → Option Bool
  | .enableNotifying | .offerNotifying _ _ => some true
  | .disableNotifying => some false
  | _ => none

/-- What a request to enable or to disable does while the channel of the
transcription worker is open: it sends a command of its kind, then a message of
its kind. -/
theorem CallStep.toggle_cases {portOf : UInt64 → Option UInt16} {mediaOpen : UInt16 → Bool}
    {request : Request} {point after : CallPoint} {effect : CallEffect}
    (hstep : CallStep portOf true mediaOpen request point effect after)
    (htoggles : request.toggles = true) :
    (effect = .quiet ∧ after.secondSend = none ∧
      (point.secondSend = none ∨
        ∀ port, portOf request.key.1 = some port → mediaOpen port = false)) ∨
    (∃ kind command, effect = .command command ∧ point.secondSend = none ∧
      after.secondSend = some kind ∧
      ∀ key, commandWrite key command = if request.key = key then some kind else none) ∨
    (∃ kind port message kept, effect = .message port message kept ∧
      point.secondSend = some kind ∧ after.secondSend = none ∧
      portOf request.key.1 = some port ∧
      ∀ key id, messageWrite key ⟨message, id, kept⟩ =
        if request.key = key then some kind else none) := by
  cases hstep with
  | enableStarted request config hconfig hopen =>
      exact .inr (.inl ⟨true, _, rfl, rfl, rfl, fun key => rfl⟩)
  | enableRejected request error hrejected => exact .inl ⟨rfl, rfl, .inl rfl⟩
  | enableNotified request port hport =>
      exact .inr (.inr ⟨true, port, _, false, rfl, rfl, rfl, hport, fun key id => rfl⟩)
  | enableUnnotified request hclosed => exact .inl ⟨rfl, rfl, .inr hclosed⟩
  | disableStopped request hopen => exact .inr (.inl ⟨false, _, rfl, rfl, rfl, fun key => rfl⟩)
  | disableNotified request port hport =>
      exact .inr (.inr ⟨false, port, _, false, rfl, rfl, rfl, hport, fun key id => rfl⟩)
  | disableUnnotified request hclosed => exact .inl ⟨rfl, rfl, .inr hclosed⟩
  | disableUnstopped request hclosed => contradiction
  | disableRejected request error hclosed => contradiction
  | _ => contradiction

variable {σ δ : Type}

namespace Server

/-- What the calls about a key that are between their two sends are about to tell
the media worker. -/
def betweenSends (server : Server σ δ) (key : SessionKey) : List Bool :=
  server.calls.filterMap fun call =>
    if call.request.key = key then call.point.secondSend else none

/-- No two calls of opposite kinds about the key are between their sends. -/
def SendsApart (server : Server σ δ) (key : SessionKey) : Prop :=
  ∀ first ∈ server.betweenSends key, ∀ second ∈ server.betweenSends key, first = second

/-- The last start or stop of the key that was sent: whether it is a start. -/
def lastCommand (server : Server σ δ) (key : SessionKey) : Option Bool :=
  Log.lastWrite (commandWrite key) server.transcriber.commands.history

/-- The last message about the key sent to a media worker: whether it enables. -/
def lastMessage (thread : MediaThread σ) (key : SessionKey) : Option Bool :=
  Log.lastWrite (messageWrite key) thread.rx.history

instance (server : Server σ δ) (key : SessionKey) : Decidable (server.SendsApart key) :=
  inferInstanceAs (Decidable (∀ first ∈ server.betweenSends key,
    ∀ second ∈ server.betweenSends key, first = second))

theorem mem_betweenSends {server : Server σ δ} {key : SessionKey} {kind : Bool} :
    kind ∈ server.betweenSends key ↔
      ∃ id request point, server.callAt id = some (request, point) ∧ request.key = key ∧
        point.secondSend = some kind := by
  unfold betweenSends callAt
  rw [List.mem_filterMap]
  constructor
  · rintro ⟨call, hmem, hsend⟩
    obtain ⟨id, hid⟩ := List.mem_iff_getElem?.mp hmem
    split at hsend
    · rename_i hkey
      exact ⟨id, call.request, call.point, by rw [hid]; rfl, hkey, hsend⟩
    · contradiction
  · rintro ⟨id, request, point, hcall, hkey, hsend⟩
    obtain ⟨call, hid, hcall⟩ := Option.map_eq_some_iff.mp hcall
    obtain ⟨rfl, rfl⟩ := Prod.mk.inj hcall
    exact ⟨call, List.mem_of_getElem? hid, by rw [if_pos hkey]; exact hsend⟩

variable {deployment : Deployment σ δ} {move : ServerMove σ δ} {key : SessionKey} {port : UInt16}

section Frame

/-- Only calls send starts and stops. -/
theorem lastCommand_of_fires (hfires : (machine deployment).Fires move)
    (hother : ∀ id keys env, move.input ≠ .advance id keys env) :
    lastCommand move.post key = lastCommand move.pre key := by
  unfold lastCommand
  have hstep := transcriberStep_of_fires hfires
  generalize move.post.transcriber = after at hstep ⊢
  cases hstep with
  | unchanged hinput => rfl
  | commanded id request point after command htakes hrunning =>
      obtain ⟨keys, env, hinput⟩ := htakes.advances
      exact absurd hinput (hother id keys env)
  | forwarded port thread info command hinput hthread hsent =>
      dsimp only
      rw [Fifo.history_push, Log.lastWrite_concat, commandWrite_of_forwarded hsent]
      rfl
  | processed env command commands hinput hrunning hpop =>
      dsimp only
      rw [Fifo.history_pop hpop]

/-- Only calls send messages. -/
theorem lastMessage_of_threadStep {thread after : MediaThread σ}
    (hstep : ThreadStep deployment move port thread after)
    (hother : ∀ id keys env, move.input ≠ .advance id keys env) :
    lastMessage after key = lastMessage thread key := by
  unfold lastMessage
  cases hstep with
  | unchanged => rfl
  | received id request point after message kept htakes hempty =>
      obtain ⟨keys, env, hinput⟩ := htakes.advances
      exact absurd hinput (hother id keys env)
  | handled message rest worker hinput hrunning hpop hextractor htranscriber =>
      dsimp only
      rw [Fifo.history_pop hpop]
  | continued input worker hinput hrunning hpoll hextractor => rfl
  | stopped hinput => rfl

/-- Only a call that advances changes what is between its sends. -/
theorem betweenSends_of_fires (hfires : (machine deployment).Fires move)
    (hother : ∀ id keys env, move.input ≠ .advance id keys env) (kind : Bool) :
    kind ∈ move.post.betweenSends key ↔ kind ∈ move.pre.betweenSends key := by
  have hstays : ∀ {id request point}, move.pre.callAt id = some (request, point) →
      move.post.callAt id = some (request, point) := by
    intro id request point hcall
    rcases callAt_fires hfires hcall with ⟨effect, after, htakes⟩ | ⟨-, hsame⟩
    · obtain ⟨keys, env, hinput⟩ := htakes.advances
      exact absurd hinput (hother id keys env)
    · exact hsame
  rw [mem_betweenSends, mem_betweenSends]
  constructor
  · rintro ⟨id, request, point, hcall, hkey, hsend⟩
    rcases callAt_post_cases hfires hcall with ⟨rfl, -⟩ | ⟨before, effect, htakes⟩ | ⟨-, hbefore⟩
    · contradiction
    · obtain ⟨keys, env, hinput⟩ := htakes.advances
      exact absurd hinput (hother id keys env)
    · exact ⟨id, request, point, hbefore, hkey, hsend⟩
  · rintro ⟨id, request, point, hcall, hkey, hsend⟩
    exact ⟨id, request, point, hstays hcall, hkey, hsend⟩

end Frame

section Transition

variable {id : Nat} {request : Request} {point after : CallPoint} {effect : CallEffect}

/-- After a transition: the call itself, and those between their sends before. -/
theorem mem_betweenSends_post
    (htakes : TakesTransition deployment move id request point effect after) {kind : Bool}
    (hmem : kind ∈ move.post.betweenSends key) :
    (request.key = key ∧ after.secondSend = some kind) ∨ kind ∈ move.pre.betweenSends key := by
  obtain ⟨other, asked, at_, hcall, hkey, hsend⟩ := mem_betweenSends.mp hmem
  rw [htakes.calls] at hcall
  split at hcall
  · obtain ⟨rfl, rfl⟩ := by simpa using hcall
    exact .inl ⟨hkey, hsend⟩
  · exact .inr (mem_betweenSends.mpr ⟨other, asked, at_, hcall, hkey, hsend⟩)

/-- The call itself, when the transition was its first send. -/
theorem mem_betweenSends_sent
    (htakes : TakesTransition deployment move id request point effect after) {kind : Bool}
    (hkey : request.key = key) (hsend : after.secondSend = some kind) :
    kind ∈ move.post.betweenSends key :=
  mem_betweenSends.mpr ⟨id, request, after, htakes.callAt, hkey, hsend⟩

/-- If a transition leaves no call between its sends, then there was none before
but perhaps the call itself. -/
theorem betweenSends_pre_nil
    (htakes : TakesTransition deployment move id request point effect after)
    (hself : request.key = key → point.secondSend = none)
    (hnone : move.post.betweenSends key = []) : move.pre.betweenSends key = [] := by
  rw [List.eq_nil_iff_forall_not_mem]
  intro kind hmem
  obtain ⟨other, asked, at_, hcall, hkey, hsend⟩ := mem_betweenSends.mp hmem
  by_cases hother : other = id
  · subst hother
    rw [htakes.before] at hcall
    obtain ⟨rfl, rfl⟩ := by simpa using hcall
    rw [hself hkey] at hsend
    contradiction
  · have hstays : kind ∈ move.post.betweenSends key :=
      mem_betweenSends.mpr ⟨other, asked, at_, by rw [htakes.calls, if_neg hother]; exact hcall,
        hkey, hsend⟩
    rw [hnone] at hstays
    contradiction

end Transition

/-- The invariant: all calls between their sends are of the kind of the last command
sent, and when there are none, the last message is of that kind as well. -/
structure SendsMatch (server : Server σ δ) (key : SessionKey) (port : UInt16) : Prop where
  toggles : ∀ id request point, server.callAt id = some (request, point) →
    request.toggles = true
  between : ∀ kind ∈ server.betweenSends key, lastCommand server key = some true ↔ kind = true
  settled : server.betweenSends key = [] → ∀ thread, server.media.get port = some thread →
    (lastCommand server key = some true ↔ lastMessage thread key = some true)

/-- What is asked of a step: only requests to enable or disable arrive, the channels
are open, and calls of opposite kinds keep apart. -/
structure TogglesApart (deployment : Deployment σ δ) (move : ServerMove σ δ) (key : SessionKey)
    (port : UInt16) : Prop where
  arrivals : move.input.toggles = true
  channel : move.pre.channelOpen deployment = true
  media : move.pre.mediaOpen port = true
  apart : move.post.SendsApart key

section Sends

variable {id : Nat} {request : Request} {point after : CallPoint} {effect : CallEffect}
  {kind : Bool}

/-- A call that advances remains a request to enable or to disable. -/
theorem toggles_transition
    (htakes : TakesTransition deployment move id request point effect after)
    (hmatch : SendsMatch move.pre key port) :
    ∀ other asked at_, move.post.callAt other = some (asked, at_) → asked.toggles = true := by
  intro other asked at_ hcall
  rw [htakes.calls] at hcall
  split at hcall
  · obtain ⟨rfl, -⟩ := by simpa using hcall
    exact hmatch.toggles id request point htakes.before
  · exact hmatch.toggles other asked at_ hcall

/-- A call that is not between its sends before or after keeps the invariant when it
sends nothing. -/
theorem sendsMatch_quiet (htakes : TakesTransition deployment move id request point .quiet after)
    (hpoint : request.key = key → point.secondSend = none) (hafter : after.secondSend = none)
    (hmatch : SendsMatch move.pre key port) : SendsMatch move.post key port := by
  obtain ⟨hmedia, htranscriber⟩ := htakes.affects
  have hcommand : lastCommand move.post key = lastCommand move.pre key := by
    rw [lastCommand, htranscriber, lastCommand]
  refine ⟨toggles_transition htakes hmatch, ?_, ?_⟩
  · intro kind hmem
    rw [hcommand]
    rcases mem_betweenSends_post htakes hmem with ⟨-, hsend⟩ | hbefore
    · rw [hafter] at hsend
      contradiction
    · exact hmatch.between kind hbefore
  · intro hnone
    rw [hcommand, hmedia]
    exact hmatch.settled (betweenSends_pre_nil htakes hpoint hnone)

/-- The first send of a call keeps the invariant if calls of opposite kinds keep
apart. -/
theorem sendsMatch_firstSend {command : TranscriptionCommand}
    (htakes : TakesTransition deployment move id request point (.command command) after)
    (hpoint : point.secondSend = none) (hafter : after.secondSend = some kind)
    (hwrite : commandWrite key command = if request.key = key then some kind else none)
    (happart : move.post.SendsApart key) (hmatch : SendsMatch move.pre key port) :
    SendsMatch move.post key port := by
  obtain ⟨hmedia, -, htranscriber⟩ := htakes.affects
  have hcommand : lastCommand move.post key =
      (if request.key = key then some kind else none).or (lastCommand move.pre key) := by
    rw [lastCommand, htranscriber]
    dsimp only
    rw [Fifo.history_push, Log.lastWrite_concat, hwrite, lastCommand]
  refine ⟨toggles_transition htakes hmatch, ?_, ?_⟩
  · intro other hmem
    by_cases hkey : request.key = key
    · obtain rfl := happart kind (mem_betweenSends_sent htakes hkey hafter) other hmem
      rw [hcommand, if_pos hkey]
      simp
    · rw [hcommand, if_neg hkey, Option.none_or]
      rcases mem_betweenSends_post htakes hmem with ⟨hself, -⟩ | hbefore
      · exact absurd hself hkey
      · exact hmatch.between other hbefore
  · intro hnone
    by_cases hkey : request.key = key
    · -- the call itself is between its sends now
      have hself := mem_betweenSends_sent htakes hkey hafter
      rw [hnone] at hself
      contradiction
    · rw [hcommand, if_neg hkey, Option.none_or, hmedia]
      exact hmatch.settled (betweenSends_pre_nil htakes (fun _ => hpoint) hnone)

/-- The second send of a call on the last message about the key: it is the call's
own, or that of before. -/
theorem lastMessage_of_secondSend {target : UInt16} {message : SignalingProtocolMessage}
    {kept : Bool} (hport : deployment.portOf key.1 = some port)
    (htakes : TakesTransition deployment move id request point (.message target message kept)
      after)
    (htarget : deployment.portOf request.key.1 = some target)
    (hwrite : messageWrite key ⟨message, id, kept⟩ =
      if request.key = key then some kind else none)
    {thread : MediaThread σ} (hthread : move.post.media.get port = some thread) :
    (request.key = key → lastMessage thread key = some kind) ∧
    (request.key ≠ key → ∃ before, move.pre.media.get port = some before ∧
      lastMessage thread key = lastMessage before key) := by
  obtain ⟨-, found, hfound, -, -, hmedia⟩ := htakes.affects
  rw [hmedia, HashMap.get_insert] at hthread
  split at hthread
  · rename_i hsame
    obtain rfl := Option.some.inj hthread
    unfold lastMessage
    rw [Fifo.history_push, Log.lastWrite_concat, hwrite]
    constructor
    · intro hkey
      rw [if_pos hkey]
      rfl
    · intro hkey
      rw [if_neg hkey]
      exact ⟨found, hsame ▸ hfound, rfl⟩
  · rename_i hother
    constructor
    · rintro rfl
      rw [hport] at htarget
      exact absurd (Option.some.inj htarget) hother
    · intro _
      exact ⟨thread, hthread, rfl⟩

/-- The second send of a call keeps the invariant: the last command is of the kind of
the call already. -/
theorem sendsMatch_secondSend {target : UInt16} {message : SignalingProtocolMessage}
    {kept : Bool} (hport : deployment.portOf key.1 = some port)
    (htakes : TakesTransition deployment move id request point (.message target message kept)
      after)
    (hpoint : point.secondSend = some kind) (hafter : after.secondSend = none)
    (htarget : deployment.portOf request.key.1 = some target)
    (hwrite : messageWrite key ⟨message, id, kept⟩ =
      if request.key = key then some kind else none)
    (hmatch : SendsMatch move.pre key port) : SendsMatch move.post key port := by
  have hcommand : lastCommand move.post key = lastCommand move.pre key := by
    rw [lastCommand, htakes.affects.1, lastCommand]
  refine ⟨toggles_transition htakes hmatch, ?_, ?_⟩
  · intro other hmem
    rw [hcommand]
    rcases mem_betweenSends_post htakes hmem with ⟨-, hsend⟩ | hbefore
    · rw [hafter] at hsend
      contradiction
    · exact hmatch.between other hbefore
  · intro hnone thread hthread
    obtain ⟨hown, hothers⟩ := lastMessage_of_secondSend hport htakes htarget hwrite hthread
    rw [hcommand]
    by_cases hkey : request.key = key
    · have hself : kind ∈ move.pre.betweenSends key :=
        mem_betweenSends.mpr ⟨id, request, point, htakes.before, hkey, hpoint⟩
      rw [hown hkey, hmatch.between kind hself]
      simp
    · obtain ⟨before, hbefore, hsame⟩ := hothers hkey
      rw [hsame]
      exact hmatch.settled (betweenSends_pre_nil htakes (absurd · hkey) hnone) before hbefore

/-- A transition of a call keeps the invariant. -/
theorem sendsMatch_transition (hport : deployment.portOf key.1 = some port)
    (htakes : TakesTransition deployment move id request point effect after)
    (happart : TogglesApart deployment move key port) (hmatch : SendsMatch move.pre key port) :
    SendsMatch move.post key port := by
  have hcallStep := htakes.callStep
  rw [happart.channel] at hcallStep
  rcases hcallStep.toggle_cases (hmatch.toggles id request point htakes.before) with
    ⟨rfl, hafter, hleaves⟩ | ⟨kind, command, rfl, hpoint, hafter, hwrite⟩ |
    ⟨kind, target, message, kept, rfl, hpoint, hafter, htarget, hwrite⟩
  · refine sendsMatch_quiet htakes ?_ hafter hmatch
    -- a call about to notify cannot give up, the media worker is there
    rintro rfl
    refine hleaves.resolve_right fun hclosed => ?_
    have hshut := hclosed port hport
    rw [happart.media] at hshut
    contradiction
  · exact sendsMatch_firstSend htakes hpoint hafter (hwrite key) happart.apart hmatch
  · exact sendsMatch_secondSend hport htakes hpoint hafter htarget (hwrite key id) hmatch

end Sends

/-- Every step that meets the condition keeps the invariant. -/
theorem sendsMatch_step (hport : deployment.portOf key.1 = some port)
    (hfires : (machine deployment).Fires move) (happart : TogglesApart deployment move key port)
    (hmatch : SendsMatch move.pre key port) : SendsMatch move.post key port := by
  by_cases hadvances : ∃ id keys env, move.input = .advance id keys env
  · obtain ⟨id, keys, env, hinput⟩ := hadvances
    obtain ⟨request, point, effect, after, htakes⟩ := takesTransition_of_fires hfires hinput
    exact sendsMatch_transition hport htakes happart hmatch
  · have hother : ∀ id keys env, move.input ≠ .advance id keys env := by
      intro id keys env hinput
      exact hadvances ⟨id, keys, env, hinput⟩
    refine ⟨?_, ?_, ?_⟩
    · intro id request point hcall
      rcases callAt_post_cases hfires hcall with
        ⟨-, hinput⟩ | ⟨before, effect, htakes⟩ | ⟨-, hbefore⟩
      · have harrivals := happart.arrivals
        rw [hinput] at harrivals
        exact harrivals
      · obtain ⟨keys, env, hinput⟩ := htakes.advances
        exact absurd hinput (hother id keys env)
      · exact hmatch.toggles id request point hbefore
    · intro kind hmem
      rw [lastCommand_of_fires hfires hother]
      exact hmatch.between kind ((betweenSends_of_fires hfires hother kind).mp hmem)
    · intro hnone
      have hbefore : move.pre.betweenSends key = [] := by
        rw [List.eq_nil_iff_forall_not_mem] at hnone ⊢
        intro kind hmem
        exact hnone kind ((betweenSends_of_fires hfires hother kind).mpr hmem)
      rw [lastCommand_of_fires hfires hother]
      have hsettled := hmatch.settled hbefore
      intro after hafter
      cases hthread : move.pre.media.get port with
      | none =>
          rw [media_none_of_fires hfires hthread] at hafter
          contradiction
      | some thread =>
          obtain ⟨found, hfound, hstep⟩ := threadStep_of_fires hfires hthread
          obtain rfl : found = after := Option.some.inj (hfound.symm.trans hafter)
          rw [lastMessage_of_threadStep hstep hother]
          exact hsettled thread hthread

theorem sendsMatch_new : SendsMatch (new deployment) key port where
  toggles := by
    intro id request point hcall
    simp [callAt, new] at hcall
  between := by
    intro kind hmem
    simp [betweenSends, new] at hmem
  settled := by
    intro _ thread hthread
    obtain rfl := thread_of_new hthread
    simp [lastCommand, lastMessage, new, MediaThread.new]

/-- Over a run of requests to enable or to disable, in which no two of opposite
kinds about the key are between their sends at the same time, the last command and
the last message about the key are of the same kind once all calls have
returned. -/
theorem last_sends_match {moves : List (ServerMove σ δ)} {final : Server σ δ}
    {thread : MediaThread σ} (hrun : (machine deployment).Run (new deployment) moves final)
    (hport : deployment.portOf key.1 = some port) (hthread : final.media.get port = some thread)
    (htranscriber : final.transcriber.running = true) (hmedia : thread.running = true)
    (htoggles : ∀ move ∈ moves, move.input.toggles = true)
    (hreturned : ∀ call ∈ final.calls, ∃ reply, call.point = .returned reply)
    (hsends : ∀ move ∈ moves, move.post.SendsApart key) :
    lastCommand final key = some true ↔ lastMessage thread key = some true := by
  have hallowed : ∀ move ∈ moves, TogglesApart deployment move key port := by
    intro move hmem
    obtain ⟨before, after, rfl⟩ := List.append_of_mem hmem
    obtain ⟨hfirst, hfires, hrest⟩ := hrun.split_at
    have hpost : move.post.mediaOpen port = true := by
      refine mediaOpen_of_run hrest ?_
      unfold mediaOpen
      rw [hthread]
      exact hmedia
    have hrunning : move.pre.transcriber.running = true :=
      running_of_run (.cons hfires hrest) htranscriber
    have henabled : deployment.enableTranscription = true := running_of_run hrun htranscriber
    refine ⟨htoggles move hmem, ?_, mediaOpen_of_fires hfires hpost, hsends move hmem⟩
    rw [channelOpen, henabled, hrunning]
    rfl
  have hkeeps : ∀ move : ServerMove σ δ, (machine deployment).Fires move →
      TogglesApart deployment move key port →
      SendsMatch move.pre key port → SendsMatch move.post key port :=
    fun move hfires happart hpre => sendsMatch_step hport hfires happart hpre
  have hmatch : SendsMatch final key port :=
    Machine.Run.invariant_of_steps (fun server => SendsMatch server key port) hkeeps hrun hallowed
      sendsMatch_new
  refine hmatch.settled ?_ thread hthread
  -- a call that has returned is not between its sends
  unfold betweenSends
  rw [List.filterMap_eq_nil_iff]
  intro call hmem
  obtain ⟨reply, hpoint⟩ := hreturned call hmem
  rw [hpoint]
  split <;> rfl

/-- Once both channels are drained, the manager and the media worker agree about an
endpoint exactly when the last command and the last message about it are of the
same kind.  They do so after any interleaving of requests to enable and to disable
in which no two of opposite kinds about the endpoint are between their two sends at
the same time. -/
theorem agreement_iff_last_sends (key : SessionKey) {moves : List (ServerMove σ δ)}
    {final : Server σ δ} {thread : MediaThread σ}
    (hrun : (machine deployment).Run (new deployment) moves final)
    (hcreates : ∀ move ∈ moves, createsSession deployment.codec move = true)
    (hthread : final.media.get port = some thread)
    (hcommands : final.transcriber.commands.waiting = []) (hmessages : thread.rx.waiting = []) :
    (final.transcriber.worker.manager.hasSession key.1 key.2 =
        thread.worker.audioExtractor.isTranscriptionEnabled key.1 key.2 ↔
      (lastCommand final key = some true ↔ lastMessage thread key = some true)) ∧
    (deployment.portOf key.1 = some port → final.transcriber.running = true →
      thread.running = true →
      (∀ move ∈ moves, move.input.toggles = true) →
      (∀ call ∈ final.calls, ∃ reply, call.point = .returned reply) →
      (∀ move ∈ moves, move.post.SendsApart key) →
      final.transcriber.worker.manager.hasSession key.1 key.2 =
        thread.worker.audioExtractor.isTranscriptionEnabled key.1 key.2) := by
  have hsession : final.transcriber.worker.manager.hasSession key.1 key.2 = true ↔
      lastCommand final key = some true := by
    have hregister : SessionRegister final key := sessionRegister_of_run hrun hcreates
    rw [lastCommand, Fifo.history, hcommands, List.append_nil]
    exact hregister
  have henabled : thread.worker.audioExtractor.isTranscriptionEnabled key.1 key.2 = true ↔
      lastMessage thread key = some true := by
    have hregister : EnabledRegister thread key := enabledRegister_of_run hrun port thread hthread
    rw [lastMessage, Fifo.history, hmessages, List.append_nil]
    exact hregister
  constructor
  · rw [Bool.eq_iff_iff, hsession, henabled]
  · intro hport htranscriber hmedia htoggles hreturned hsends
    rw [Bool.eq_iff_iff, hsession, henabled]
    exact last_sends_match hrun hport hthread htranscriber hmedia htoggles hreturned hsends

/-- Endpoint `(1, 2)` is enabled, then disabled. -/
def enabledThenDisabled : List ServerInput :=
  [.arrive (.enableTranscription ⟨1, 2, "", "", "", "", ""⟩), .advance 0 [3478] .allSucceed,
    .advance 0 [3478] .allSucceed, .media 3478 .poll,
    .arrive (.disableTranscription ⟨1, 2⟩), .advance 1 [3478] .allSucceed,
    .advance 1 [3478] .allSucceed, .media 3478 .drain, .media 3478 (.read []),
    .media 3478 .poll, .transcribe .allSucceed, .transcribe .allSucceed]

theorem agreement_iff_last_sends_enabledThenDisabled :
    ∃ moves final thread,
      (machine .single).exec (new .single) enabledThenDisabled = some (moves, final) ∧
      final.media.get 3478 = some thread ∧
      final.transcriber.worker.manager.hasSession 1 2 =
        thread.worker.audioExtractor.isTranscriptionEnabled 1 2 := by
  have hexec : ∃ moves final thread,
      (machine .single).exec (new .single) enabledThenDisabled = some (moves, final) ∧
      moves.all (createsSession .silent) = true ∧
      moves.all (fun move => move.input.toggles) = true ∧
      final.media.get 3478 = some thread ∧
      final.transcriber.commands.waiting = [] ∧ thread.rx.waiting = [] ∧
      final.transcriber.running = true ∧ thread.running = true ∧
      final.calls.map Call.point =
        [.enableTranscription ⟨true, ""⟩, .disableTranscription ⟨true, ""⟩].map .returned ∧
      ∀ move ∈ moves, move.post.SendsApart (1, 2) :=
    ⟨_, _, _, rfl, rfl, rfl, rfl, rfl, rfl, rfl, rfl, rfl, by decide⟩
  obtain ⟨moves, final, thread, hexec, hcreates, htoggles, hthread, hcommands, hmessages,
    htranscriber, hmedia, hpoints, hsends⟩ := hexec
  exact ⟨moves, final, thread, hexec, hthread,
    (agreement_iff_last_sends (1, 2) (Machine.exec_run hexec) (List.all_eq_true.mp hcreates)
      hthread hcommands hmessages).2 rfl htranscriber hmedia (List.all_eq_true.mp htoggles)
      (returned_of_points hpoints) hsends⟩

/-- A call to enable endpoint `(1, 2)` makes its first send, then one to disable it
makes both of its sends, and then the first call makes its second. -/
def crossedSends : List ServerInput :=
  [.arrive (.enableTranscription ⟨1, 2, "", "", "", "", ""⟩),
    .arrive (.disableTranscription ⟨1, 2⟩), .advance 0 [3478] .allSucceed,
    .advance 1 [3478] .allSucceed, .advance 1 [3478] .allSucceed, .media 3478 .poll,
    .advance 0 [3478] .allSucceed, .media 3478 .drain, .media 3478 (.read []),
    .media 3478 .poll, .transcribe .allSucceed, .transcribe .allSucceed]

/-- The media worker is left with the endpoint enabled and the manager without a
session. -/
theorem crossed_sends_disagree :
    ¬ ∀ (moves : List (ServerMove Unit Unit)) (final : Server Unit Unit)
        (thread : MediaThread Unit),
      (machine .single).Run (new .single) moves final →
      (∀ move ∈ moves, move.input.toggles = true) →
      (∀ move ∈ moves, createsSession .silent move = true) →
      (∀ call ∈ final.calls, ∃ reply, call.point = .returned reply) →
      final.media.get 3478 = some thread →
      final.transcriber.commands.waiting = [] → thread.rx.waiting = [] →
      ∀ key : SessionKey, final.transcriber.worker.manager.hasSession key.1 key.2 =
        thread.worker.audioExtractor.isTranscriptionEnabled key.1 key.2 := by
  intro hagrees
  have hexec : ∃ moves final thread,
      (machine .single).exec (new .single) crossedSends = some (moves, final) ∧
      moves.all (fun move => move.input.toggles) = true ∧
      moves.all (createsSession .silent) = true ∧
      final.calls.map Call.point =
        [.enableTranscription ⟨true, ""⟩, .disableTranscription ⟨true, ""⟩].map .returned ∧
      final.media.get 3478 = some thread ∧
      final.transcriber.commands.waiting = [] ∧ thread.rx.waiting = [] ∧
      final.transcriber.worker.manager.hasSession 1 2 = false ∧
      thread.worker.audioExtractor.isTranscriptionEnabled 1 2 = true :=
    ⟨_, _, _, rfl, rfl, rfl, rfl, rfl, rfl, rfl, rfl, rfl⟩
  obtain ⟨moves, final, thread, hexec, htoggles, hcreates, hpoints, hthread, hcommands, hmessages,
    hsession, henabled⟩ := hexec
  have hagree := hagrees moves final thread (Machine.exec_run hexec)
    (List.all_eq_true.mp htoggles) (List.all_eq_true.mp hcreates) (returned_of_points hpoints)
    hthread hcommands hmessages (1, 2)
  dsimp only at hagree
  rw [hsession, henabled] at hagree
  contradiction

end Server
end Grpc
end MediaServer
