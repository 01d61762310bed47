import MediaServer.Grpc.Subscriptions

/-!
# What a subscriber receives

A subscriber is offered every update of its session that is distributed after it
subscribed, in that order and each once, because its sender is kept once under its
session and under no other.  Its channel takes what it has room for.  So what its
stream has yielded, what waits in the channel and what was dropped with the stream
are together the updates that were offered while the channel had room.

What the other subscribers do with their streams has no part in this.
-/

namespace MediaServer
namespace Grpc

open Foundation Transcription

namespace Subscriptions

/-- A step with the states around it. -/
abbrev SubscriptionMove := Transition Subscriptions SubscriptionInput (Except Status Nat)

/-- The update a step offers to a subscriber, with the subscriber as it is then. -/
def attemptAt (id : Nat) (move : SubscriptionMove) : Option (TranscriptionUpdate × Subscriber) :=
  match move.input, move.pre.sending with
  | .send, some (update, next :: _) =>
      if next = id then (move.pre.channels[id]?).map fun subscriber => (update, subscriber)
      else none
  | _, _ => none

/-- The update of a session that a step begins to distribute. -/
def distributedIn (session : UInt64) (move : SubscriptionMove) : Option TranscriptionUpdate :=
  match move.input, move.pre.results with
  | .distribute, result :: _ =>
      if (transcriptionUpdate result).sessionId = session then some (transcriptionUpdate result)
      else none
  | _, _ => none

/-- The updates offered to a subscriber in a run. -/
def attempts (id : Nat) (moves : List SubscriptionMove) :
    List (TranscriptionUpdate × Subscriber) :=
  moves.filterMap (attemptAt id)

/-- Those of them that its channel took. -/
def accepted (id : Nat) (moves : List SubscriptionMove) : List TranscriptionUpdate :=
  ((attempts id moves).filter fun attempt => attempt.2.accepts channelCapacity).map Prod.fst

/-- The updates of a session distributed in a run. -/
def distributedTo (session : UInt64) (moves : List SubscriptionMove) :
    List TranscriptionUpdate :=
  moves.filterMap (distributedIn session)

/-- The update at hand, if the subscriber is still to be offered it. -/
def inProgress (svc : Subscriptions) (id : Nat) : List TranscriptionUpdate :=
  match svc.sending with
  | some (update, rest) => if id ∈ rest then [update] else []
  | none => []

/-! ## Where a sender is kept -/

/-- Every sender has its channel. -/
def Known (svc : Subscriptions) : Prop :=
  ∀ session, ∀ id ∈ svc.senders session, id < svc.channels.length

/-- The sender is kept once under the session and under no other, and the update at
hand goes to it at most once more. -/
structure Registered (svc : Subscriptions) (session : UInt64) (id : Nat) : Prop where
  own : (svc.senders session).count id = 1
  others : ∀ other, other ≠ session → id ∉ svc.senders other
  channel : id < svc.channels.length
  sending : ∀ update rest, svc.sending = some (update, rest) → rest.count id ≤ 1

theorem senders_subscribed (svc : Subscriptions) (session other : UInt64)
    (channels : List Subscriber) (ids : List Nat) :
    ({ svc with channels := channels, subscribers := svc.subscribers.insert session ids } :
      Subscriptions).senders other = if other = session then ids else svc.senders other := by
  unfold senders
  rw [HashMap.get_insert]
  split <;> rfl

variable {move : SubscriptionMove} {session : UInt64} {id : Nat}

theorem known_new (transcriptionManager : Bool) : (new transcriptionManager).Known := by
  intro session id hmem
  simp [senders, new] at hmem

theorem known_step (hfires : machine.Fires move) (hknown : move.pre.Known) :
    move.post.Known := by
  have hstep := step_of_fires hfires
  generalize move.post = next at hstep ⊢
  intro session id hmem
  generalize move.input = input at hstep
  generalize move.outputs = outputs at hstep
  cases hstep with
  | subscribed own hmanager hidle =>
      rw [senders_subscribed] at hmem
      rw [List.length_append, List.length_singleton]
      split at hmem
      · rcases List.mem_append.mp hmem with hbefore | hnew
        · exact Nat.lt_succ_of_lt (hknown own id hbefore)
        · rw [List.mem_singleton.mp hnew]
          exact Nat.lt_succ_self _
      · exact Nat.lt_succ_of_lt (hknown session id hmem)
  | refused own hmanager => exact hknown session id hmem
  | polled results hmanager hdone hidle => exact hknown session id hmem
  | distributed result rest hidle hresults => exact hknown session id hmem
  | finished update hsending => exact hknown session id hmem
  | sent update own rest hsending =>
      rw [List.length_modify]
      exact hknown session id hmem
  | yielded own current next update hchannel hrecv =>
      rw [List.length_set]
      exact hknown session id hmem
  | closed own current hchannel hlive =>
      rw [List.length_set]
      exact hknown session id hmem

/-- A new subscriber is kept under its session, with an empty channel. -/
theorem registered_of_subscribe (hfires : machine.Fires move) (hknown : move.pre.Known)
    (hinput : move.input = .subscribe session) (houtputs : move.outputs = [.ok id]) :
    move.post.Registered session id ∧ move.post.channels[id]? = some .empty ∧
      move.post.inProgress id = [] := by
  have hstep := step_of_fires hfires
  rw [hinput, houtputs] at hstep
  generalize move.post = next at hstep ⊢
  have hfresh : ∀ other, move.pre.channels.length ∉ move.pre.senders other := by
    intro other hmem
    exact Nat.lt_irrefl _ (hknown other _ hmem)
  cases hstep with
  | subscribed _ hmanager hidle =>
      refine ⟨⟨?_, ?_, ?_, ?_⟩, ?_, ?_⟩
      · rw [senders_subscribed, if_pos rfl, List.count_append,
          List.count_eq_zero_of_not_mem (hfresh session)]
        simp
      · intro other hother
        rw [senders_subscribed, if_neg hother]
        exact hfresh other
      · simp
      · intro update rest hsending
        rw [hidle] at hsending
        contradiction
      · simp
      · simp [inProgress, hidle]

/-- A subscriber stays where it is kept. -/
theorem registered_step (hfires : machine.Fires move)
    (hregistered : move.pre.Registered session id) : move.post.Registered session id := by
  have hstep := step_of_fires hfires
  generalize move.post = next at hstep ⊢
  generalize move.input = input at hstep
  generalize move.outputs = outputs at hstep
  cases hstep with
  | subscribed own hmanager hidle =>
      have hne : move.pre.channels.length ≠ id := (Nat.ne_of_lt hregistered.channel).symm
      refine ⟨?_, ?_, ?_, ?_⟩
      · rw [senders_subscribed]
        split
        · rename_i hown
          rw [← hown, List.count_append, hregistered.own]
          simp [hne]
        · exact hregistered.own
      · intro other hother
        rw [senders_subscribed]
        split
        · rename_i hown
          have hbefore := hregistered.others own (hown ▸ hother)
          simp [hbefore, hne.symm]
        · exact hregistered.others other hother
      · rw [List.length_append]
        exact Nat.lt_add_right _ hregistered.channel
      · intro update rest hsending
        rw [hidle] at hsending
        contradiction
  | refused own hmanager => exact hregistered
  | polled results hmanager hdone hidle =>
      exact ⟨hregistered.own, hregistered.others, hregistered.channel, hregistered.sending⟩
  | distributed result rest hidle hresults =>
      refine ⟨hregistered.own, hregistered.others, hregistered.channel, ?_⟩
      intro update ids hsending
      obtain ⟨rfl, rfl⟩ := by simpa using hsending
      by_cases hsession : (transcriptionUpdate result).sessionId = session
      · rw [hsession]
        exact hregistered.own.le
      · rw [List.count_eq_zero_of_not_mem (hregistered.others _ hsession)]
        exact Nat.zero_le _
  | finished update hsending =>
      refine ⟨hregistered.own, hregistered.others, hregistered.channel, ?_⟩
      intro update ids hnone
      contradiction
  | sent update next rest hsending =>
      refine ⟨hregistered.own, hregistered.others, ?_, ?_⟩
      · rw [List.length_modify]
        exact hregistered.channel
      · intro other ids hrest
        obtain ⟨rfl, rfl⟩ := by simpa using hrest
        exact (List.count_le_count_cons).trans (hregistered.sending update _ hsending)
  | yielded own current next update hchannel hrecv =>
      refine ⟨hregistered.own, hregistered.others, ?_, hregistered.sending⟩
      rw [List.length_set]
      exact hregistered.channel
  | closed own current hchannel hlive =>
      refine ⟨hregistered.own, hregistered.others, ?_, hregistered.sending⟩
      rw [List.length_set]
      exact hregistered.channel

/-! ## What is offered and what is taken -/

/-- A step offers the subscriber the update at hand, and an update of its session that
is taken up will be offered to it. -/
theorem attempts_step (hfires : machine.Fires move)
    (hregistered : move.pre.Registered session id) :
    (attemptAt id move).toList.map Prod.fst ++ move.post.inProgress id =
      move.pre.inProgress id ++ (distributedIn session move).toList := by
  have hstep := step_of_fires hfires
  obtain ⟨pre, input, post, outputs⟩ := move
  dsimp only at hstep hregistered ⊢
  cases hstep with
  | subscribed own hmanager hidle => simp [attemptAt, distributedIn, inProgress, hidle]
  | refused own hmanager => simp [attemptAt, distributedIn]
  | polled results hmanager hdone hidle =>
      simp [attemptAt, distributedIn, inProgress, hidle]
  | distributed result rest hidle hresults =>
      by_cases hsession : (transcriptionUpdate result).sessionId = session
      · have hmem : id ∈ pre.senders session := by
          rw [← List.count_pos_iff, hregistered.own]
          exact Nat.one_pos
        simp [attemptAt, distributedIn, inProgress, hidle, hresults, hsession, hmem]
      · have hmem := hregistered.others _ hsession
        simp [attemptAt, distributedIn, inProgress, hidle, hresults, hsession, hmem]
  | finished update hsending => simp [attemptAt, distributedIn, inProgress, hsending]
  | sent update next rest hsending =>
      have hcount := hregistered.sending update _ hsending
      by_cases hnext : next = id
      · subst hnext
        -- it is not offered the update a second time
        have hrest : next ∉ rest := by
          rw [List.count_cons_self] at hcount
          exact List.count_eq_zero.mp (by omega)
        have hchannel := List.getElem?_eq_getElem hregistered.channel
        simp [attemptAt, distributedIn, inProgress, hsending, hrest, hchannel]
      · simp [attemptAt, distributedIn, inProgress, hsending, hnext, Ne.symm hnext]
  | yielded own current next update hchannel hrecv => simp [attemptAt, distributedIn, inProgress]
  | closed own current hchannel hlive => simp [attemptAt, distributedIn, inProgress]

theorem accepted_of_quiet (hquiet : attemptAt id move = none) : accepted id [move] = [] := by
  simp [accepted, attempts, hquiet]

/-- A step adds to what the subscriber's channel has taken the update it is offered, if
it has room for it. -/
theorem received_step (hfires : machine.Fires move) {subscriber : Subscriber}
    (hsubscriber : move.pre.channels[id]? = some subscriber) :
    ∃ after, move.post.channels[id]? = some after ∧
      after.received = subscriber.received ++ accepted id [move] := by
  have hstep := step_of_fires hfires
  obtain ⟨pre, input, post, outputs⟩ := move
  dsimp only at hstep hsubscriber ⊢
  have hlt := (List.getElem?_eq_some_iff.mp hsubscriber).1
  -- most steps leave the channel alone and offer nothing
  have hsame : attemptAt id ⟨pre, input, post, outputs⟩ = none →
      post.channels[id]? = pre.channels[id]? →
      ∃ after, post.channels[id]? = some after ∧
        after.received = subscriber.received ++ accepted id [⟨pre, input, post, outputs⟩] := by
    intro hnone hchannels
    exact ⟨subscriber, hchannels.trans hsubscriber, by rw [accepted_of_quiet hnone]; simp⟩
  cases hstep with
  | subscribed own hmanager hidle =>
      exact hsame rfl (List.getElem?_append_left hlt)
  | refused own hmanager => exact hsame rfl rfl
  | polled results hmanager hdone hidle => exact hsame rfl rfl
  | distributed result rest hidle hresults => exact hsame rfl rfl
  | finished update hsending => exact hsame (by simp [attemptAt, hsending]) rfl
  | sent update next rest hsending =>
      by_cases hnext : next = id
      · subst hnext
        refine ⟨subscriber.trySend channelCapacity update, by simp [hsubscriber], ?_⟩
        rw [Receiver.received_trySend]
        cases haccepts : subscriber.accepts channelCapacity <;>
          simp [accepted, attempts, attemptAt, hsending, hsubscriber, haccepts]
      · exact hsame (by simp [attemptAt, hsending, hnext]) (by simp [hnext])
  | yielded own current next update hchannel hrecv =>
      by_cases hown : own = id
      · subst hown
        obtain rfl : subscriber = current := Option.some.inj (hsubscriber.symm.trans hchannel)
        refine ⟨next, by simp [hlt], ?_⟩
        rw [accepted_of_quiet rfl, Receiver.received_tryRecv hrecv, List.append_nil]
      · exact hsame rfl (List.getElem?_set_ne hown)
  | closed own current hchannel hlive =>
      by_cases hown : own = id
      · subst hown
        obtain rfl : subscriber = current := Option.some.inj (hsubscriber.symm.trans hchannel)
        refine ⟨subscriber.close, by simp [hlt], ?_⟩
        rw [accepted_of_quiet rfl, Receiver.received_close, List.append_nil]
      · exact hsame rfl (List.getElem?_set_ne hown)

theorem accepted_cons (move : SubscriptionMove) (moves : List SubscriptionMove) :
    accepted id (move :: moves) = accepted id [move] ++ accepted id moves := by
  unfold accepted attempts
  rw [← List.singleton_append, List.filterMap_append, List.filter_append, List.map_append]

/-- Over a run: the updates of the session that were taken up are those the subscriber
was offered and perhaps the one at hand, and its channel has taken those it had room
for. -/
theorem received_run {start final : Subscriptions} {moves : List SubscriptionMove}
    (hrun : machine.Run start moves final) (hregistered : start.Registered session id)
    {subscriber : Subscriber} (hsubscriber : start.channels[id]? = some subscriber) :
    (attempts id moves).map Prod.fst ++ final.inProgress id =
        start.inProgress id ++ distributedTo session moves ∧
    ∃ after, final.channels[id]? = some after ∧
      after.received = subscriber.received ++ accepted id moves := by
  induction hrun generalizing subscriber with
  | nil state => exact ⟨by simp [attempts, distributedTo], subscriber, hsubscriber,
      by simp [accepted, attempts]⟩
  | @cons move moves final hfires hrest ih =>
      have hoffered := attempts_step hfires hregistered
      obtain ⟨next, hnext, hreceived⟩ := received_step hfires hsubscriber
      obtain ⟨hrestOffered, after, hafter, hrestReceived⟩ :=
        ih (registered_step hfires hregistered) hnext
      refine ⟨?_, after, hafter, ?_⟩
      · calc
          (attempts id (move :: moves)).map Prod.fst ++ final.inProgress id =
              (attemptAt id move).toList.map Prod.fst ++
                ((attempts id moves).map Prod.fst ++ final.inProgress id) := by
            cases hattempt : attemptAt id move <;> simp [attempts, hattempt]
          _ = (attemptAt id move).toList.map Prod.fst ++ move.post.inProgress id ++
                distributedTo session moves := by
            rw [hrestOffered, List.append_assoc]
          _ = move.pre.inProgress id ++
                ((distributedIn session move).toList ++ distributedTo session moves) := by
            rw [hoffered, List.append_assoc]
          _ = move.pre.inProgress id ++ distributedTo session (move :: moves) := by
            cases hdistributed : distributedIn session move <;>
              simp [distributedTo, hdistributed]
      · rw [hrestReceived, hreceived, accepted_cons move moves, List.append_assoc]

/-! ## Streams do not disturb each other -/

/-- The input is not one of the subscriber's stream. -/
def notOf (id : Nat) : SubscriptionInput → Bool
  | .read own => own != id
  | .close own => own != id
  | _ => true

/-- The states differ at most in the channel of the subscriber. -/
structure SameBut (id : Nat) (svc other : Subscriptions) : Prop where
  transcriptionManager : svc.transcriptionManager = other.transcriptionManager
  subscribers : svc.subscribers = other.subscribers
  results : svc.results = other.results
  sending : svc.sending = other.sending
  length : svc.channels.length = other.channels.length
  channels : ∀ own, own ≠ id → svc.channels[own]? = other.channels[own]?

theorem SameBut.rfl {svc : Subscriptions} : SameBut id svc svc :=
  ⟨by rfl, by rfl, by rfl, by rfl, by rfl, fun _ _ => by rfl⟩

theorem SameBut.senders {svc other : Subscriptions} (hsame : SameBut id svc other)
    (session : UInt64) : svc.senders session = other.senders session := by
  unfold Subscriptions.senders
  rw [hsame.subscribers]

/-- A step of the subscriber's stream changes nothing else. -/
theorem sameBut_left {other : Subscriptions} (hfires : machine.Fires move)
    (hleft : notOf id move.input = false) (hsame : SameBut id move.pre other) :
    SameBut id move.post other := by
  have hstep := step_of_fires hfires
  obtain ⟨pre, input, post, outputs⟩ := move
  dsimp only at hstep hleft hsame ⊢
  cases hstep with
  | yielded own current next update hchannel hrecv =>
      obtain rfl : own = id := by simpa [notOf] using hleft
      refine ⟨hsame.transcriptionManager, hsame.subscribers, hsame.results, hsame.sending, ?_, ?_⟩
      · rw [List.length_set]
        exact hsame.length
      · intro found hfound
        rw [List.getElem?_set_ne hfound.symm]
        exact hsame.channels found hfound
  | closed own current hchannel hlive =>
      obtain rfl : own = id := by simpa [notOf] using hleft
      refine ⟨hsame.transcriptionManager, hsame.subscribers, hsame.results, hsame.sending, ?_, ?_⟩
      · rw [List.length_set]
        exact hsame.length
      · intro found hfound
        rw [List.getElem?_set_ne hfound.symm]
        exact hsame.channels found hfound
  | subscribed | refused | polled | distributed | finished | sent => simp [notOf] at hleft

/-- Every other step goes the same way, whatever the subscriber's channel is like. -/
theorem sameBut_kept {other : Subscriptions} (hfires : machine.Fires move)
    (hkept : notOf id move.input = true) (hsame : SameBut id move.pre other) :
    ∃ next, machine.Fires ⟨other, move.input, next, move.outputs⟩ ∧
      SameBut id move.post next := by
  have hstep := step_of_fires hfires
  obtain ⟨pre, input, post, outputs⟩ := move
  obtain ⟨manager, subscribers, channels, results, sending⟩ := other
  obtain ⟨rfl, rfl, rfl, rfl, hlength, hchannels⟩ := hsame
  dsimp only at hstep hkept hlength hchannels ⊢
  cases hstep with
  | subscribed own hmanager hidle =>
      refine ⟨⟨pre.transcriptionManager,
        pre.subscribers.insert own (pre.senders own ++ [channels.length]),
        channels ++ [.empty], pre.results, pre.sending⟩, ?_, ?_⟩
      · simp [Machine.Fires, machine, step, hmanager, hidle, hlength, senders]
      · refine ⟨rfl, by rw [hlength], rfl, rfl, by simp [hlength], ?_⟩
        intro found hfound
        simp only [List.getElem?_append, hlength, hchannels found hfound]
  | refused own hmanager =>
      exact ⟨⟨pre.transcriptionManager, pre.subscribers, channels, pre.results, pre.sending⟩,
        by simp [Machine.Fires, machine, step, hmanager], rfl, rfl, rfl, rfl, hlength, hchannels⟩
  | polled results hmanager hdone hidle =>
      exact ⟨⟨pre.transcriptionManager, pre.subscribers, channels, results, pre.sending⟩,
        by simp [Machine.Fires, machine, step, hmanager, hdone, hidle],
        rfl, rfl, rfl, rfl, hlength, hchannels⟩
  | distributed result rest hidle hresults =>
      exact ⟨⟨pre.transcriptionManager, pre.subscribers, channels, rest,
          some (transcriptionUpdate result, pre.senders (transcriptionUpdate result).sessionId)⟩,
        by simp [Machine.Fires, machine, step, hidle, hresults, senders],
        rfl, rfl, rfl, rfl, hlength, hchannels⟩
  | finished update hsending =>
      exact ⟨⟨pre.transcriptionManager, pre.subscribers, channels, pre.results, none⟩,
        by simp [Machine.Fires, machine, step, hsending], rfl, rfl, rfl, rfl, hlength, hchannels⟩
  | sent update next rest hsending =>
      refine ⟨⟨pre.transcriptionManager, pre.subscribers,
        channels.modify next (·.trySend channelCapacity update), pre.results,
        some (update, rest)⟩, ?_, ?_⟩
      · simp [Machine.Fires, machine, step, hsending]
      · refine ⟨rfl, rfl, rfl, rfl, by simp [hlength], ?_⟩
        intro found hfound
        simp only [List.getElem?_modify, hchannels found hfound]
  | yielded own current next update hchannel hrecv =>
      have hown : own ≠ id := by simpa [notOf] using hkept
      rw [hchannels own hown] at hchannel
      refine ⟨⟨pre.transcriptionManager, pre.subscribers, channels.set own next,
        pre.results, pre.sending⟩, ?_, ?_⟩
      · simp [Machine.Fires, machine, step, hchannel, hrecv]
      · refine ⟨rfl, rfl, rfl, rfl, by simp [hlength], ?_⟩
        intro found hfound
        simp only [List.getElem?_set, hlength, hchannels found hfound]
  | closed own current hchannel hlive =>
      have hown : own ≠ id := by simpa [notOf] using hkept
      rw [hchannels own hown] at hchannel
      refine ⟨⟨pre.transcriptionManager, pre.subscribers,
        channels.set own current.close, pre.results, pre.sending⟩, ?_, ?_⟩
      · simp [Machine.Fires, machine, step, hchannel, hlive]
      · refine ⟨rfl, rfl, rfl, rfl, by simp [hlength], ?_⟩
        intro found hfound
        simp only [List.getElem?_set, hlength, hchannels found hfound]

/-- Two runs that differ in when one subscriber's stream is read and closed only end
with the same channels but its own. -/
theorem channels_of_sameBut {start final last : Subscriptions}
    {moves others : List SubscriptionMove} (hrun : machine.Run start moves final)
    (hother : machine.Run start others last)
    (hinputs : (moves.map Transition.input).filter (notOf id) =
      (others.map Transition.input).filter (notOf id))
    {own : Nat} (hown : own ≠ id) : final.channels[own]? = last.channels[own]? := by
  have hkept : ∀ (move : SubscriptionMove) (other : Subscriptions), machine.Fires move →
      notOf id move.input = true → SameBut id move.pre other →
      ∃ next, machine.Fires ⟨other, move.input, next, move.outputs⟩ ∧ SameBut id move.post next :=
    fun _ _ hfires hkept hsame => sameBut_kept hfires hkept hsame
  have hleft : ∀ (move : SubscriptionMove) (other : Subscriptions), machine.Fires move →
      notOf id move.input = false → SameBut id move.pre other → SameBut id move.post other :=
    fun _ _ hfires hleft hsame => sameBut_left hfires hleft hsame
  obtain ⟨rest, without, hrest, hrestInputs, hfinal⟩ := hrun.follow hkept hleft .rfl
  obtain ⟨rest', without', hrest', hrestInputs', hlast⟩ := hother.follow hkept hleft .rfl
  obtain ⟨-, rfl⟩ := hrest.unique hrest' (by rw [hrestInputs, hrestInputs', hinputs])
  exact (hfinal.channels own hown).trans (hlast.channels own hown).symm

/-- In every run, for every subscriber: what its stream has yielded and what waits in
its channel is a subsequence of the updates of its session distributed since it
subscribed; all of these were offered to it in that order, but for one that is still on
its way; and those that its channel had room for are the ones its stream has yielded,
that wait in its channel, or that were dropped with its stream.  Runs that differ in
what another subscriber does with its stream leave it with the same. -/
theorem subscriber_receives {transcriptionManager : Bool} {before after : List SubscriptionMove}
    {final : Subscriptions}
    (hrun : machine.Run (new transcriptionManager) (before ++ move :: after) final)
    (hinput : move.input = .subscribe session) (houtputs : move.outputs = [.ok id]) :
    ∃ subscriber, final.channels[id]? = some subscriber ∧
      (subscriber.read ++ subscriber.buffered).Sublist (distributedTo session after) ∧
      (attempts id after).map Prod.fst ++ final.inProgress id = distributedTo session after ∧
      ((attempts id after).filter fun attempt => attempt.2.accepts channelCapacity).map Prod.fst =
        subscriber.read ++ subscriber.buffered ++ subscriber.dropped ∧
      ∀ other, other ≠ id → ∀ moves last, machine.Run (new transcriptionManager) moves last →
        (moves.map Transition.input).filter (notOf other) =
          ((before ++ move :: after).map Transition.input).filter (notOf other) →
        last.channels[id]? = some subscriber := by
  obtain ⟨hbefore, hfires, hafter⟩ := hrun.split_at
  have hknown : move.pre.Known :=
    hbefore.invariant Known (fun _ hstep hpre => known_step hstep hpre)
      (known_new transcriptionManager)
  obtain ⟨hregistered, hchannel, hidle⟩ :=
    registered_of_subscribe hfires hknown hinput houtputs
  obtain ⟨hoffered, subscriber, hsubscriber, hreceived⟩ := received_run hafter hregistered hchannel
  rw [hidle, List.nil_append] at hoffered
  have htaken : accepted id after =
      subscriber.read ++ subscriber.buffered ++ subscriber.dropped := by
    rw [← Receiver.received, hreceived]
    rfl
  refine ⟨subscriber, hsubscriber, ?_, hoffered, htaken, ?_⟩
  · calc
      (subscriber.read ++ subscriber.buffered).Sublist
          (subscriber.read ++ subscriber.buffered ++ subscriber.dropped) :=
        List.sublist_append_left _ _
      _ = accepted id after := htaken.symm
      List.Sublist _ ((attempts id after).map Prod.fst) := List.filter_sublist.map _
      List.Sublist _ ((attempts id after).map Prod.fst ++ final.inProgress id) :=
        List.sublist_append_left _ _
      _ = distributedTo session after := hoffered
  · intro other hother moves last hlast hinputs
    rw [channels_of_sameBut hlast hrun hinputs hother.symm]
    exact hsubscriber

/-- Two subscribers of session `1`; an update is distributed and read by the first, the
second closes its stream and misses the next one. -/
def twoSubscribers : List SubscriptionInput :=
  [.subscribe 1, .subscribe 1, .poll [(1, 2, ⟨0, 500, "and"⟩), (1, 2, ⟨500, 900, "so"⟩)],
    .distribute, .send, .send, .send, .read 0, .close 1, .distribute, .send, .send, .send]

theorem subscriber_receives_twoSubscribers :
    ∃ move after final,
      machine.exec (new true) twoSubscribers = some (move :: after, final) ∧
      ∃ subscriber, final.channels[0]? = some subscriber ∧
        ((attempts 0 after).filter fun attempt => attempt.2.accepts channelCapacity).map Prod.fst =
          subscriber.read ++ subscriber.buffered ++ subscriber.dropped := by
  have hexec : ∃ move after final,
      machine.exec (new true) twoSubscribers = some (move :: after, final) ∧
      move.input = .subscribe 1 ∧ move.outputs = [.ok 0] := ⟨_, _, _, rfl, rfl, rfl⟩
  obtain ⟨move, after, final, hexec, hinput, houtputs⟩ := hexec
  have hrun : machine.Run (new true) ([] ++ move :: after) final := Machine.exec_run hexec
  obtain ⟨subscriber, hsubscriber, -, -, htaken, -⟩ := subscriber_receives hrun hinput houtputs
  exact ⟨move, after, final, hexec, subscriber, hsubscriber, htaken⟩

/-- An update reaches the empty channel of a subscriber, which closes its stream
without reading it. -/
def closedUnread : List SubscriptionInput :=
  [.subscribe 1, .poll [(1, 2, ⟨0, 500, "and"⟩)], .distribute, .send, .send, .close 0]

/-- The update is neither read nor buffered, although there was room for it. -/
theorem unread_update_dropped :
    ¬ ∀ (move : SubscriptionMove) (after : List SubscriptionMove) (final : Subscriptions)
        (session : UInt64) (id : Nat) (subscriber : Subscriber),
      machine.Run (new true) (move :: after) final → move.input = .subscribe session →
      move.outputs = [.ok id] → final.channels[id]? = some subscriber →
      ∀ attempt ∈ attempts id after, attempt.2.accepts channelCapacity = true →
        attempt.1 ∈ subscriber.read ++ subscriber.buffered := by
  intro hbuffers
  have hexec : ∃ move after final subscriber attempt,
      machine.exec (new true) closedUnread = some (move :: after, final) ∧
      move.input = .subscribe 1 ∧ move.outputs = [.ok 0] ∧
      final.channels[0]? = some subscriber ∧ subscriber.read ++ subscriber.buffered = [] ∧
      attempts 0 after = [attempt] ∧ attempt.2.accepts channelCapacity = true :=
    ⟨_, _, _, _, _, rfl, rfl, rfl, rfl, rfl, rfl, rfl⟩
  obtain ⟨move, after, final, subscriber, attempt, hexec, hinput, houtputs, hsubscriber, hempty,
    hattempts, haccepts⟩ := hexec
  have hmem := hbuffers move after final 1 0 subscriber (Machine.exec_run hexec) hinput houtputs
    hsubscriber attempt (by rw [hattempts]; exact List.mem_cons_self) haccepts
  rw [hempty] at hmem
  contradiction

end Subscriptions
end Grpc
end MediaServer
