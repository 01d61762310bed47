import MediaServer.Sfu.Forwarding

/-!
# Where media goes over a run

What the gateway reads it answers through one queue, and what is polled from it comes out
of that queue in order: nothing is lost, repeated or made up (`queue_of_run`).

Every media message that ever enters the queue is the copy of one that was read
(`media_of_run`).  Its receiver was a transport of another endpoint in the session of the
sender at that moment.  Before that, both had been admitted by nominations with the
integrity of their candidates' passwords, and the receiver had been keyed by a handshake on
its own four tuple.
-/

namespace MediaServer
namespace Sfu

open Foundation Transcription

/-- What a call queues. -/
def queued (lib : Libraries) (move : SfuMove) : List TaggedMessageEvent :=
  match move.input with
  | (moment, .read msg) =>
      match (GatewayHandler.tryRead lib moment msg).result move.pre with
      | .ok messages => messages
      | .error _ => []
  | _ => []

/-- What a call writes. -/
def written (move : SfuMove) : List TaggedMessageEvent :=
  move.outputs.filterMap fun
    | .written message => some message
    | _ => none

namespace GatewayHandler

section Fixing

variable {β : Type} {field : GatewayHandler → β}

/-- A computation on the states leaves every other field. -/
theorem within_fixing_onStates {α : Type}
    (hfield : ∀ gateway states, field { gateway with serverStates := states } = field gateway)
    (m : Fallible Error ServerStates α) :
    Fallible.Within (Frame.fixing field) (onStates m) := by
  have hany : Fallible.Within (Frame.fixing fun _ : ServerStates => True) m := fun _ => rfl
  exact Fallible.Within.onPart hany fun gateway states _ => hfield gateway states

theorem within_fixing_forward (orders : Orders) (now : Instant)
    (transportContext : TransportContext) (event : RTPMessageEvent) :
    Fallible.Within (Frame.fixing field) (forward orders now transportContext event) := by
  apply Fallible.Within.bind Fallible.Within.get
  intro gateway
  apply Fallible.Within.bind (Fallible.Within.ofExcept _)
  intro peers
  exact Fallible.Within.pure _

end Fixing

/-- Reading leaves the queue to the caller. -/
theorem within_transmits_tryRead (lib : Libraries) (moment : Moment) (msg : TaggedMessageEvent) :
    Fallible.Within (Frame.fixing GatewayHandler.transmits) (tryRead lib moment msg) := by
  unfold tryRead
  split
  · exact within_fixing_onStates (fun _ _ => rfl) _
  · exact within_fixing_onStates (fun _ _ => rfl) _
  · apply Fallible.Within.bind (within_fixing_onStates (fun _ _ => rfl) _)
    intro _
    apply Fallible.Within.bind
    · apply Fallible.Within.modify
      intro gateway
      show (gateway.sendAudio _).transmits = gateway.transmits
      unfold sendAudio
      split <;> rfl
    · intro _
      exact within_fixing_forward _ _ _ _
  · apply Fallible.Within.bind (within_fixing_onStates (fun _ _ => rfl) _)
    intro _
    exact within_fixing_forward _ _ _ _
  · exact Fallible.Within.pure _

end GatewayHandler

/-! ## The queue -/

/-- A call queues its answers behind what waits, and takes what it writes from the front. -/
theorem transmits_of_fires {lib : Libraries} {move : SfuMove} (hfires : (sfu lib).Fires move) :
    move.post.transmits.history = move.pre.transmits.history ++ queued lib move ∧
      move.post.transmits.taken = move.pre.transmits.taken ++ written move := by
  obtain ⟨gateway, ⟨moment, event⟩, post, outputs⟩ := move
  have hstep := fires_iff.mp hfires
  dsimp only at hstep
  cases event with
  | offer sessionId endpointId offer =>
      simp only [sfuStep] at hstep
      split at hstep <;> obtain ⟨rfl, rfl⟩ := Prod.mk.inj hstep <;> simp [queued, written]
  | dtls transport read =>
      simp only [sfuStep] at hstep
      split at hstep <;> obtain ⟨rfl, rfl⟩ := Prod.mk.inj hstep <;>
        simp [queued, written, List.filterMap_map]
  | read msg =>
      have hsame : ((GatewayHandler.tryRead lib moment msg).after gateway).transmits =
          gateway.transmits := GatewayHandler.within_transmits_tryRead lib moment msg gateway
      simp only [sfuStep, GatewayHandler.handleRead, Fallible.outcome_eq] at hstep
      cases hresult : (GatewayHandler.tryRead lib moment msg).result gateway with
      | ok messages =>
          rw [hresult] at hstep
          obtain ⟨rfl, rfl⟩ := Prod.mk.inj hstep
          simp [queued, written, hresult, hsame]
      | error error =>
          rw [hresult] at hstep
          obtain ⟨rfl, rfl⟩ := Prod.mk.inj hstep
          simp [queued, written, hresult, hsame]
  | timeout now =>
      simp only [sfuStep] at hstep
      obtain ⟨rfl, rfl⟩ := Prod.mk.inj hstep
      have hsame : (gateway.handleTimeout moment.orders now).transmits = gateway.transmits := by
        unfold GatewayHandler.handleTimeout
        split <;> rfl
      simp [queued, written, hsame]
  | pollWrite =>
      simp only [sfuStep, GatewayHandler.pollWrite] at hstep
      cases hpop : gateway.transmits.pop with
      | none =>
          rw [hpop] at hstep
          obtain ⟨rfl, rfl⟩ := Prod.mk.inj hstep
          simp [queued, written]
      | some popped =>
          obtain ⟨message, transmits⟩ := popped
          rw [hpop] at hstep
          obtain ⟨rfl, rfl⟩ := Prod.mk.inj hstep
          simp [queued, written, Fifo.history_pop hpop, Fifo.taken_pop hpop]

section Queue

variable {lib : Libraries} {start final : GatewayHandler} {moves : List SfuMove}

theorem transmits_of_run (hrun : (sfu lib).Run start moves final) :
    final.transmits.history = start.transmits.history ++ moves.flatMap (queued lib) ∧
      final.transmits.taken = start.transmits.taken ++ moves.flatMap written := by
  induction hrun with
  | nil state => simp
  | cons hfires _ ih =>
      obtain ⟨hhistory, htaken⟩ := transmits_of_fires hfires
      obtain ⟨hhistories, htakens⟩ := ih
      rw [hhistories, htakens, hhistory, htaken]
      simp

theorem GatewayHandler.Fresh.transmits {gateway : GatewayHandler} (hfresh : gateway.Fresh) :
    gateway.transmits = Fifo.empty := by
  obtain ⟨serverConfig, localAddr, clock, audio, states, -, rfl⟩ := hfresh
  rfl

/-- What was queued is what was written, in this order, followed by what still waits. -/
theorem queue_of_run (hfresh : start.Fresh) (hrun : (sfu lib).Run start moves final) :
    moves.flatMap (queued lib) = moves.flatMap written ++ final.transmits.waiting := by
  obtain ⟨hhistory, htaken⟩ := transmits_of_run hrun
  rw [hfresh.transmits, Fifo.history_empty, List.nil_append] at hhistory
  rw [hfresh.transmits, Fifo.taken_empty, List.nil_append] at htaken
  rw [← hhistory, ← htaken]
  rfl

end Queue

/-- Whether a message is for SRTP. -/
def TaggedMessageEvent.isRtp (msg : TaggedMessageEvent) : Bool :=
  match msg.message with
  | .rtp _ => true
  | _ => false

theorem TaggedMessageEvent.isRtp_iff {msg : TaggedMessageEvent} :
    msg.isRtp = true ↔ ∃ event, msg.message = .rtp event := by
  obtain ⟨now, transport, message⟩ := msg
  cases message <;> simp [isRtp]

/-! ## Only media is answered with media -/

namespace GatewayHandler

/-- Messages that are not media. -/
def NoMedia (messages : List TaggedMessageEvent) : Prop :=
  ∀ message ∈ messages, ∀ event, message.message ≠ .rtp event

theorem noMedia_nil : NoMedia [] := fun _ hmem => by simp at hmem

theorem noMedia_cons {message : TaggedMessageEvent} {messages : List TaggedMessageEvent}
    (hmessage : ∀ event, message.message ≠ .rtp event) (hmessages : NoMedia messages) :
    NoMedia (message :: messages) :=
  List.forall_mem_cons.mpr ⟨hmessage, hmessages⟩

variable {lib : Libraries} {moment : Moment} {orders : Orders} {now : Instant}
  {transportContext : TransportContext}

theorem returns_handleStunMessage (request : StunMessage) :
    Fallible.Returns NoMedia (handleStunMessage lib moment now transportContext request) := by
  apply Fallible.Returns.bind
  intro states
  apply Fallible.Returns.bind
  intro candidate
  split
  · apply Fallible.Returns.bind
    intro response
    exact Fallible.Returns.pure (noMedia_cons (fun event => by simp) noMedia_nil)
  · apply Fallible.Returns.bind
    intro _
    apply Fallible.Returns.bind
    intro response
    exact Fallible.Returns.pure (noMedia_cons (fun event => by simp) noMedia_nil)

theorem returns_createOfferMessageEvent (associationHandle : Nat) (streamId : UInt16) :
    Fallible.Returns (fun message => ∀ event, message.message ≠ .rtp event)
      (createOfferMessageEvent lib orders now transportContext associationHandle streamId) := by
  apply Fallible.Returns.bind
  intro states
  apply Fallible.Returns.bind
  rintro ⟨ids, session⟩
  apply Fallible.Returns.bind
  intro endpoint
  apply Fallible.Returns.bind
  intro _
  apply Fallible.Returns.bind
  intro remoteDescription
  apply Fallible.Returns.bind
  intro transport
  apply Fallible.Returns.bind
  intro offer
  apply Fallible.Returns.bind
  intro _
  apply Fallible.Returns.bind
  intro offerStr
  exact Fallible.Returns.pure fun event => by simp [dataChannelMessage]

theorem returns_offerToPeers (peers : List DataChannelPeer) :
    Fallible.Returns NoMedia (offerToPeers lib orders now peers) := by
  induction peers with
  | nil => exact Fallible.Returns.pure noMedia_nil
  | cons peer peers ih =>
      apply Fallible.Returns.ite
      · refine Fallible.Returns.bind_of (returns_createOfferMessageEvent _ _) ?_
        intro offer hoffer
        refine Fallible.Returns.bind_of ih ?_
        intro offers hoffers
        exact Fallible.Returns.pure (noMedia_cons hoffer hoffers)
      · exact ih

theorem returns_handleDtlsMessage (message : ApplicationMessage) :
    Fallible.Returns NoMedia (handleDtlsMessage lib moment now transportContext message) := by
  unfold handleDtlsMessage
  split
  · apply Fallible.Returns.bind
    intro states
    apply Fallible.Returns.bind
    rintro ⟨ids, session⟩
    apply Fallible.Returns.bind
    intro endpoint
    apply Fallible.Returns.bind
    intro transport
    apply Fallible.Returns.bind
    intro _
    apply Fallible.Returns.bind
    intro _
    apply Fallible.Returns.bind
    intro _
    apply Fallible.Returns.ite
    · refine Fallible.Returns.bind_of (returns_createOfferMessageEvent _ _) ?_
      intro offer hoffer
      exact Fallible.Returns.pure (noMedia_cons hoffer noMedia_nil)
    · exact Fallible.Returns.pure noMedia_nil
  · apply Fallible.Returns.bind
    intro requestSdp
    apply Fallible.Returns.bind
    intro states
    apply Fallible.Returns.bind
    intro ids
    split
    · apply Fallible.Returns.bind
      intro answer
      apply Fallible.Returns.bind
      intro answerStr
      apply Fallible.Returns.bind
      intro states
      apply Fallible.Returns.bind
      intro peers
      refine Fallible.Returns.bind_of (returns_offerToPeers peers) ?_
      intro offers hoffers
      exact Fallible.Returns.pure
        (noMedia_cons (fun event => by simp [dataChannelMessage]) hoffers)
    · apply Fallible.Returns.bind
      intro _
      exact Fallible.Returns.pure noMedia_nil
    · exact Fallible.Returns.throw _
  · exact Fallible.Returns.pure noMedia_nil

/-- Only the read of media answers with media. -/
theorem isMedia_of_answer {gateway : GatewayHandler} {msg message : TaggedMessageEvent}
    {messages : List TaggedMessageEvent} {event : RTPMessageEvent}
    (hread : (tryRead lib moment msg).result gateway = .ok messages) (hmem : message ∈ messages)
    (hmessage : message.message = .rtp event) : msg.IsMedia := by
  have hanswer : ∀ m : Fallible Error GatewayHandler (List TaggedMessageEvent),
      Fallible.Returns NoMedia m → m.result gateway ≠ .ok messages := by
    intro m hm hresult
    exact hm gateway messages hresult message hmem event hmessage
  unfold tryRead at hread
  split at hread
  · exact absurd hread (hanswer _ (Fallible.Returns.onPart (returns_handleStunMessage _)))
  · exact absurd hread (hanswer _ (Fallible.Returns.onPart (returns_handleDtlsMessage _)))
  · rename_i packet hpacket
    exact Or.inl ⟨packet, hpacket⟩
  · rename_i packets hpackets
    exact Or.inr ⟨packets, hpackets⟩
  · exact absurd hread (hanswer _ (Fallible.Returns.pure noMedia_nil))

end GatewayHandler

/-! ## Media over a run -/

/-- A message is the copy of a media message that was read, for a transport of another
endpoint in the session of its sender, when sender and receiver had been admitted and the
receiver had been keyed. -/
def Relayed (lib : Libraries) (earlier : List SfuMove) (read : SfuMove)
    (message : TaggedMessageEvent) : Prop :=
  ∃ msg sender other senderTransport peer context,
    read.input.2 = .read msg ∧ msg.message = message.message ∧ other ≠ sender.2 ∧
    read.pre.serverStates.transportAt sender msg.transport.fourTuple = some senderTransport ∧
    read.pre.serverStates.transportAt (sender.1, other) message.transport.fourTuple = some peer ∧
    Traced lib earlier msg.transport.fourTuple senderTransport ∧
    Traced lib earlier message.transport.fourTuple peer ∧
    ∃ keying ∈ earlier, Keys keying message.transport.fourTuple context

section Relay

variable {lib : Libraries} {start final : GatewayHandler} {moves : List SfuMove}

/-- Media that a call queues is a copy of the media message it reads, for a transport with an
SRTP context of another endpoint in the session. -/
theorem copy_of_queued {read : SfuMove} {message : TaggedMessageEvent} {event : RTPMessageEvent}
    (hqueued : message ∈ queued lib read) (hmessage : message.message = .rtp event) :
    ∃ msg sender senderTransport other peer, read.input.2 = .read msg ∧ msg.IsMedia ∧
      msg.message = message.message ∧
      read.pre.serverStates.transportAt sender msg.transport.fourTuple = some senderTransport ∧
      other ≠ sender.2 ∧
      read.pre.serverStates.transportAt (sender.1, other) message.transport.fourTuple =
        some peer ∧ peer.isLocalSrtpContextReady = true := by
  obtain ⟨pre, ⟨moment, input⟩, post, outputs⟩ := read
  cases input with
  | read msg =>
      simp only [queued] at hqueued
      split at hqueued
      · rename_i messages hresult
        have hmedia := GatewayHandler.isMedia_of_answer hresult hqueued hmessage
        have hmsg : ∃ event, msg.message = .rtp event := by
          rcases hmedia with ⟨packet, hpacket⟩ | ⟨packets, hpackets⟩
          · exact ⟨_, hpacket⟩
          · exact ⟨_, hpackets⟩
        obtain ⟨heardEvent, hmsg⟩ := hmsg
        have houtcome : (GatewayHandler.tryRead lib moment msg).outcome pre = _ :=
          GatewayHandler.outcome_tryRead_media lib moment hmsg hmedia
        cases hlookup : pre.serverStates.getMutTransport msg.transport.fourTuple with
        | error error =>
            rw [hlookup] at houtcome
            exact absurd ((congrArg Prod.fst houtcome).symm.trans hresult) (by simp)
        | ok found =>
            obtain ⟨sender, senderTransport⟩ := found
            obtain ⟨contexts, hcontexts, -, hmem⟩ :=
              GatewayHandler.handleRead_media_of_ok lib moment hmsg hmedia hlookup
            rw [hlookup] at houtcome
            dsimp only at houtcome
            rw [hcontexts] at houtcome
            have hanswer : (.ok (GatewayHandler.copies msg.now heardEvent contexts) :
                Except Error (List TaggedMessageEvent)) = .ok messages :=
              (congrArg Prod.fst houtcome).symm.trans hresult
            obtain rfl := Except.ok.inj hanswer
            obtain ⟨context, hcontext, rfl⟩ := List.mem_map.mp hqueued
            obtain ⟨-, other, peer, hne, hpeer, hready⟩ := (hmem context).mp hcontext
            have hsender := ((pre.serverStates.getMutTransport_eq_ok_iff sender).mp hlookup).2
            exact ⟨msg, sender, senderTransport, other, peer, rfl, hmedia, hmsg, hsender, hne,
              hpeer, hready⟩
      · simp at hqueued
  | _ => simp [queued] at hqueued

/-- A read that queues media relays it, and only to a receiver with every right to it. -/
theorem relayed_of_queued {earlier later : List SfuMove} {read : SfuMove} (hfresh : start.Fresh)
    (hrun : (sfu lib).Run start (earlier ++ read :: later) final) {message : TaggedMessageEvent}
    {event : RTPMessageEvent} (hqueued : message ∈ queued lib read)
    (hmessage : message.message = .rtp event) : Relayed lib earlier read message := by
  have htraced := (tracedStates_of_run hfresh hrun.split_at.1).transport
  obtain ⟨msg, sender, senderTransport, other, peer, hinput, -, hsame, hsender, hne, hpeer,
    hready⟩ := copy_of_queued hqueued hmessage
  obtain ⟨localContext, hlocal⟩ := Option.isSome_iff_exists.mp hready
  have hpeerTraced := htraced _ _ _ hpeer
  exact ⟨msg, sender, other, senderTransport, peer, localContext, hinput, hsame, hne, hsender,
    hpeer, htraced _ _ _ hsender, hpeerTraced, hpeerTraced.localSrtpContext localContext hlocal⟩

/-- Raw packets are never queued. -/
theorem isMedia_of_run (hfresh : start.Fresh) (hrun : (sfu lib).Run start moves final)
    {message : TaggedMessageEvent} {event : RTPMessageEvent}
    (hqueued : message ∈ final.transmits.history) (hmessage : message.message = .rtp event) :
    message.IsMedia := by
  rw [(transmits_of_run hrun).1, hfresh.transmits, Fifo.history_empty, List.nil_append,
    List.mem_flatMap] at hqueued
  obtain ⟨read, -, hqueued⟩ := hqueued
  obtain ⟨msg, -, -, -, -, -, hmedia, hsame, -⟩ := copy_of_queued hqueued hmessage
  unfold TaggedMessageEvent.IsMedia at hmedia ⊢
  rwa [hsame] at hmedia

/-- Every media message that was ever queued was relayed from a message read before. -/
theorem media_of_run (hfresh : start.Fresh) (hrun : (sfu lib).Run start moves final)
    {message : TaggedMessageEvent} {event : RTPMessageEvent}
    (hqueued : message ∈ final.transmits.history) (hmessage : message.message = .rtp event) :
    ∃ earlier read later, moves = earlier ++ read :: later ∧ Relayed lib earlier read message := by
  rw [(transmits_of_run hrun).1, hfresh.transmits, Fifo.history_empty, List.nil_append,
    List.mem_flatMap] at hqueued
  obtain ⟨read, hread, hqueued⟩ := hqueued
  obtain ⟨earlier, later, rfl⟩ := List.append_of_mem hread
  exact ⟨earlier, read, later, rfl, relayed_of_queued hfresh hrun hqueued hmessage⟩

theorem media_of_run_meeting :
    ∃ message ∈ (sfuAfter plainLibraries plainGateway meeting).transmits.history,
      ∃ earlier read later,
        sfuMoves plainLibraries plainGateway meeting = earlier ++ read :: later ∧
          Relayed plainLibraries earlier read message := by
  have hsome : ((sfuAfter plainLibraries plainGateway meeting).transmits.history.find?
      TaggedMessageEvent.isRtp).isSome := by decide +kernel
  obtain ⟨message, hfound⟩ := Option.isSome_iff_exists.mp hsome
  have hmem := List.mem_of_find?_eq_some hfound
  obtain ⟨event, hmessage⟩ := TaggedMessageEvent.isRtp_iff.mp (List.find?_some hfound)
  have hrun := run_sfuMoves plainLibraries plainGateway meeting
  exact ⟨message, hmem, media_of_run fresh_plain hrun hmem hmessage⟩

end Relay

end Sfu
end MediaServer
