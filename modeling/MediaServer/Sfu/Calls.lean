import MediaServer.Sfu.Admission
import MediaServer.Sfu.SdpText

/-!
# What one call does

A call on the SFU either admits a transport, or writes what its permit allows and then
removes some transports.  Which of the two, and which transports, is said by `admission`
and `removals`; `effect_of_fires` is the only place where a step of the machine is taken
apart.  `invariant_of_run` is the induction over a run for properties of the states.
-/

namespace MediaServer
namespace Sfu

open Foundation Transcription

namespace ServerStates

/-- `for four_tuple in four_tuples` with the removal of each. -/
def removeTransports (fourTuples : List FourTuple) (states : ServerStates) : ServerStates :=
  fourTuples.foldl (fun states fourTuple => states.removeTransport fourTuple) states

theorem removeTransports_cons (fourTuple : FourTuple) (rest : List FourTuple)
    (states : ServerStates) :
    states.removeTransports (fourTuple :: rest) =
      (states.removeTransport fourTuple).removeTransports rest := rfl

/-- What removing one transport keeps, removing some keeps. -/
theorem removeTransports_keeps (Inv : ServerStates → Prop)
    (hremove : ∀ states fourTuple, Inv states → Inv (states.removeTransport fourTuple))
    (fourTuples : List FourTuple) {states : ServerStates} (hstates : Inv states) :
    Inv (states.removeTransports fourTuples) := by
  induction fourTuples generalizing states with
  | nil => exact hstates
  | cons fourTuple rest ih => exact ih (hremove states fourTuple hstates)

end ServerStates

/-- The transports a call removes, one after another. -/
def removals (gateway : GatewayHandler) : Moment × SfuEvent → List FourTuple
  | (_, .dtls transport read) =>
      match (DtlsHandler.tryRead transport.fourTuple read).result gateway.serverStates with
      | .error .errAlertFatalOrClose => [transport.fourTuple]
      | _ => []
  | (moment, .timeout now) =>
      if gateway.nextTimeout ≤ now then gateway.idleFourTuples moment.orders now else []
  | _ => []

/-- A message that says that a data channel is open. -/
def TaggedMessageEvent.OpensDataChannel (msg : TaggedMessageEvent) : Prop :=
  ∃ message, msg.message = .dtls (.dataChannel message) ∧ message.dataChannelEvent = .open

/-- A message of media: an RTP packet, or RTCP packets. -/
def TaggedMessageEvent.IsMedia (msg : TaggedMessageEvent) : Prop :=
  (∃ packet, msg.message = .rtp (.rtp packet)) ∨ ∃ packets, msg.message = .rtp (.rtcp packets)

/-- No edits beyond those of every call. -/
def Edits.none : Edits where
  heard := ∅
  opened := ∅
  keyed := ∅
  relists := False

/-- A message of STUN. -/
def TaggedMessageEvent.IsStun (msg : TaggedMessageEvent) : Prop :=
  ∃ event, msg.message = .stun event

/-- A call that brings an offer for an endpoint: from the signaling thread, or as JSON on a data
channel of a transport that the index takes for one of the endpoint's. -/
inductive Offers (lib : Libraries) (states : ServerStates) :
    Moment × SfuEvent → SessionId × EndpointId → Option FourTuple → RTCSessionDescription → Prop
  | signaled (moment : Moment) (sessionId : SessionId) (endpointId : EndpointId)
      (offer : RTCSessionDescription) :
      Offers lib states (moment, .offer sessionId endpointId offer) (sessionId, endpointId) none
        offer
  | onDataChannel (moment : Moment) (msg : TaggedMessageEvent) (message : ApplicationMessage)
      (payload : Bytes) (ids : SessionId × EndpointId) (offer : RTCSessionDescription)
      (hmsg : msg.message = .dtls (.dataChannel message))
      (hpayload : message.dataChannelEvent = .message payload)
      (hjson : lib.fromJson payload = .ok offer) (htype : offer.sdpType = .offer)
      (hindex : states.endpoints.get msg.transport.fourTuple = some ids) :
      Offers lib states (moment, .read msg) ids (some msg.transport.fourTuple) offer

/-- A call that leaves a candidate: it brings an offer for the endpoint of the candidate, and
the offer is accepted with the candidate's own description for an answer. -/
def Invites (lib : Libraries) (states : ServerStates) (input : Moment × SfuEvent)
    (candidate : Candidate) : Prop :=
  ∃ fourTuple offer, Offers lib states input candidate.ids fourTuple offer ∧
    (ServerStates.acceptOffer lib input.1.orders input.1.clock input.1.fresh candidate.ids
      fourTuple offer).result states = .ok candidate.localDescription ∧
    candidate.remoteDescription.sdp = offer.sdp ∧
    candidate.localConnCred.iceParams = input.1.fresh

/-- What a call may write.  A message other than a binding request goes through the index at
its four tuple, and at those of the transports in the session found there. -/
def permitOf (lib : Libraries) (states : ServerStates) : Moment × SfuEvent → Permit
  | (moment, .offer sessionId endpointId offer) =>
      { sessions := {sessionId}
        via := ∅
        candidates := {candidate |
          Invites lib states (moment, .offer sessionId endpointId offer) candidate}
        edits := Edits.none }
  | (_, .dtls transport read) =>
      { sessions := ∅
        via := {transport.fourTuple}
        candidates := ∅
        edits := { Edits.none with
          keyed := {key | key.1 = transport.fourTuple ∧ ∃ events contexts messages,
            read = .ok events ∧ DtlsHandler.collect events = .ok (contexts, messages) ∧
              key.2 ∈ contexts} } }
  | (moment, .read msg) =>
      { sessions := ∅
        via := {fourTuple | ¬msg.IsStun ∧ (fourTuple = msg.transport.fourTuple ∨
          ∃ ids, states.endpoints.get msg.transport.fourTuple = some ids ∧
            fourTuple ∈ states.fourTuplesOf ids.1)}
        candidates := {candidate | Invites lib states (moment, .read msg) candidate}
        edits :=
          { heard := {heard | heard = (msg.transport.fourTuple, moment.clock) ∧ msg.IsMedia}
            opened := {fourTuple | fourTuple = msg.transport.fourTuple ∧ msg.OpensDataChannel}
            keyed := ∅
            relists := msg.OpensDataChannel ∧
              states.Relists moment.orders msg.transport } }
  | _ => { sessions := ∅, via := ∅, candidates := ∅, edits := Edits.none }

/-! ## Reads -/

namespace GatewayHandler

variable {lib : Libraries} {transportContext : TransportContext}

theorem serverStates_after_onStates {α : Type} (m : Fallible Error ServerStates α)
    (gateway : GatewayHandler) :
    ((onStates m).after gateway).serverStates = m.after gateway.serverStates := by
  show (Fallible.outcome _ gateway).2.serverStates = _
  rw [onStates, Fallible.outcome_onPart]

/-- A computation on the states, in a frame of the states. -/
theorem within_onStates {α : Type} {permit : Permit} {m : Fallible Error ServerStates α}
    (hm : Fallible.Within (ServerStates.written permit) m) :
    Fallible.Within ((ServerStates.written permit).onPart GatewayHandler.serverStates)
      (onStates m) :=
  Fallible.Within.onPart hm fun _ _ hrel => hrel

theorem within_forward {permit : Permit} (orders : Orders) (now : Instant)
    (event : RTPMessageEvent) :
    Fallible.Within ((ServerStates.written permit).onPart GatewayHandler.serverStates)
      (forward orders now transportContext event) := by
  apply Fallible.Within.bind Fallible.Within.get
  intro gateway
  apply Fallible.Within.bind (Fallible.Within.ofExcept _)
  intro peers
  exact Fallible.Within.pure _

theorem within_handleRtpMessage {permit : Permit} {moment : Moment}
    (hvia : transportContext.fourTuple ∈ permit.via)
    (hheard : (transportContext.fourTuple, moment.clock) ∈ permit.edits.heard) (now : Instant)
    (rtpPacket : Rtp.Packet) :
    Fallible.Within ((ServerStates.written permit).onPart GatewayHandler.serverStates)
      (handleRtpMessage moment now transportContext rtpPacket) := by
  apply Fallible.Within.bind
  · exact within_onStates (ServerStates.within_updateTransport hvia fun transport =>
      .heard transport moment.clock hheard)
  intro _
  apply Fallible.Within.bind
  · apply Fallible.Within.modify
    intro gateway
    show (ServerStates.written permit).rel gateway.serverStates _
    unfold sendAudio
    split
    · exact (ServerStates.written permit).refl _
    · exact (ServerStates.written permit).refl _
  intro _
  exact within_forward moment.orders now _

theorem within_handleRtcpMessage {permit : Permit} {moment : Moment}
    (hvia : transportContext.fourTuple ∈ permit.via)
    (hheard : (transportContext.fourTuple, moment.clock) ∈ permit.edits.heard) (now : Instant)
    (rtcpPackets : List RtcpPacket) :
    Fallible.Within ((ServerStates.written permit).onPart GatewayHandler.serverStates)
      (handleRtcpMessage moment now transportContext rtcpPackets) := by
  apply Fallible.Within.bind
  · exact within_onStates (ServerStates.within_updateTransport hvia fun transport =>
      .heard transport moment.clock hheard)
  intro _
  exact within_forward moment.orders now _

/-- What a data channel says stays within the permit of its message. -/
theorem rel_handleDtlsMessage (lib : Libraries) {msg : TaggedMessageEvent} {message : ApplicationMessage}
    (hmsg : msg.message = .dtls (.dataChannel message)) (moment : Moment)
    (states : ServerStates) :
    (ServerStates.written (permitOf lib states (moment, .read msg))).rel states
      ((handleDtlsMessage lib moment msg.now msg.transport message).after states) := by
  have hstun : ¬msg.IsStun := by
    rintro ⟨event, hevent⟩
    rw [hmsg] at hevent
    contradiction
  unfold handleDtlsMessage
  split
  · rename_i hopen
    apply rel_handleDatachannelOpen
    · exact ⟨hstun, Or.inl rfl⟩
    · exact ⟨rfl, message, hmsg, hopen⟩
    · exact fun hrelists => ⟨⟨message, hmsg, hopen⟩, hrelists⟩
  · rename_i payload hpayload
    apply rel_handleDatachannelMessage
    · exact ⟨hstun, Or.inl rfl⟩
    · intro ids hindex fourTuple hmem
      exact ⟨hstun, Or.inr ⟨ids, hindex, hmem⟩⟩
    · intro offer candidate hjson htype hindex haccepted hsdp hfresh
      have hoffers := Offers.onDataChannel moment msg message payload candidate.ids offer hmsg
        hpayload hjson htype hindex
      exact ⟨_, offer, hoffers, haccepted, hsdp, hfresh⟩
  · exact (ServerStates.written _).refl states

/-- A read admits what it should, or stays within its permit. -/
theorem serverStates_of_tryRead (lib : Libraries) (moment : Moment) (msg : TaggedMessageEvent)
    (gateway : GatewayHandler) :
    (∃ admitted, admission lib gateway.serverStates (moment, .read msg) = some admitted ∧
      ((tryRead lib moment msg).after gateway).serverStates =
        gateway.serverStates.enroll admitted) ∨
    (admission lib gateway.serverStates (moment, .read msg) = none ∧
      (ServerStates.written (permitOf lib gateway.serverStates (moment, .read msg))).rel
        gateway.serverStates ((tryRead lib moment msg).after gateway).serverStates) := by
  have hrefl := (ServerStates.written (permitOf lib gateway.serverStates (moment, .read msg))).refl
    gateway.serverStates
  cases hmsg : msg.message with
  | stun event =>
      cases event with
      | raw bytes => exact Or.inr (by simpa [admission, tryRead, hmsg] using hrefl)
      | stun request =>
          have hread : ((tryRead lib moment msg).after gateway).serverStates =
              (handleStunMessage lib moment msg.now msg.transport request).after
                gateway.serverStates := by
            rw [← serverStates_after_onStates, tryRead, hmsg]
          have hsame : (⟨msg.now, msg.transport, .stun (.stun request)⟩ : TaggedMessageEvent) =
              msg := by rw [← hmsg]
          rw [hread, after_handleStunMessage, hsame]
          cases hadmission : admission lib gateway.serverStates (moment, .read msg) with
          | none => exact Or.inr ⟨rfl, hrefl⟩
          | some admitted => exact Or.inl ⟨admitted, rfl, rfl⟩
  | dtls event =>
      refine Or.inr ⟨by simp [admission, hmsg], ?_⟩
      cases event with
      | raw bytes => simpa [tryRead, hmsg] using hrefl
      | sctp message => simpa [tryRead, hmsg] using hrefl
      | dataChannel message =>
          have hread := rel_handleDtlsMessage lib hmsg moment gateway.serverStates
          rw [← serverStates_after_onStates] at hread
          simpa [tryRead, hmsg] using hread
  | rtp event =>
      refine Or.inr ⟨by simp [admission, hmsg], ?_⟩
      have hself : msg.transport.fourTuple ∈
          (permitOf lib gateway.serverStates (moment, .read msg)).via := by
        refine ⟨?_, Or.inl rfl⟩
        rintro ⟨stunEvent, hevent⟩
        rw [hmsg] at hevent
        contradiction
      cases event with
      | raw bytes => simpa [tryRead, hmsg] using hrefl
      | rtp packet =>
          have hheard : (msg.transport.fourTuple, moment.clock) ∈
              (permitOf lib gateway.serverStates (moment, .read msg)).edits.heard :=
            ⟨rfl, Or.inl ⟨packet, hmsg⟩⟩
          have hread := within_handleRtpMessage hself hheard msg.now packet gateway
          simpa [tryRead, hmsg] using hread
      | rtcp packets =>
          have hheard : (msg.transport.fourTuple, moment.clock) ∈
              (permitOf lib gateway.serverStates (moment, .read msg)).edits.heard :=
            ⟨rfl, Or.inr ⟨packets, hmsg⟩⟩
          have hread := within_handleRtcpMessage hself hheard msg.now packets gateway
          simpa [tryRead, hmsg] using hread

end GatewayHandler

/-! ## One call, and many -/

variable {lib : Libraries}

/-- What a call makes of the states. -/
theorem effect_of_fires {move : SfuMove} (hfires : (sfu lib).Fires move) :
    (∃ admitted, admission lib move.pre.serverStates move.input = some admitted ∧
      move.post.serverStates = move.pre.serverStates.enroll admitted) ∨
    (admission lib move.pre.serverStates move.input = none ∧ ∃ written,
      ServerStates.Written (permitOf lib move.pre.serverStates move.input)
        move.pre.serverStates written ∧
      move.post.serverStates = written.removeTransports (removals move.pre move.input)) := by
  rw [post_of_fires hfires]
  obtain ⟨gateway, ⟨moment, event⟩, post, outputs⟩ := move
  dsimp only
  cases event with
  | offer sessionId endpointId offer =>
      refine Or.inr ⟨rfl, _, ?_, serverStates_offer lib gateway moment sessionId endpointId offer⟩
      apply ServerStates.rel_acceptOffer
      · exact Set.mem_singleton sessionId
      · intro candidate hids haccepted hsdp hfresh
        refine ⟨none, offer, ?_, ?_, hsdp, hfresh⟩
        · rw [hids]
          exact .signaled moment sessionId endpointId offer
        · rw [hids]
          exact haccepted
  | dtls transport read =>
      refine Or.inr ⟨rfl, (DtlsHandler.tryRead transport.fourTuple read).after
        gateway.serverStates, ?_, ?_⟩
      · apply DtlsHandler.within_tryRead
        · exact Set.mem_singleton _
        · intro events contexts messages hread hcollected context hmem
          exact ⟨rfl, events, contexts, messages, hread, hcollected, hmem⟩
      · rw [serverStates_dtls]
        simp only [DtlsHandler.handleRead, removals, Fallible.outcome_eq]
        cases (DtlsHandler.tryRead transport.fourTuple read).result gateway.serverStates with
        | ok messages => rfl
        | error error => cases error <;> rfl
  | read msg =>
      rcases GatewayHandler.serverStates_of_tryRead lib moment msg gateway with
        ⟨admitted, hadmitted, hpost⟩ | ⟨hnone, hwritten⟩
      · exact Or.inl ⟨admitted, hadmitted, (serverStates_read lib gateway moment msg).trans hpost⟩
      · exact Or.inr ⟨hnone, _, hwritten, serverStates_read lib gateway moment msg⟩
  | timeout now =>
      refine Or.inr ⟨rfl, gateway.serverStates, (ServerStates.written _).refl _, ?_⟩
      simp only [sfuStep, GatewayHandler.handleTimeout, removals]
      split <;> rfl
  | pollWrite =>
      refine Or.inr ⟨rfl, gateway.serverStates, (ServerStates.written _).refl _, ?_⟩
      simp only [sfuStep, GatewayHandler.pollWrite, removals]
      cases gateway.transmits.pop <;> rfl

/-- A gateway with which the SFU starts. -/
def GatewayHandler.Fresh (gateway : GatewayHandler) : Prop :=
  ∃ serverConfig localAddr clock audio states, ServerStates.new serverConfig localAddr = .ok states ∧
    gateway = GatewayHandler.new clock states audio

/-! ## A server and its peers -/

def plainConfig : ServerConfig where
  certificates := [[⟨"sha-256", "CD"⟩]]
  mediaConfig := ⟨[], [], []⟩
  sctpPort := 5000
  maxMessageSize := 65536
  idleTimeout := 30

/-- Sockets on one host. -/
def socketAt (port : UInt16) : SocketAddr := .v4 2130706433 port

def plainGateway : GatewayHandler :=
  GatewayHandler.new 0
    ⟨plainConfig, socketAt 3478, HashMap.empty, HashMap.empty, HashMap.empty⟩ false

theorem fresh_plain : plainGateway.Fresh := ⟨plainConfig, socketAt 3478, 0, false, _, rfl, rfl⟩

/-- A server that transcribes. -/
def tappedGateway : GatewayHandler := { plainGateway with audioTx := some [] }

theorem fresh_tapped : tappedGateway.Fresh := ⟨plainConfig, socketAt 3478, 0, true, _, rfl, rfl⟩

theorem toNat_opus_lt : (111 : UInt8).toNat < 128 := by decide

theorem length_noCsrcs_le : ([] : List UInt32).length ≤ 15 := by decide

theorem length_noPadding_le (filler : List UInt8) (hfiller : none = some filler) :
    filler.length ≤ 254 := by
  cases hfiller

/-- A packet of audio. -/
def packetFrom (ssrc : UInt32) : Rtp.Packet where
  marker := false
  payloadType := 111
  sequenceNumber := 1
  timestamp := 1
  ssrc := ssrc
  csrcs := []
  extension := none
  payload := [7]
  padding := none
  payloadType_lt := toNat_opus_lt
  csrcs_length := length_noCsrcs_le
  padding_length := length_noPadding_le

def contextAt (port : UInt16) : TransportContext := ⟨socketAt 3478, socketAt port, none⟩

noncomputable def momentWith (clock : Instant) (usernameFragment : String) : Moment where
  clock := clock
  orders :=
    { sessions := .inOrder [1, 2] (by decide)
      endpoints := .inOrder [10, 20] (by decide)
      transports := .inOrder [(contextAt 5001).fourTuple, (contextAt 5002).fourTuple] (by decide)
      names := .inOrder ["1", "2", "10-1", "10-2"] (by decide) }
  fresh := ⟨usernameFragment, "p"⟩

/-- The offer of a peer that connects to the first session. -/
noncomputable def offering (endpointId : EndpointId) (usernameFragment : String) :
    Moment × SfuEvent :=
  (momentWith 1 usernameFragment, .offer 1 endpointId ⟨.offer, dataOffer, none⟩)

/-- A binding request of a peer, who nominates a port. -/
noncomputable def nominating (username : UserName) (port : UInt16) : Moment × SfuEvent :=
  (momentWith 2 "", .read ⟨2, contextAt port,
    .stun (.stun ⟨[1], some username, [.priority, .iceControlling, .useCandidate], [112]⟩)⟩)

/-- A peer connects. -/
noncomputable def arrival : List (Moment × SfuEvent) :=
  [offering 10 "a", nominating "a:peer" 5001]

/-- The data channel of a port says something. -/
noncomputable def saying (port : UInt16) (event : DataChannelEvent) : Moment × SfuEvent :=
  (momentWith 3 "", .read ⟨3, contextAt port, .dtls (.dataChannel ⟨0, 0, event⟩)⟩)

/-- A peer connects and offers to send audio and video; then another connects. -/
noncomputable def joining : List (Moment × SfuEvent) :=
  arrival ++ [saying 5001 .open, saying 5001 (.message (writeJson ⟨.offer, mediaOffer, none⟩)),
    offering 20 "b", nominating "b:peer" 5002, saying 5002 .open]

/-- Two peers connect from one port. -/
noncomputable def crossing : List (Moment × SfuEvent) :=
  [offering 10 "a", offering 20 "b", nominating "a:peer" 5001, nominating "b:peer" 5001]

/-- The handshake of a port is complete. -/
noncomputable def keying (port : UInt16) : Moment × SfuEvent :=
  (momentWith 3 "", .dtls (contextAt port) (.ok [.handshakeComplete
    (some ⟨.aes128CmHmacSha1_80, .ok ⟨[1], [2], [3], [4]⟩⟩)]))

/-- Two peers connect, and when the second has keys the first sends it media. -/
noncomputable def meeting : List (Moment × SfuEvent) :=
  [offering 10 "a", offering 20 "b", nominating "a:peer" 5001, nominating "b:peer" 5002,
    keying 5002, (momentWith 4 "", .read ⟨4, contextAt 5001, .rtp (.rtcp [])⟩)]

/-- A server starts without sessions, candidates and endpoints. -/
theorem GatewayHandler.Fresh.serverStates {gateway : GatewayHandler} (hfresh : gateway.Fresh) :
    ∃ serverConfig localAddr, gateway.serverStates =
      ⟨serverConfig, localAddr, HashMap.empty, HashMap.empty, HashMap.empty⟩ := by
  obtain ⟨serverConfig, localAddr, clock, audio, states, hstates, rfl⟩ := hfresh
  unfold ServerStates.new at hstates
  split at hstates
  · obtain rfl := Except.ok.inj hstates
    exact ⟨serverConfig, localAddr, rfl⟩
  · contradiction

/-- A property of the states that writes, admissions and removals keep holds after every
run. -/
theorem invariant_of_run (Inv : ServerStates → Prop)
    (hwritten : ∀ permit before after, ServerStates.Written permit before after →
      Inv before → Inv after)
    (henroll : ∀ states input admitted, admission lib states input = some admitted →
      Inv states → Inv (states.enroll admitted))
    (hremove : ∀ states fourTuple, Inv states → Inv (states.removeTransport fourTuple))
    {start final : GatewayHandler} {moves : List SfuMove} (hrun : (sfu lib).Run start moves final)
    (hstart : Inv start.serverStates) : Inv final.serverStates := by
  refine hrun.invariant (fun gateway => Inv gateway.serverStates) ?_ hstart
  intro move hfires hpre
  rcases effect_of_fires hfires with ⟨admitted, hadmitted, hpost⟩ | ⟨-, written, hwrote, hpost⟩
  · rw [hpost]
    exact henroll _ _ _ hadmitted hpre
  · rw [hpost]
    exact ServerStates.removeTransports_keeps Inv hremove _ (hwritten _ _ _ hwrote hpre)

end Sfu
end MediaServer
