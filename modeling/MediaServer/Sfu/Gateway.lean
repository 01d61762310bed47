import MediaServer.Foundation.Fifo
import MediaServer.Sfu.Messages
import MediaServer.Sfu.ServerStates
import MediaServer.Signal.MediaWorker

/-!
# The gateway

`handler/gateway.rs`: binding requests admit transports, data channels carry offers and
answers, and media is forwarded to the other endpoints of a session.
-/

namespace MediaServer
namespace Sfu

open Foundation Transcription

/-- What a call takes from its surroundings: the clock, the orders in which maps are
iterated, and random credentials. -/
structure Moment where
  clock : Instant
  orders : Orders
  fresh : RTCIceParameters

structure GatewayHandler where
  serverStates : ServerStates
  transmits : Fifo TaggedMessageEvent
  nextTimeout : Instant
  idleTimeout : Duration
  /-- what was sent on the channel for audio, if there is one -/
  audioTx : Option (List Signal.AudioPacketInfo)

/-- Whether a data channel of another endpoint is ready, and whether the endpoint has
transceivers it was not told of. -/
structure DataChannelPeer where
  transport : TransportContext
  associationHandle : Nat
  streamId : UInt16
  isRenegotiationNeeded : Bool

namespace GatewayHandler

/-- `new`, or `with_audio_callback` when there is a channel for audio. -/
def new (clock : Instant) (serverStates : ServerStates) (audio : Bool) : GatewayHandler where
  serverStates := serverStates
  transmits := Fifo.empty
  nextTimeout := clock + serverStates.serverConfig.idleTimeout
  idleTimeout := serverStates.serverConfig.idleTimeout
  audioTx := if audio then some [] else none

/-! ## Binding requests -/

/-- What is wrong with the attributes of a request that names a user. -/
def invalidStunMessage (request : StunMessage) : Option Error :=
  if !request.contains .priority then
    some (.other "invalid STUN message without ATTR_PRIORITY")
  else if request.contains .iceControlling then
    if request.contains .iceControlled then
      some (.other ("invalid STUN message with both ATTR_ICE_CONTROLLING and " ++
        "ATTR_ICE_CONTROLLED"))
    else none
  else if request.contains .iceControlled then
    if request.contains .useCandidate then
      some (.other ("invalid STUN message with both ATTR_USE_CANDIDATE and " ++
        "ATTR_ICE_CONTROLLED"))
    else none
  else
    some (.other ("invalid STUN message without ATTR_ICE_CONTROLLING or " ++
      "ATTR_ICE_CONTROLLED"))

def checkStunMessage (lib : Libraries) (states : ServerStates) (request : StunMessage) :
    Except Error (Option Candidate) :=
  match request.username with
  | some username =>
      match invalidStunMessage request with
      | some error => .error error
      | none =>
          match states.candidates.get username with
          | some candidate =>
              match lib.checkIntegrity candidate.localConnCred.iceParams.password request with
              | .ok () => .ok (some candidate)
              | .error text => .error (.library text)
          | none => .error (.other "username not found")
  | none =>
      if request.contains .iceControlled || request.contains .iceControlling ||
          request.contains .networkCost || request.contains .priority ||
          request.contains .useCandidate then
        .error (.other "unexpected attribute")
      else .ok none

/-- A nominated address pair becomes a transport of the candidate's endpoint. -/
def addEndpoint (clock : Instant) (request : StunMessage) (candidate : Candidate)
    (transportContext : TransportContext) : Fallible Error ServerStates Bool := do
  let states ← get
  let sessionId := candidate.sessionId
  let session ← Fallible.okOr (states.sessions.get sessionId)
    (.other s!"session {sessionId} not found")
  let endpoint := session.endpoints.get candidate.endpointId
  let fourTuple := transportContext.fourTuple
  let hasTransport := endpoint.any (·.hasTransport fourTuple)
  if !request.contains .useCandidate || hasTransport then
    return endpoint.isNone
  else
    let (session, isNewEndpoint) := session.addEndpoint clock candidate transportContext
    modify (·.modifySession sessionId fun _ => session)
    modify (·.addEndpoint fourTuple candidate.ids)
    return isNewEndpoint

def handleStunMessage (lib : Libraries) (moment : Moment) (now : Instant)
    (transportContext : TransportContext) (request : StunMessage) :
    Fallible Error ServerStates (List TaggedMessageEvent) := do
  let states ← get
  let candidate ← Fallible.ofExcept (checkStunMessage lib states request)
  match candidate with
  | none =>
      let response ← Fallible.ofExcept ((lib.bindingSuccess request.transactionId
        transportContext.peerAddr none).mapError .library)
      return [⟨now, transportContext, .stun (.stun response)⟩]
  | some candidate =>
      let _ ← addEndpoint moment.clock request candidate transportContext
      let response ← Fallible.ofExcept ((lib.bindingSuccess request.transactionId
        transportContext.peerAddr
        (some candidate.localConnCred.iceParams.password)).mapError .library)
      return [⟨now, transportContext, .stun (.stun response)⟩]

/-! ## Who else is in the session -/

/-- The session and endpoint of an address pair. -/
def senderOf (states : ServerStates) (transportContext : TransportContext) :
    Except Error ((SessionId × EndpointId) × Session) :=
  match states.findEndpoint transportContext.fourTuple with
  | none => .error .errClientTransportNotSet
  | some ids =>
      match states.sessions.get ids.1 with
      | none => .error (noSession ids.1)
      | some session => .ok (ids, session)

/-- The transports of the other endpoints of a session. -/
def otherTransports (orders : Orders) (session : Session) (endpointId : EndpointId) :
    List (Endpoint × FourTuple × Transport) :=
  (session.endpoints.iter orders.endpoints).flatMap fun (otherEndpointId, otherEndpoint) =>
    if otherEndpointId ≠ endpointId then
      (otherEndpoint.transports.iter orders.transports).map fun (fourTuple, transport) =>
        (otherEndpoint, fourTuple, transport)
    else []

/-- The context of another transport, with the congestion bits of the packet at hand. -/
def contextOf (transportContext : TransportContext) (otherFourTuple : FourTuple) :
    TransportContext where
  localAddr := otherFourTuple.localAddr
  peerAddr := otherFourTuple.peerAddr
  ecn := transportContext.ecn

def getOtherDatachannelTransportContexts (orders : Orders) (states : ServerStates)
    (transportContext : TransportContext) : Except Error (List DataChannelPeer) :=
  match senderOf states transportContext with
  | .error error => .error error
  | .ok ((_, endpointId), session) =>
      .ok ((otherTransports orders session endpointId).filterMap
        fun (otherEndpoint, otherFourTuple, otherTransport) =>
          match otherTransport.associationHandle, otherTransport.streamId with
          | some associationHandle, some streamId =>
              some ⟨contextOf transportContext otherFourTuple, associationHandle, streamId,
                otherEndpoint.isRenegotiationNeeded⟩
          | _, _ => none)

def getOtherMediaTransportContexts (orders : Orders) (states : ServerStates)
    (transportContext : TransportContext) : Except Error (List TransportContext) :=
  match senderOf states transportContext with
  | .error error => .error error
  | .ok ((_, endpointId), session) =>
      .ok ((otherTransports orders session endpointId).filterMap
        fun (_, otherFourTuple, otherTransport) =>
          if otherTransport.isLocalSrtpContextReady then
            some (contextOf transportContext otherFourTuple)
          else none)

/-! ## Data channels -/

/-- A text for a data channel. -/
def dataChannelMessage (now : Instant) (transportContext : TransportContext)
    (associationHandle : Nat) (streamId : UInt16) (payload : Bytes) : TaggedMessageEvent :=
  ⟨now, transportContext,
    .dtls (.dataChannel ⟨associationHandle, streamId, .message payload⟩)⟩

/-- An offer to the endpoint of an address pair; its flag for renegotiation is cleared
first. -/
def createOfferMessageEvent (lib : Libraries) (orders : Orders) (now : Instant)
    (transportContext : TransportContext) (associationHandle : Nat) (streamId : UInt16) :
    Fallible Error ServerStates TaggedMessageEvent := do
  let fourTuple := transportContext.fourTuple
  let states ← get
  let (ids, session) ← Fallible.ofExcept (senderOf states transportContext)
  let endpoint ← Fallible.okOr (session.endpoints.get ids.2) (noEndpoint ids.2)
  modify (·.modifyEndpoint ids (·.setRenegotiationNeeded false))
  let remoteDescription ← Fallible.okOr endpoint.remoteDescription
    (.other "remote_description is not set")
  let transport ← Fallible.okOr (endpoint.transports.get fourTuple)
    (.noTransportForEndpoint ids.2 fourTuple)
  let offer ← Fallible.ofExcept (session.createOffer lib orders ids.2 remoteDescription
    transport.candidate.localConnCred.iceParams)
  ServerStates.onSession ids.1 (noSession ids.1) (Session.setLocalDescription ids.2 offer)
  let offerStr ← Fallible.ofExcept ((lib.toJson offer).mapError .other)
  return dataChannelMessage now transportContext associationHandle streamId offerStr

/-- What the transceivers of the other endpoints that receive become at an endpoint that
joins: it sends them on. -/
def newTransceivers (orders : Orders) (session : Session) (endpointId : EndpointId) :
    List RTCRtpTransceiver :=
  (session.endpoints.iter orders.endpoints).flatMap fun (otherEndpointId, otherEndpoint) =>
    if otherEndpointId ≠ endpointId then
      (otherEndpoint.transceivers.iter orders.names).filterMap
        fun (otherMid, otherTransceiver) =>
          if otherTransceiver.direction = .recvonly then
            some { otherTransceiver with
              mid := otherMidValue otherEndpointId otherMid
              direction := .sendonly }
          else none
    else []

/-- `mids.push(..)` and `transceivers.insert(..)` for each. -/
def addTransceivers (added : List RTCRtpTransceiver) (endpoint : Endpoint) : Endpoint :=
  added.foldl (fun endpoint transceiver => endpoint.addTransceiver transceiver.mid transceiver)
    endpoint

def handleDatachannelOpen (lib : Libraries) (orders : Orders) (now : Instant)
    (transportContext : TransportContext) (associationHandle : Nat) (streamId : UInt16) :
    Fallible Error ServerStates (List TaggedMessageEvent) := do
  let fourTuple := transportContext.fourTuple
  let states ← get
  let (ids, session) ← Fallible.ofExcept (senderOf states transportContext)
  let added := newTransceivers orders session ids.2
  let endpoint ← Fallible.okOr (session.endpoints.get ids.2) (noEndpoint ids.2)
  let _ ← Fallible.okOr (endpoint.transports.get fourTuple)
    (.noTransportForEndpoint ids.2 fourTuple)
  modify (·.modifyTransport ids fourTuple
    (·.setAssociationHandleAndStreamId associationHandle streamId))
  modify (·.modifyEndpoint ids (·.setRenegotiationNeeded !added.isEmpty))
  modify (·.modifyEndpoint ids (addTransceivers added))
  if !added.isEmpty then
    let offer ← createOfferMessageEvent lib orders now transportContext associationHandle
      streamId
    return [offer]
  else return []

/-- Offers to the peers that need one; an error ends the round. -/
def offerToPeers (lib : Libraries) (orders : Orders) (now : Instant) :
    List DataChannelPeer → Fallible Error ServerStates (List TaggedMessageEvent)
  | [] => pure []
  | peer :: peers => do
      if peer.isRenegotiationNeeded then
        let offer ← createOfferMessageEvent lib orders now peer.transport
          peer.associationHandle peer.streamId
        let offers ← offerToPeers lib orders now peers
        return offer :: offers
      else offerToPeers lib orders now peers

def handleDatachannelMessage (lib : Libraries) (moment : Moment) (now : Instant)
    (transportContext : TransportContext) (associationHandle : Nat) (streamId : UInt16)
    (payload : Bytes) : Fallible Error ServerStates (List TaggedMessageEvent) := do
  let requestSdp ← Fallible.ofExcept ((lib.fromJson payload).mapError .other)
  let fourTuple := transportContext.fourTuple
  let states ← get
  let ids ← Fallible.okOr (states.findEndpoint fourTuple) .errClientTransportNotSet
  match requestSdp.sdpType with
  | .offer =>
      let answer ← ServerStates.acceptOffer lib moment.orders moment.clock moment.fresh
        ids (some fourTuple) requestSdp
      let answerStr ← Fallible.ofExcept ((lib.toJson answer).mapError .other)
      let states ← get
      let peers ← Fallible.ofExcept
        (getOtherDatachannelTransportContexts moment.orders states transportContext)
      let offers ← offerToPeers lib moment.orders now peers
      return dataChannelMessage now transportContext associationHandle streamId answerStr ::
        offers
  | .answer =>
      ServerStates.acceptAnswer lib moment.orders ids requestSdp
      return []
  | sdpType => throw (.other ("Unsupported SDP type " ++ sdpType.toStr))

def handleDtlsMessage (lib : Libraries) (moment : Moment) (now : Instant)
    (transportContext : TransportContext) (message : ApplicationMessage) :
    Fallible Error ServerStates (List TaggedMessageEvent) :=
  match message.dataChannelEvent with
  | .open => handleDatachannelOpen lib moment.orders now transportContext
      message.associationHandle message.streamId
  | .message payload => handleDatachannelMessage lib moment now transportContext
      message.associationHandle message.streamId payload
  -- a closed data channel leaves everything as it is
  | .close => return []

/-! ## Media -/

/-- What the audio callback is told of a packet. -/
def audioInfo (packet : Rtp.Packet) : Signal.AudioPacketInfo where
  ssrc := packet.ssrc
  timestamp := packet.timestamp
  sequenceNumber := packet.sequenceNumber
  payloadType := packet.payloadType
  payload := packet.payload

/-- `tx.send(audio_info)`, if there is a channel and the payload type is one of audio. -/
def sendAudio (packet : Rtp.Packet) (gateway : GatewayHandler) : GatewayHandler :=
  if Signal.isAudioPayloadType packet.payloadType then
    { gateway with audioTx := gateway.audioTx.map (· ++ [audioInfo packet]) }
  else gateway

/-- A computation on the server states. -/
def onStates {α : Type} (m : Fallible Error ServerStates α) : Fallible Error GatewayHandler α :=
  Fallible.onPart GatewayHandler.serverStates
    (fun states gateway => { gateway with serverStates := states }) m

/-- One message for each of the other transports that can send media. -/
def forward (orders : Orders) (now : Instant) (transportContext : TransportContext)
    (event : RTPMessageEvent) : Fallible Error GatewayHandler (List TaggedMessageEvent) := do
  let gateway ← get
  let peers ← Fallible.ofExcept
    (getOtherMediaTransportContexts orders gateway.serverStates transportContext)
  return peers.map fun transport => ⟨now, transport, .rtp event⟩

def handleRtpMessage (moment : Moment) (now : Instant) (transportContext : TransportContext)
    (rtpPacket : Rtp.Packet) : Fallible Error GatewayHandler (List TaggedMessageEvent) := do
  onStates (ServerStates.updateTransport transportContext.fourTuple
    (·.keepAlive moment.clock))
  modify (sendAudio rtpPacket)
  forward moment.orders now transportContext (.rtp rtpPacket)

def handleRtcpMessage (moment : Moment) (now : Instant) (transportContext : TransportContext)
    (rtcpPackets : List RtcpPacket) :
    Fallible Error GatewayHandler (List TaggedMessageEvent) := do
  onStates (ServerStates.updateTransport transportContext.fourTuple
    (·.keepAlive moment.clock))
  forward moment.orders now transportContext (.rtcp rtcpPackets)

/-! ## The handler -/

/-- The closure `try_read` of `handle_read`. -/
def tryRead (lib : Libraries) (moment : Moment) (msg : TaggedMessageEvent) :
    Fallible Error GatewayHandler (List TaggedMessageEvent) :=
  match msg.message with
  | .stun (.stun message) =>
      onStates (handleStunMessage lib moment msg.now msg.transport message)
  | .dtls (.dataChannel message) =>
      onStates (handleDtlsMessage lib moment msg.now msg.transport message)
  | .rtp (.rtp packet) => handleRtpMessage moment msg.now msg.transport packet
  | .rtp (.rtcp packets) => handleRtcpMessage moment msg.now msg.transport packets
  -- drop unsupported message
  | _ => return []

/-- What is read is answered through the queue; an error is passed on as an exception. -/
def handleRead (lib : Libraries) (moment : Moment) (msg : TaggedMessageEvent)
    (gateway : GatewayHandler) : GatewayHandler × Option Error :=
  match (tryRead lib moment msg).outcome gateway with
  | (.ok messages, gateway) =>
      ({ gateway with transmits := gateway.transmits.pushAll messages }, none)
  | (.error error, gateway) => (gateway, some error)

/-- The four tuples of all transports without activity since `now - idle_timeout`. -/
def idleFourTuples (orders : Orders) (now : Instant) (gateway : GatewayHandler) :
    List FourTuple :=
  (gateway.serverStates.sessions.iter orders.sessions).flatMap fun (_, session) =>
    (session.endpoints.iter orders.endpoints).flatMap fun (_, endpoint) =>
      (endpoint.transports.iter orders.transports).filterMap fun (_, transport) =>
        if transport.lastActivity ≤ now - gateway.idleTimeout then some transport.fourTuple
        else none

def handleTimeout (orders : Orders) (now : Instant) (gateway : GatewayHandler) :
    GatewayHandler :=
  if gateway.nextTimeout ≤ now then
    { gateway with
      serverStates := (gateway.idleFourTuples orders now).foldl
        (fun states fourTuple => states.removeTransport fourTuple) gateway.serverStates
      nextTimeout := gateway.nextTimeout + gateway.idleTimeout }
  else gateway

/-- The handlers behind the gateway have nothing to write. -/
def pollWrite (gateway : GatewayHandler) : Option TaggedMessageEvent × GatewayHandler :=
  match gateway.transmits.pop with
  | none => (none, gateway)
  | some (message, transmits) => (some message, { gateway with transmits })

end GatewayHandler

end Sfu
end MediaServer
