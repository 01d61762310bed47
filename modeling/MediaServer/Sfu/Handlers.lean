import MediaServer.Foundation.Relay
import MediaServer.Sfu.Interceptor
import MediaServer.Sfu.SfuMachine

/-!
# The handlers around the gateway

`handler/`: what every handler but the gateway makes of one message.  Reads come from the
socket and go inwards; polls for output go inwards too, and what they find comes back
outwards through the same handlers.

The libraries for STUN, DTLS, SCTP, data channels and SRTP are not in the repository.  Those
of their functions that only look at a message are the fields of `Codecs`; what a library
with a state of its own answers is an argument of the call that asks.
-/

namespace MediaServer
namespace Sfu

open Foundation Transcription

/-- `retty::transport::TaggedBytesMut` -/
structure TaggedBytesMut where
  now : Instant
  transport : TransportContext
  message : Bytes
  deriving DecidableEq

/-- What the DTLS and SCTP libraries want sent. -/
structure Transmit (Payload : Type) where
  now : Instant
  remote : SocketAddr
  ecn : Option EcnCodepoint
  payload : Payload

/-- `sctp::Payload` -/
inductive SctpPayload
  | partialDecode
  | rawEncode (contents : List Bytes)

/-- `datachannel::message::message_channel_open::ChannelType` -/
inductive ChannelType
  | reliable
  | reliableUnordered
  | partialReliableRexmit
  | partialReliableRexmitUnordered
  | partialReliableTimed
  | partialReliableTimedUnordered
  deriving DecidableEq

/-- The parts of a `DataChannelOpen` that are read. -/
structure DataChannelOpen where
  channelType : ChannelType
  reliabilityParameter : UInt32
  deriving DecidableEq

/-- Functions of libraries that depend on nothing but the message. -/
structure Codecs where
  /-- `stun::message::Message::decode` -/
  decodeStun : Bytes → Except String StunMessage
  /-- the bytes of a message after `encode` -/
  encodeStun : StunMessage → Bytes
  /-- `shared::util::is_rtcp` -/
  isRtcp : Bytes → Bool
  /-- `MessageType::unmarshal`: whether the type is `DataChannelOpen`, and the bytes behind it -/
  messageType : Bytes → Except String (Bool × Bytes)
  /-- `DataChannelOpen::unmarshal` -/
  dataChannelOpen : Bytes → Except String DataChannelOpen
  /-- `Message::DataChannelAck(DataChannelAck {}).marshal()` -/
  dataChannelAck : Except String Bytes

/-- Messages to queue, and errors to pass on as exceptions. -/
abbrev Produced := List TaggedMessageEvent × List Error

namespace Produced

def nothing : Produced := ([], [])

def ofExcept : Except Error (List TaggedMessageEvent) → Produced
  | .ok messages => (messages, [])
  | .error error => ([], [error])

end Produced

/-! ## Demultiplexing -/

namespace DemuxerHandler

def matchRange (lower upper : UInt8) : Bytes → Bool
  | [] => false
  | b :: _ => decide (lower ≤ b) && decide (b ≤ upper)

def matchDtls : Bytes → Bool := matchRange 20 63

def matchSrtp : Bytes → Bool := matchRange 128 191

/-- What is neither DTLS nor SRTP is taken for STUN. -/
def handleRead (msg : TaggedBytesMut) : Option TaggedMessageEvent :=
  if msg.message.isEmpty then none
  else if matchDtls msg.message then some ⟨msg.now, msg.transport, .dtls (.raw msg.message)⟩
  else if matchSrtp msg.message then some ⟨msg.now, msg.transport, .rtp (.raw msg.message)⟩
  else some ⟨msg.now, msg.transport, .stun (.raw msg.message)⟩

/-- Only raw messages are handed to the socket. -/
def pollWrite (msg : TaggedMessageEvent) : Option TaggedBytesMut :=
  match msg.message with
  | .stun (.raw message) => some ⟨msg.now, msg.transport, message⟩
  | .dtls (.raw message) => some ⟨msg.now, msg.transport, message⟩
  | .rtp (.raw message) => some ⟨msg.now, msg.transport, message⟩
  | _ => none

end DemuxerHandler

/-! ## STUN -/

namespace StunHandler

def handleRead (codecs : Codecs) (msg : TaggedMessageEvent) : Except Error TaggedMessageEvent :=
  match msg.message with
  | .stun (.raw message) =>
      match codecs.decodeStun message with
      | .ok stunMessage => .ok { msg with message := .stun (.stun stunMessage) }
      | .error text => .error (.library text)
  | _ => .ok msg

def pollWrite (codecs : Codecs) (msg : TaggedMessageEvent) : TaggedMessageEvent :=
  match msg.message with
  | .stun (.stun stunMessage) =>
      { msg with message := .stun (.raw (codecs.encodeStun stunMessage)) }
  | _ => msg

end StunHandler

/-! ## DTLS -/

namespace DtlsHandler

/-- What the library wants sent goes out from the address of the socket. -/
def transmitMessages (localAddr : SocketAddr) (transmits : List (Transmit Bytes)) :
    List TaggedMessageEvent :=
  transmits.map fun transmit =>
    ⟨transmit.now, ⟨localAddr, transmit.remote, transmit.ecn⟩, .dtls (.raw transmit.payload)⟩

/-- What a read queues: transmits are only asked for when nothing failed before. -/
def queuedByRead (localAddr : SocketAddr) (fourTuple : FourTuple) (states : ServerStates)
    (read : Except Error (List DtlsEvent × List (Transmit Bytes))) : List TaggedMessageEvent :=
  match read with
  | .ok (events, transmits) =>
      match (tryRead fourTuple (.ok events)).result states with
      | .ok _ => transmitMessages localAddr transmits
      | .error _ => []
  | .error _ => []

/-- Records are encrypted for the peer; what is not DTLS passes. -/
def pollWrite (localAddr : SocketAddr) (states : ServerStates)
    (write : SocketAddr → Bytes → Except Error (List (Transmit Bytes)))
    (msg : TaggedMessageEvent) : Produced :=
  match msg.message with
  | .dtls (.raw dtlsMessage) => .ofExcept do
      let _ ← states.getMutTransport msg.transport.fourTuple
      let transmits ← write msg.transport.peerAddr dtlsMessage
      return transmitMessages localAddr transmits
  | _ => ([msg], [])

end DtlsHandler

/-! ## SCTP -/

/-- `sctp::PayloadProtocolIdentifier` -/
inductive PayloadProtocolIdentifier
  | dcep
  | string
  | binary
  | stringEmpty
  | binaryEmpty
  | unknown
  deriving DecidableEq

/-- What an association answers to a record: a chunk of a stream, or something to send. -/
inductive SctpEvent
  | readable (associationHandle : Nat) (streamId : UInt16) (ppi : PayloadProtocolIdentifier)
      (payload : Bytes)
  | transmit (transmit : Transmit SctpPayload)

inductive SctpMessage
  | inbound (message : DataChannelMessage)
  | outbound (transmit : Transmit SctpPayload)

/-- What is asked of the stream of an association. -/
structure SctpWrite where
  associationHandle : Nat
  streamId : UInt16
  params : Option DataChannelMessageParams
  ppid : PayloadProtocolIdentifier
  payload : Bytes
  deriving DecidableEq

namespace SctpHandler

def toDataMessageType : PayloadProtocolIdentifier → DataChannelMessageType
  | .dcep => .control
  | .string => .text
  | .stringEmpty => .text
  | .binary => .binary
  | .binaryEmpty => .binary
  | .unknown => .none

def toPpid (messageType : DataChannelMessageType) (length : Nat) : PayloadProtocolIdentifier :=
  match messageType with
  | .text => if 0 < length then .string else .stringEmpty
  | .binary => if 0 < length then .binary else .binaryEmpty
  | _ => .dcep

/-- One transmit for each content. -/
def splitTransmit (transmit : Transmit SctpPayload) : List (Transmit SctpPayload) :=
  match transmit.payload with
  | .rawEncode contents =>
      contents.map fun content => { transmit with payload := .rawEncode [content] }
  | .partialDecode => []

def transmitMessages (localAddr : SocketAddr) (transmit : Transmit SctpPayload) :
    List TaggedMessageEvent :=
  match transmit.payload with
  | .rawEncode rawData =>
      rawData.map fun raw =>
        ⟨transmit.now, ⟨localAddr, transmit.remote, transmit.ecn⟩, .dtls (.raw raw)⟩
  | .partialDecode => []

def messagesOf : SctpEvent → List SctpMessage
  | .readable associationHandle streamId ppi payload =>
      [.inbound ⟨associationHandle, streamId, toDataMessageType ppi, none, payload⟩]
  | .transmit transmit => (splitTransmit transmit).map .outbound

/-- The closure `try_read` of `handle_read`. -/
def tryRead (states : ServerStates) (fourTuple : FourTuple)
    (handle : Except Error (List SctpEvent)) : Except Error (List SctpMessage) := do
  let _ ← states.getMutTransport fourTuple
  let events ← handle
  return events.flatMap messagesOf

/-- The closure `try_write` of `poll_write`; `none` is for an association that is not there. -/
def tryWrite (states : ServerStates)
    (write : SctpWrite → Option (Except Error (List (Transmit SctpPayload))))
    (fourTuple : FourTuple) (message : DataChannelMessage) :
    Except Error (List (Transmit SctpPayload)) :=
  if states.serverConfig.maxMessageSize.toNat < message.payload.length then
    .error .errOutboundPacketTooLarge
  else do
    let _ ← states.getMutTransport fourTuple
    match write ⟨message.associationHandle, message.streamId, message.params,
        toPpid message.dataMessageType message.payload.length, message.payload⟩ with
    | some written => return (← written).flatMap splitTransmit
    | none => throw .errAssociationNotExisted

def pollWrite (localAddr : SocketAddr) (states : ServerStates)
    (write : SctpWrite → Option (Except Error (List (Transmit SctpPayload))))
    (msg : TaggedMessageEvent) : Produced :=
  match msg.message with
  | .dtls (.sctp message) => .ofExcept do
      let transmits ← tryWrite states write msg.transport.fourTuple message
      return transmits.flatMap (transmitMessages localAddr)
  | _ => ([msg], [])

end SctpHandler

/-! ## Data channels -/

namespace DataChannelHandler

def getReliabilityParams : ChannelType → Bool × ReliabilityType
  | .reliable => (false, .reliable)
  | .reliableUnordered => (true, .reliable)
  | .partialReliableRexmit => (false, .rexmit)
  | .partialReliableRexmitUnordered => (true, .rexmit)
  | .partialReliableTimed => (false, .timed)
  | .partialReliableTimedUnordered => (true, .timed)

/-- The closure `try_read` of `handle_read`: what is passed inwards and what is answered. -/
def tryRead (codecs : Codecs) (message : DataChannelMessage) :
    Except Error (Option ApplicationMessage × Option DataChannelMessage) :=
  if message.dataMessageType = .control then do
    let (isOpen, buf) ← (codecs.messageType message.payload).mapError .library
    if isOpen then
      let dataChannelOpen ← (codecs.dataChannelOpen buf).mapError .library
      let params := getReliabilityParams dataChannelOpen.channelType
      let payload ← codecs.dataChannelAck.mapError .library
      return (some ⟨message.associationHandle, message.streamId, .open⟩,
        some {
          associationHandle := message.associationHandle
          streamId := message.streamId
          dataMessageType := .control
          params := some ⟨params.1, params.2, dataChannelOpen.reliabilityParameter⟩
          payload })
    else return (none, none)
  else
    return (some ⟨message.associationHandle, message.streamId, .message message.payload⟩, none)

/-- Texts are written to the stream they are for; other events of a data channel cannot be
sent. -/
def pollWrite (msg : TaggedMessageEvent) : Produced :=
  match msg.message with
  | .dtls (.dataChannel message) =>
      match message.dataChannelEvent with
      | .message payload =>
          ([{ msg with
              message := .dtls (.sctp
                { associationHandle := message.associationHandle
                  streamId := message.streamId
                  dataMessageType := .text
                  params := none
                  payload }) }], [])
      | _ => .nothing
  | _ => ([msg], [])

end DataChannelHandler

/-! ## SRTP -/

namespace SrtpHandler

/-- The closure `try_read` of `handle_read`. -/
def tryRead (codecs : Codecs) (states : ServerStates)
    (decryptRtp : SrtpContext → Bytes → Except Error Rtp.Packet)
    (decryptRtcp : SrtpContext → Bytes → Except Error (List RtcpPacket))
    (fourTuple : FourTuple) (message : Bytes) : Except Error RTPMessageEvent := do
  let (_, transport) ← states.getMutTransport fourTuple
  match transport.remoteSrtpContext with
  | none => throw (.remoteSrtpContextNotSet fourTuple)
  | some context =>
      if codecs.isRtcp message then
        let rtcpPackets ← decryptRtcp context message
        if rtcpPackets.isEmpty then throw (.other "empty rtcp_packets")
        else return .rtcp rtcpPackets
      else
        let rtpPacket ← decryptRtp context message
        return .rtp rtpPacket

/-- The closure `try_write` of `poll_write`. -/
def tryWrite (states : ServerStates)
    (encrypt : SrtpContext → RTPMessageEvent → Except Error Bytes) (fourTuple : FourTuple)
    (event : RTPMessageEvent) : Except Error Bytes := do
  let (_, transport) ← states.getMutTransport fourTuple
  match event with
  | .raw rawPacket => return rawPacket
  | .rtcp [] => throw (.other "empty rtcp_packets")
  | event =>
      match transport.localSrtpContext with
      | some context => encrypt context event
      | none => throw (.localSrtpContextNotSet fourTuple)

/-- What cannot be encrypted is not passed on. -/
def pollWrite (states : ServerStates)
    (encrypt : SrtpContext → RTPMessageEvent → Except Error Bytes) (msg : TaggedMessageEvent) :
    Produced :=
  match msg.message with
  | .rtp event => .ofExcept do
      let encrypted ← tryWrite states encrypt msg.transport.fourTuple event
      return [{ msg with message := .rtp (.raw encrypted) }]
  | _ => ([msg], [])

end SrtpHandler

/-! ## Interceptors -/

namespace InterceptorHandler

/-- The endpoint of media is looked up for its interceptors, none of which has anything to do
with what is written. -/
def pollWrite (states : ServerStates) (msg : TaggedMessageEvent) : Produced :=
  match msg.message with
  | .rtp (.raw _) => ([msg], [])
  | .rtp _ =>
      match states.getMutEndpoint msg.transport.fourTuple with
      | .ok _ => ([msg], [])
      | .error error => ([msg], [error])
  | _ => ([msg], [])

end InterceptorHandler

end Sfu
end MediaServer
