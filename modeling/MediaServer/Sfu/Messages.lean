import MediaServer.Foundation.RtpPacket
import MediaServer.Sfu.Config

/-!
# Messages between the handlers

`messages.rs`.  Every message carries when it arrived and between which addresses.
-/

namespace MediaServer
namespace Sfu

open Foundation Transcription

inductive DataChannelMessageType
  | none
  | control
  | binary
  | text
  deriving DecidableEq

/-- `sctp::ReliabilityType` -/
inductive ReliabilityType
  | reliable
  | rexmit
  | timed
  deriving DecidableEq

structure DataChannelMessageParams where
  unordered : Bool
  reliabilityType : ReliabilityType
  reliabilityParameter : UInt32
  deriving DecidableEq

inductive DataChannelEvent
  | open
  | message (payload : Bytes)
  | close
  deriving DecidableEq

structure DataChannelMessage where
  associationHandle : Nat
  streamId : UInt16
  dataMessageType : DataChannelMessageType
  params : Option DataChannelMessageParams
  payload : Bytes
  deriving DecidableEq

structure ApplicationMessage where
  associationHandle : Nat
  streamId : UInt16
  dataChannelEvent : DataChannelEvent
  deriving DecidableEq

/-- `rtcp::reception_report::ReceptionReport` -/
structure ReceptionReport where
  ssrc : UInt32
  fractionLost : UInt8
  totalLost : UInt32
  lastSequenceNumber : UInt32
  jitter : UInt32
  lastSenderReport : UInt32
  delay : UInt32
  deriving DecidableEq

/-- `rtcp::header::PacketType` of the packets that are not reports. -/
inductive OtherPacketType
  | sourceDescription
  | goodbye
  | applicationDefined
  | transportSpecificFeedback
  | payloadSpecificFeedback
  | extendedReport
  | unsupported
  deriving DecidableEq

/-- An RTCP packet: the parts that are read, and what else is in it. -/
inductive RtcpPacket
  | senderReport (ssrc : UInt32) (ntpTime : UInt64) (rest : Bytes)
  | receiverReport (ssrc : UInt32) (reports : List ReceptionReport)
  | other (packetType : OtherPacketType) (content : Bytes)
  deriving DecidableEq

inductive STUNMessageEvent
  | raw (message : Bytes)
  | stun (message : StunMessage)

inductive DTLSMessageEvent
  | raw (message : Bytes)
  | sctp (message : DataChannelMessage)
  | dataChannel (message : ApplicationMessage)

inductive RTPMessageEvent
  | raw (message : Bytes)
  | rtp (packet : Rtp.Packet)
  | rtcp (packets : List RtcpPacket)

inductive MessageEvent
  | stun (event : STUNMessageEvent)
  | dtls (event : DTLSMessageEvent)
  | rtp (event : RTPMessageEvent)

structure TaggedMessageEvent where
  now : Instant
  transport : TransportContext
  message : MessageEvent

end Sfu
end MediaServer
