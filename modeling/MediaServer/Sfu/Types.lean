import MediaServer.Foundation.Enumeration
import MediaServer.Foundation.Fallible
import MediaServer.Transcription.Manager

/-!
# Names and errors of the SFU

`types.rs` of the `sfu` crate, the errors its functions return, and what it takes from
its surroundings: the clock, and the orders in which the hash maps are iterated.
-/

namespace MediaServer
namespace Sfu

open Foundation Transcription

abbrev SessionId := UInt64
abbrev EndpointId := UInt64
abbrev UserName := String
abbrev Mid := String

/-- `std::time::Instant`, in nanoseconds from a moment nobody knows. -/
abbrev Instant := Int

/-- `std::time::Duration`, in nanoseconds. -/
abbrev Duration := Nat

structure FourTuple where
  localAddr : SocketAddr
  peerAddr : SocketAddr
  deriving DecidableEq

/-- The explicit congestion notification bits of a datagram. -/
inductive EcnCodepoint
  | ect0
  | ect1
  | ce
  deriving DecidableEq

/-- `retty::transport::TransportContext` -/
structure TransportContext where
  localAddr : SocketAddr
  peerAddr : SocketAddr
  ecn : Option EcnCodepoint
  deriving DecidableEq

/-- `(&transport_context).into()` -/
def TransportContext.fourTuple (transport : TransportContext) : FourTuple where
  localAddr := transport.localAddr
  peerAddr := transport.peerAddr

/-- The errors of the crate.  Where the text of an error prints a four tuple, the four
tuple is kept and the text is given beside the constructor. -/
inductive Error
  | errClientTransportNotSet
  | errAttributeNotFound
  | errNoSuchSrtpProfile
  | errAlertFatalOrClose
  | errInvalidCertificate
  | errOutboundPacketTooLarge
  | errAssociationNotExisted
  | other (text : String)
  /-- `can't find endpoint with four_tuple {:?}` -/
  | noEndpointWithFourTuple (fourTuple : FourTuple)
  /-- `can't find transport with four_tuple {:?} for endpoint id {}` -/
  | noTransportWithFourTuple (fourTuple : FourTuple) (endpointId : EndpointId)
  /-- `can't find transport for endpoint id {} with {:?}` -/
  | noTransportForEndpoint (endpointId : EndpointId) (fourTuple : FourTuple)
  /-- `remote_srtp_context is not set yet for four_tuple {:?}` -/
  | remoteSrtpContextNotSet (fourTuple : FourTuple)
  /-- `local_srtp_context is not set yet for four_tuple {:?}` -/
  | localSrtpContextNotSet (fourTuple : FourTuple)
  /-- an error of a library, by its text -/
  | library (text : String)
  deriving DecidableEq

/-- `can't find session id {}` -/
def noSession (sessionId : SessionId) : Error := .other s!"can't find session id {sessionId}"

/-- `can't find endpoint id {}` -/
def noEndpoint (endpointId : EndpointId) : Error :=
  .other s!"can't find endpoint id {endpointId}"

/-- The orders in which a call meets the entries of the hash maps it iterates over. -/
structure Orders where
  sessions : Enumeration SessionId
  endpoints : Enumeration EndpointId
  transports : Enumeration FourTuple
  /-- of transceivers by mid, and of restriction identifiers -/
  names : Enumeration String

end Sfu
end MediaServer
