import MediaServer.Sfu.Config

/-!
# Candidates, transports and endpoints

`endpoint/`: what an accepted offer leaves for an ICE agent to claim (`Candidate`), one
address pair of an endpoint (`Transport`), and an endpoint with its transports and
transceivers.  The DTLS and SCTP endpoints of a transport are state of their libraries.
-/

namespace MediaServer
namespace Sfu

open Foundation Transcription

/-! ## Candidates -/

inductive DTLSRole
  | unspecified
  | auto
  | client
  | server
  deriving DecidableEq

namespace DTLSRole

/-- The offerer is prepared to be either side. -/
def defaultOffer : DTLSRole := auto

/-- The first `setup` attribute of the media sections decides; with none it is `auto`. -/
def ofSdp (d : SessionDescription) : DTLSRole :=
  let setup := d.mediaDescriptions.findSome? fun media =>
    media.attributes.find? fun attr => attr.key = "setup"
  match setup with
  | some attr =>
      if attr.value = some "active" then client
      else if attr.value = some "passive" then server
      else auto
  | none => auto

def toConnectionRole : DTLSRole → ConnectionRole
  | client => .active
  | server => .passive
  | auto => .actpass
  | unspecified => .unspecified

end DTLSRole

structure DTLSParameters where
  role : DTLSRole
  fingerprints : List RTCDtlsFingerprint
  deriving DecidableEq

structure ConnectionCredentials where
  iceParams : RTCIceParameters
  dtlsParams : DTLSParameters
  deriving DecidableEq

/-- `TryFrom<&str>` -/
def RTCDtlsFingerprint.tryFrom (value : String) : Except Error RTCDtlsFingerprint :=
  match splitWhitespace value with
  | [algorithm, value] => .ok ⟨algorithm, value⟩
  | _ => .error (.other "invalid fingerprint")

namespace ConnectionCredentials

/-- Credentials from random bytes; the server takes the side the peer left. -/
def new (fresh : RTCIceParameters) (fingerprints : List RTCDtlsFingerprint)
    (remoteRole : DTLSRole) : ConnectionCredentials where
  iceParams := fresh
  dtlsParams :=
    { fingerprints
      role := if remoteRole = .server then .client else .server }

/-- The value of the first media section that has the attribute. -/
def mediaAttribute (d : SessionDescription) (key : String) : Except Error String :=
  match d.mediaDescriptions.findSome? fun m => findAttribute m.attributes key with
  | some (some value) => .ok value
  | _ => .error .errAttributeNotFound

def fromSdp (d : SessionDescription) : Except Error ConnectionCredentials := do
  let usernameFragment ← mediaAttribute d "ice-ufrag"
  let password ← mediaAttribute d "ice-pwd"
  let fingerprint ←
    match findAttribute d.attributes "fingerprint" with
    | some (some fingerprint) => RTCDtlsFingerprint.tryFrom fingerprint
    | _ => do
        let fingerprint ← mediaAttribute d "fingerprint"
        RTCDtlsFingerprint.tryFrom fingerprint
  return ⟨⟨usernameFragment, password⟩, ⟨DTLSRole.ofSdp d, [fingerprint]⟩⟩

end ConnectionCredentials

structure Candidate where
  sessionId : SessionId
  endpointId : EndpointId
  remoteConnCred : ConnectionCredentials
  localConnCred : ConnectionCredentials
  remoteDescription : RTCSessionDescription
  localDescription : RTCSessionDescription
  expiredTime : Instant
  deriving DecidableEq

/-- The user name an ICE agent presents for the candidate. -/
def Candidate.username (candidate : Candidate) : UserName :=
  candidate.localConnCred.iceParams.usernameFragment ++ ":" ++
    candidate.remoteConnCred.iceParams.usernameFragment

/-- The session and endpoint a candidate is for. -/
def Candidate.ids (candidate : Candidate) : SessionId × EndpointId :=
  (candidate.sessionId, candidate.endpointId)

/-! ## Transports -/

/-- `srtp::protection_profile::ProtectionProfile` -/
inductive ProtectionProfile
  | aes128CmHmacSha1_80
  | aeadAes128Gcm
  deriving DecidableEq

/-- What an SRTP context is created from. -/
structure SrtpContext where
  masterKey : Bytes
  masterSalt : Bytes
  profile : ProtectionProfile
  /-- the windows of the replay protection of RTP and RTCP -/
  replayProtection : Option (Nat × Nat)
  deriving DecidableEq

structure Transport where
  fourTuple : FourTuple
  lastActivity : Instant
  candidate : Candidate
  associationHandle : Option Nat
  streamId : Option UInt16
  localSrtpContext : Option SrtpContext
  remoteSrtpContext : Option SrtpContext
  deriving DecidableEq

namespace Transport

def new (clock : Instant) (fourTuple : FourTuple) (candidate : Candidate) : Transport where
  fourTuple := fourTuple
  lastActivity := clock
  candidate := candidate
  associationHandle := none
  streamId := none
  localSrtpContext := none
  remoteSrtpContext := none

def setSrtpContexts (localContext remoteContext : SrtpContext) (transport : Transport) :
    Transport :=
  { transport with
    localSrtpContext := some localContext
    remoteSrtpContext := some remoteContext }

def setAssociationHandleAndStreamId (associationHandle : Nat) (streamId : UInt16)
    (transport : Transport) : Transport :=
  { transport with
    associationHandle := some associationHandle
    streamId := some streamId }

def isLocalSrtpContextReady (transport : Transport) : Bool := transport.localSrtpContext.isSome

def keepAlive (clock : Instant) (transport : Transport) : Transport :=
  { transport with lastActivity := clock }

end Transport

/-! ## Endpoints -/

structure Endpoint where
  endpointId : EndpointId
  isRenegotiationNeeded : Bool
  remoteDescription : Option RTCSessionDescription
  localDescription : Option RTCSessionDescription
  transports : HashMap FourTuple Transport
  mids : List Mid
  transceivers : HashMap Mid RTCRtpTransceiver

namespace Endpoint

def new (endpointId : EndpointId) : Endpoint where
  endpointId := endpointId
  isRenegotiationNeeded := false
  remoteDescription := none
  localDescription := none
  transports := HashMap.empty
  mids := []
  transceivers := HashMap.empty

def addTransport (transport : Transport) (endpoint : Endpoint) : Endpoint :=
  { endpoint with transports := endpoint.transports.insert transport.fourTuple transport }

def removeTransport (fourTuple : FourTuple) (endpoint : Endpoint) : Endpoint :=
  { endpoint with transports := endpoint.transports.remove fourTuple }

def hasTransport (fourTuple : FourTuple) (endpoint : Endpoint) : Bool :=
  endpoint.transports.containsKey fourTuple

def modifyTransport (fourTuple : FourTuple) (f : Transport → Transport) (endpoint : Endpoint) :
    Endpoint :=
  { endpoint with transports := endpoint.transports.modify fourTuple f }

def setRenegotiationNeeded (needed : Bool) (endpoint : Endpoint) : Endpoint :=
  { endpoint with isRenegotiationNeeded := needed }

def setDescriptions (localDescription remoteDescription : RTCSessionDescription)
    (endpoint : Endpoint) : Endpoint :=
  { endpoint with
    localDescription := some localDescription
    remoteDescription := some remoteDescription }

/-- `mids.push(mid)` and `transceivers.insert(mid, transceiver)` -/
def addTransceiver (mid : Mid) (transceiver : RTCRtpTransceiver) (endpoint : Endpoint) :
    Endpoint :=
  { endpoint with
    mids := endpoint.mids ++ [mid]
    transceivers := endpoint.transceivers.insert mid transceiver }

def modifyTransceiver (mid : Mid) (f : RTCRtpTransceiver → RTCRtpTransceiver)
    (endpoint : Endpoint) : Endpoint :=
  { endpoint with transceivers := endpoint.transceivers.modify mid f }

end Endpoint

end Sfu
end MediaServer
