import MediaServer.Sfu.Endpoint
import MediaServer.Sfu.PopulateSdp

/-!
# Sessions

`session/mod.rs`: the endpoints of a session, and how offers and answers change their
transceivers.  A transceiver that an endpoint offers is also handed to the other
endpoints of the session, under the mid `otherMidValue`.
-/

namespace MediaServer
namespace Sfu

open Foundation Transcription

structure Session where
  sessionConfig : SessionConfig
  sessionId : SessionId
  endpoints : HashMap EndpointId Endpoint

/-- `format!("{}-{}", endpoint_id, mid_value)` -/
def otherMidValue (endpointId : EndpointId) (midValue : Mid) : Mid :=
  toString endpointId ++ "-" ++ midValue

/-! ## Reading a media description -/

/-- The feedback mechanism of a line of the description. -/
def rtcpFeedback (raw : String) : RTCPFeedback :=
  match splitStr ' ' raw with
  | [typ, parameter] => ⟨typ, parameter⟩
  | fields => ⟨fields.headD "", ""⟩

def codecsFromMediaDescription (lib : Libraries) (m : MediaDescription) :
    Except Error (List RTCRtpCodecParameters) :=
  m.formats.foldlM
    (fun out payloadStr => do
      let value ← parseUnsigned 256 payloadStr
      let payloadType := UInt8.ofNat value
      match lib.getCodecForPayloadType m payloadType with
      | .error text => if payloadType = 0 then return out else throw (.other text)
      | .ok codec =>
          let channels := match parseUnsigned (2 ^ 16) codec.encodingParameters with
            | .ok channels => UInt16.ofNat channels
            | .error _ => 0
          return out ++ [{
            mimeType := m.media ++ "/" ++ codec.name
            clockRate := codec.clockRate
            channels := channels
            sdpFmtpLine := codec.fmtp
            rtcpFeedbacks := codec.rtcpFeedback.map rtcpFeedback
            payloadType := payloadType }])
    []

def rtpExtensionsFromMediaDescription (lib : Libraries) (m : MediaDescription) :
    Except Error (List RTCRtpHeaderExtensionParameters) :=
  (m.attributes.filter fun a => a.key = "extmap").foldlM
    (fun out a =>
      match lib.extMap a with
      | .error text => throw (.other text)
      | .ok (some uri, value) => return out ++ [⟨uri, value⟩]
      | .ok (none, _) => return out)
    []

/-- What a media section other than `application` offers, unless it is skipped: its kind,
its direction and its mid. -/
def mediaOf (media : MediaDescription) :
    Option (RTPCodecType × RTCRtpTransceiverDirection × Mid) :=
  if media.media = mediaSectionApplication then none
  else
    let kind := RTPCodecType.ofStr media.media
    let direction := getPeerDirection media
    if kind = .unspecified ∨ direction = .unspecified then none
    else (getMidValue media).map fun mid => (kind, direction, mid)

def errWithoutMidValue : Error := .other "ErrPeerConnRemoteDescriptionWithoutMidValue"

/-- The transceiver that an offered section makes at the endpoint that offers it. -/
def offeredTransceiver (lib : Libraries) (media : MediaDescription) (kind : RTPCodecType)
    (direction : RTCRtpTransceiverDirection) (midValue : Mid) :
    Except Error RTCRtpTransceiver := do
  let ssrcGroups ← getSsrcGroups media
  let ssrcs ← getSsrcs media
  let codecs ← codecsFromMediaDescription lib media
  let headerExtensions ← rtpExtensionsFromMediaDescription lib media
  let sender := match getCname media, getMsid media with
    | some cname, some msid => some ⟨cname, msid, ssrcs, ssrcGroups⟩
    | _, _ => none
  return {
    mid := midValue
    sender := sender
    direction := if direction = .recvonly then .sendonly else .recvonly
    currentDirection := .unspecified
    rtpParams := ⟨headerExtensions, codecs⟩
    kind := kind }

/-- Hand a transceiver that another endpoint offered to this one, as send only. -/
def Endpoint.receiveTransceiver (direction : RTCRtpTransceiverDirection) (otherMid : Mid)
    (transceiver : RTCRtpTransceiver) (other : Endpoint) : Endpoint :=
  match other.transceivers.get otherMid with
  | some held =>
      if held.direction ≠ direction then
        (other.modifyTransceiver otherMid fun held =>
          { held with direction }).setRenegotiationNeeded true
      else other
  | none =>
      if direction = .sendonly then
        (other.addTransceiver otherMid
          { transceiver with mid := otherMid, direction }).setRenegotiationNeeded true
      else other

namespace Session

def new (sessionConfig : SessionConfig) (sessionId : SessionId) : Session where
  sessionConfig := sessionConfig
  sessionId := sessionId
  endpoints := HashMap.empty

def hasEndpoint (session : Session) (endpointId : EndpointId) : Bool :=
  session.endpoints.containsKey endpointId

def modifyEndpoint (endpointId : EndpointId) (f : Endpoint → Endpoint) (session : Session) :
    Session :=
  { session with endpoints := session.endpoints.modify endpointId f }

def removeEndpoint (endpointId : EndpointId) (session : Session) : Session :=
  { session with endpoints := session.endpoints.remove endpointId }

/-- Give the endpoint of a candidate a transport; whether the endpoint was there. -/
def addEndpoint (clock : Instant) (candidate : Candidate)
    (transportContext : TransportContext) (session : Session) : Session × Bool :=
  let endpointId := candidate.endpointId
  let fourTuple := transportContext.fourTuple
  let transport := Transport.new clock fourTuple candidate
  match session.endpoints.get endpointId with
  | some endpoint =>
      if endpoint.hasTransport fourTuple then (session, true)
      else (session.modifyEndpoint endpointId (·.addTransport transport), true)
  | none =>
      let endpoint := ((Endpoint.new endpointId).addTransport transport).setDescriptions
        candidate.localDescription candidate.remoteDescription
      ({ session with endpoints := session.endpoints.insert endpointId endpoint }, false)

/-! ## Remote and local descriptions -/

/-- A section of an offer that the endpoint has no transceiver for yet. -/
def applyOffered (lib : Libraries) (orders : Orders) (endpointId : EndpointId)
    (media : MediaDescription) (kind : RTPCodecType) (direction : RTCRtpTransceiverDirection)
    (midValue : Mid) : Fallible Error Session Unit := do
  let transceiver ← Fallible.ofExcept (offeredTransceiver lib media kind direction midValue)
  modify fun session => session.modifyEndpoint endpointId (·.addTransceiver midValue transceiver)
  let otherMid := otherMidValue endpointId midValue
  modify fun session => { session with
    endpoints := session.endpoints.forEachMut orders.endpoints fun otherEndpointId other =>
      if otherEndpointId ≠ endpointId then
        other.receiveTransceiver direction otherMid transceiver
      else other }

/-- One section of a remote description; `weOffer` if it is an answer to us. -/
def applyRemoteMedia (lib : Libraries) (orders : Orders) (endpointId : EndpointId)
    (weOffer : Bool) (media : MediaDescription) : Fallible Error Session Unit :=
  match mediaOf media with
  | none => pure ()
  | some (kind, direction, midValue) =>
      if midValue = "" then throw errWithoutMidValue
      else if weOffer then
        modify fun session => session.modifyEndpoint endpointId
          (·.modifyTransceiver midValue fun transceiver =>
            { transceiver with currentDirection := direction.reverse })
      else do
        let session ← get
        let hasMidValue := (session.endpoints.get endpointId).any
          (·.transceivers.containsKey midValue)
        if hasMidValue then pure ()
        else applyOffered lib orders endpointId media kind direction midValue

def setRemoteDescription (lib : Libraries) (orders : Orders) (endpointId : EndpointId)
    (remoteDescription : RTCSessionDescription) : Fallible Error Session Unit := do
  let session ← get
  if session.hasEndpoint endpointId then
    let parsed ← Fallible.okOr remoteDescription.parsed (.other "Unparsed remote description")
    let weOffer := decide (remoteDescription.sdpType = .answer)
    parsed.mediaDescriptions.forM (applyRemoteMedia lib orders endpointId weOffer)
  else throw (noEndpoint endpointId)

/-- One section of our own answer. -/
def applyLocalMedia (endpointId : EndpointId) (media : MediaDescription) :
    Fallible Error Session Unit :=
  match mediaOf media with
  | none => pure ()
  | some (_, direction, midValue) =>
      if midValue = "" then throw errWithoutMidValue
      else
        modify fun session => session.modifyEndpoint endpointId
          (·.modifyTransceiver midValue fun transceiver =>
            { transceiver with currentDirection := direction })

def setLocalDescription (endpointId : EndpointId) (localDescription : RTCSessionDescription) :
    Fallible Error Session Unit := do
  let parsed ← Fallible.okOr localDescription.parsed (.other "Unparsed local description")
  let session ← get
  if session.hasEndpoint endpointId then
    if localDescription.sdpType = .answer then
      parsed.mediaDescriptions.forM (applyLocalMedia endpointId)
    else pure ()
  else throw (noEndpoint endpointId)

/-! ## Offers and answers -/

/-- The sections matched so far, whether one is for data, and the mids matched. -/
structure Matched where
  mediaSections : List MediaSection
  alreadyHaveApplicationMediaSection : Bool
  matched : Finset Mid

/-- Match one section of the remote description. -/
def matchMedia (transceivers : HashMap Mid RTCRtpTransceiver) (includeUnmatched : Bool)
    (done : Matched) (media : MediaDescription) : Except Error Matched :=
  match getMidValue media with
  | none => .ok done
  | some midValue =>
      if midValue = "" then .error errWithoutMidValue
      else if media.media = mediaSectionApplication then
        .ok { done with
          mediaSections := done.mediaSections ++
            [{ mid := midValue, data := true, ridMap := HashMap.empty, offeredDirection := none }]
          alreadyHaveApplicationMediaSection := true }
      else
        let kind := RTPCodecType.ofStr media.media
        let direction := getPeerDirection media
        if kind = .unspecified ∨ direction = .unspecified then .ok done
        else if transceivers.containsKey midValue then
          .ok { done with
            mediaSections := done.mediaSections ++
              [{ mid := midValue
                 data := false
                 ridMap := getRids media
                 offeredDirection := if includeUnmatched then none else some direction }]
            matched := insert midValue done.matched }
        else .error (.other "ErrPeerConnTransceiverMidNil")

/-- A section with nothing but a mid. -/
def plainSection (mid : Mid) (data : Bool) : MediaSection where
  mid := mid
  data := data
  ridMap := HashMap.empty
  offeredDirection := none

/-- The sections of an offer: what was matched, then the other mids of the endpoint, and a
data section unless there is one. -/
def withUnmatched (mids : List Mid) (done : Matched) : List MediaSection :=
  let unmatched := mids.filter fun mid => mid ∉ done.matched
  let mediaSections := done.mediaSections ++ unmatched.map (plainSection · false)
  if done.alreadyHaveApplicationMediaSection then mediaSections
  else mediaSections ++ [plainSection (toString mediaSections.length) true]

/-- The media sections of a description for an endpoint. -/
def mediaSections (session : Session) (endpointId : EndpointId)
    (remoteDescription : RTCSessionDescription) (includeUnmatched : Bool) :
    Except Error (List MediaSection) := do
  let (mids, transceivers) := match session.endpoints.get endpointId with
    | some endpoint => (endpoint.mids, endpoint.transceivers)
    | none => ([], HashMap.empty)
  let medias := match remoteDescription.parsed with
    | some parsed => parsed.mediaDescriptions
    | none => []
  let done ← medias.foldlM (matchMedia transceivers includeUnmatched) ⟨[], false, ∅⟩
  return if includeUnmatched then withUnmatched mids done else done.mediaSections

/-- The transceivers of an endpoint, none if it is not there. -/
def transceiversOf (session : Session) (endpointId : EndpointId) :
    HashMap Mid RTCRtpTransceiver :=
  match session.endpoints.get endpointId with
  | some endpoint => endpoint.transceivers
  | none => HashMap.empty

/-- Generates a description and takes the remote state into account. -/
def generateMatchedSdp (lib : Libraries) (orders : Orders) (session : Session)
    (endpointId : EndpointId) (remoteDescription : RTCSessionDescription)
    (localIceParams : RTCIceParameters) (useIdentity includeUnmatched : Bool)
    (connectionRole : ConnectionRole) : Except Error SessionDescription := do
  let d := lib.newJsepSessionDescription useIdentity
  let mediaSections ← session.mediaSections endpointId remoteDescription includeUnmatched
  match session.sessionConfig.serverConfig.certificates with
  | [] => throw (.other "ErrNonCertificate")
  | dtlsFingerprints :: _ =>
      populateSdp lib orders.names d dtlsFingerprints session.sessionConfig localIceParams
        connectionRole mediaSections (session.transceiversOf endpointId)

/-- The origin of a description is compared with a fresh one, which changes nothing. -/
def createDescription (lib : Libraries) (orders : Orders) (session : Session)
    (endpointId : EndpointId) (remoteDescription : RTCSessionDescription)
    (localIceParams : RTCIceParameters) (sdpType : RTCSdpType) (includeUnmatched : Bool)
    (role : DTLSRole) : Except Error RTCSessionDescription := do
  let d ← session.generateMatchedSdp lib orders endpointId remoteDescription localIceParams
    false includeUnmatched role.toConnectionRole
  return { sdpType := sdpType, sdp := lib.marshal d, parsed := some d }

def createOffer (lib : Libraries) (orders : Orders) (session : Session)
    (endpointId : EndpointId) (remoteDescription : RTCSessionDescription)
    (localIceParams : RTCIceParameters) : Except Error RTCSessionDescription :=
  session.createDescription lib orders endpointId remoteDescription localIceParams .offer true
    DTLSRole.defaultOffer

def createAnswer (lib : Libraries) (orders : Orders) (session : Session)
    (endpointId : EndpointId) (remoteDescription : RTCSessionDescription)
    (localIceParams : RTCIceParameters) : Except Error RTCSessionDescription :=
  session.createDescription lib orders endpointId remoteDescription localIceParams .answer false
    .server

end Session

end Sfu
end MediaServer
