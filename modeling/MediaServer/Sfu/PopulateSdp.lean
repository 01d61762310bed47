import MediaServer.Sfu.Config

/-!
# Writing session descriptions

The part of `description/mod.rs` that builds a description from media sections and
transceivers, `populate_sdp`.  Its one caller has every fingerprint put on the media
level and takes an ICE gathering for complete, so these are not arguments here.
-/

namespace MediaServer
namespace Sfu

open Foundation Transcription

/-- `str::trim_start_matches(pattern)`, with enough rounds for the text. -/
def trimStartMatches (pattern : List Char) : Nat → List Char → List Char
  | 0, text => text
  | rounds + 1, text =>
      match pattern with
      | [] => text
      | _ :: _ =>
          if pattern <+: text then
            trimStartMatches pattern rounds (text.drop pattern.length)
          else text

/-- The name of a codec: its MIME type without `audio/` and `video/`. -/
def codecName (mimeType : String) : String :=
  let text := trimStartMatches "audio/".toList mimeType.length mimeType.toList
  String.ofList (trimStartMatches "video/".toList mimeType.length text)

structure MediaSection where
  mid : Mid
  data : Bool
  ridMap : HashMap String String
  offeredDirection : Option RTCRtpTransceiverDirection

/-- The first media section carries the server's address. -/
def appendCandidateIfNew (lib : Libraries) (c : SocketAddr) (component : Nat)
    (m : MediaDescription) : MediaDescription :=
  let marshaled := lib.hostCandidate component c
  if m.attributes.any fun a => a.value = some marshaled then m
  else lib.withValueAttribute m "candidate" marshaled

def addCandidateToMediaDescriptions (lib : Libraries) (candidate : SocketAddr)
    (m : MediaDescription) : MediaDescription :=
  let m := appendCandidateIfNew lib candidate 1 m
  if m.attributes.any fun a => a.key = "end-of-candidates" then m
  else lib.withPropertyAttribute m "end-of-candidates"

def addDataMediaSection (lib : Libraries) (d : SessionDescription)
    (dtlsFingerprints : List RTCDtlsFingerprint) (sessionConfig : SessionConfig)
    (shouldAddCandidates : Bool) (midValue : Mid) (iceParams : RTCIceParameters)
    (dtlsRole : ConnectionRole) : SessionDescription :=
  let media : MediaDescription :=
    { media := mediaSectionApplication
      formats := ["webrtc-datachannel"]
      attributes := [] }
  let media := lib.withValueAttribute media "setup" (lib.connectionRole dtlsRole)
  let media := lib.withValueAttribute media "mid" midValue
  let media := lib.withPropertyAttribute media RTCRtpTransceiverDirection.sendrecv.toStr
  let media := lib.withValueAttribute media "sctp-port"
    (toString sessionConfig.serverConfig.sctpPort)
  let media := lib.withValueAttribute media "max-message-size"
    (toString sessionConfig.serverConfig.maxMessageSize)
  let media := lib.withIceCredentials media iceParams.usernameFragment iceParams.password
  let media := dtlsFingerprints.foldl
    (fun media f => lib.withFingerprint media f.algorithm f.value.toUpper) media
  let media :=
    if shouldAddCandidates then
      addCandidateToMediaDescriptions lib sessionConfig.localAddr media
    else media
  lib.withMedia d media

/-- The codecs of a kind with their feedback mechanisms. -/
def addCodecs (lib : Libraries) (codecs : List RTCRtpCodecParameters)
    (media : MediaDescription) : MediaDescription :=
  codecs.foldl
    (fun media codec =>
      let media := lib.withCodec media codec.payloadType (codecName codec.mimeType)
        codec.clockRate codec.channels codec.sdpFmtpLine
      codec.rtcpFeedbacks.foldl
        (fun media feedback =>
          lib.withValueAttribute media "rtcp-fb"
            (toString codec.payloadType ++ " " ++ feedback.typ ++ " " ++ feedback.parameter))
        media)
    media

def addHeaderExtensions (lib : Libraries) (extensions : List RTCRtpHeaderExtensionParameters)
    (media : MediaDescription) : Except Error MediaDescription :=
  extensions.foldlM
    (fun media extension =>
      match lib.parseUrl extension.uri with
      | .ok url => .ok (lib.withExtmap media extension.id url)
      | .error text => .error (.library text))
    media

/-- The restriction identifiers of a section, and that they are simulcast. -/
def addRids (lib : Libraries) (names : Enumeration String) (ridMap : HashMap String String)
    (media : MediaDescription) : MediaDescription :=
  if ridMap.isEmpty then media
  else
    let recvRids := names.list ridMap.keys
    let media := recvRids.foldl
      (fun media rid => lib.withValueAttribute media "rid" (rid ++ " recv")) media
    lib.withValueAttribute media "simulcast" ("recv " ++ ";".intercalate recvRids)

/-- The direction of a section: what was offered, answered from the transceiver's side. -/
def sectionDirection (offered : Option RTCRtpTransceiverDirection)
    (transceiver : RTCRtpTransceiverDirection) : RTCRtpTransceiverDirection :=
  match offered with
  | some .sendonly => RTCRtpTransceiverDirection.sendonly.reverse.intersect transceiver
  | some .recvonly => RTCRtpTransceiverDirection.recvonly.reverse.intersect transceiver
  | some .sendrecv | some .unspecified => transceiver
  | some .inactive => .inactive
  | none => transceiver

/-- The stream of a sender and its sources. -/
def addSender (lib : Libraries) (sender : RTCRtpSender) (media : MediaDescription) :
    MediaDescription :=
  let media := lib.withPropertyAttribute media
    ("msid:" ++ sender.msid.streamId ++ " " ++ sender.msid.trackId)
  let media := sender.ssrcGroups.foldl
    (fun media group => lib.withPropertyAttribute media
      ("ssrc-group:" ++ group.name ++ " " ++ " ".intercalate (group.ssrcs.map toString)))
    media
  sender.ssrcs.foldl
    (fun media ssrc => lib.withMediaSource media ssrc sender.cname sender.msid.streamId
      sender.msid.trackId)
    media

def addTransceiverSdp (lib : Libraries) (names : Enumeration String) (d : SessionDescription)
    (dtlsFingerprints : List RTCDtlsFingerprint) (iceParams : RTCIceParameters)
    (sessionConfig : SessionConfig) (mediaSection : MediaSection)
    (transceiver : RTCRtpTransceiver) (shouldAddCandidates : Bool) (dtlsRole : ConnectionRole) :
    Except Error (SessionDescription × Bool) := do
  let media := lib.newJsepMediaDescription transceiver.kind.toStr
  let media := lib.withValueAttribute media "setup" (lib.connectionRole dtlsRole)
  let media := lib.withValueAttribute media "mid" mediaSection.mid
  let media := lib.withIceCredentials media iceParams.usernameFragment iceParams.password
  let media := lib.withPropertyAttribute media "rtcp-mux"
  let media := lib.withPropertyAttribute media "rtcp-rsize"
  let media := dtlsFingerprints.foldl
    (fun media f => lib.withFingerprint media f.algorithm f.value.toUpper) media
  let media :=
    if shouldAddCandidates then
      addCandidateToMediaDescriptions lib sessionConfig.localAddr media
    else media
  let config := sessionConfig.serverConfig.mediaConfig
  let media := addCodecs lib (config.getCodecsByKind transceiver.kind) media
  let parameters := config.getRtpParametersByKind transceiver.kind transceiver.direction
  let media ← addHeaderExtensions lib parameters.headerExtensions media
  let media := addRids lib names mediaSection.ridMap media
  let direction := sectionDirection mediaSection.offeredDirection transceiver.direction
  let media := lib.withPropertyAttribute media direction.toStr
  if direction = .sendonly then
    match transceiver.sender with
    | some sender => return (lib.withMedia d (addSender lib sender media), true)
    | none => throw (.other "Sendonly transceiver doesn't have sender set")
  else
    return (lib.withMedia d media, true)

/-- The sections of a description from the `index`-th on, and the mids to bundle. -/
def populateSections (lib : Libraries) (names : Enumeration String)
    (dtlsFingerprints : List RTCDtlsFingerprint) (sessionConfig : SessionConfig)
    (iceParams : RTCIceParameters) (connectionRole : ConnectionRole)
    (transceivers : HashMap Mid RTCRtpTransceiver) :
    Nat → List MediaSection → SessionDescription × String →
      Except Error (SessionDescription × String)
  | _, [], built => .ok built
  | index, m :: rest, (d, bundleValue) => do
      if m.data && transceivers.containsKey m.mid then
        throw (.other "ErrSDPMediaSectionMediaDataChanInvalid")
      let shouldAddCandidates := decide (index = 0)
      let (d, shouldAddId) ←
        if m.data then
          pure (addDataMediaSection lib d dtlsFingerprints sessionConfig shouldAddCandidates
            m.mid iceParams connectionRole, true)
        else
          match transceivers.get m.mid with
          | some transceiver =>
              addTransceiverSdp lib names d dtlsFingerprints iceParams sessionConfig m
                transceiver shouldAddCandidates connectionRole
          | none => throw (.other "ErrSDPZeroTransceivers")
      let bundleValue := if shouldAddId then bundleValue ++ " " ++ m.mid else bundleValue
      populateSections lib names dtlsFingerprints sessionConfig iceParams connectionRole
        transceivers (index + 1) rest (d, bundleValue)

/-- Serializes the state of an endpoint into a description. -/
def populateSdp (lib : Libraries) (names : Enumeration String) (d : SessionDescription)
    (dtlsFingerprints : List RTCDtlsFingerprint) (sessionConfig : SessionConfig)
    (iceParams : RTCIceParameters) (connectionRole : ConnectionRole)
    (mediaSections : List MediaSection) (transceivers : HashMap Mid RTCRtpTransceiver) :
    Except Error SessionDescription := do
  let (d, bundleValue) ← populateSections lib names dtlsFingerprints sessionConfig iceParams
    connectionRole transceivers 0 mediaSections (d, "BUNDLE")
  let d := lib.sessionPropertyAttribute d "ice-lite"
  return lib.sessionValueAttribute d "group" bundleValue

end Sfu
end MediaServer
