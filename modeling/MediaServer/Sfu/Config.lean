import MediaServer.Sfu.Description

/-!
# Configuration and libraries

`server/config.rs`, the part of `description/config.rs` that a running server reads, and
what the SFU takes from libraries whose code is elsewhere: the `sdp` crate, the JSON of a
description, and STUN messages.  The library functions are the fields of `Libraries`;
`Documented` says what their documentation promises and the SFU relies on.
-/

namespace MediaServer
namespace Sfu

open Foundation Transcription

structure RTCDtlsFingerprint where
  algorithm : String
  value : String
  deriving DecidableEq

structure RTCRtpHeaderExtension where
  uri : String
  isAudio : Bool
  isVideo : Bool
  allowedDirection : Option RTCRtpTransceiverDirection
  deriving DecidableEq

/-- A direction of a transceiver for which the extension is used; none allows all. -/
def RTCRtpHeaderExtension.isMatchingDirection (extension : RTCRtpHeaderExtension)
    (dir : RTCRtpTransceiverDirection) : Bool :=
  match extension.allowedDirection with
  | some allowed =>
      (decide (allowed = .inactive) && decide (dir = .inactive)) ||
        (allowed.hasSend && dir.hasSend) || (allowed.hasRecv && dir.hasRecv)
  | none => true

/-- Nothing in the server negotiates codecs or extensions, so of `MediaConfig` only what
was registered is left. -/
structure MediaConfig where
  videoCodecs : List RTCRtpCodecParameters
  audioCodecs : List RTCRtpCodecParameters
  headerExtensions : List RTCRtpHeaderExtension
  deriving DecidableEq

namespace MediaConfig

def getCodecsByKind (config : MediaConfig) : RTPCodecType → List RTCRtpCodecParameters
  | .video => config.videoCodecs
  | .audio => config.audioCodecs
  | .unspecified => []

/-- Proposed identifiers are not recorded, so the first valid one is proposed each time. -/
def getRtpParametersByKind (config : MediaConfig) (typ : RTPCodecType)
    (direction : RTCRtpTransceiverDirection) : RTCRtpParameters where
  headerExtensions :=
    (config.headerExtensions.filter fun extension =>
      extension.isMatchingDirection direction &&
        ((extension.isAudio && decide (typ = .audio)) ||
          (extension.isVideo && decide (typ = .video)))).map
      fun extension => ⟨extension.uri, 1⟩
  codecs := config.getCodecsByKind typ

end MediaConfig

structure ServerConfig where
  /-- the fingerprints of each certificate -/
  certificates : List (List RTCDtlsFingerprint)
  mediaConfig : MediaConfig
  sctpPort : UInt16
  maxMessageSize : UInt32
  idleTimeout : Duration
  deriving DecidableEq

structure SessionConfig where
  serverConfig : ServerConfig
  localAddr : SocketAddr
  deriving DecidableEq

structure RTCIceParameters where
  usernameFragment : String
  password : String
  deriving DecidableEq

/-- `sdp::util::ConnectionRole` -/
inductive ConnectionRole
  | unspecified
  | active
  | passive
  | actpass
  | holdconn
  deriving DecidableEq

/-- `sdp::util::Codec` -/
structure SdpCodec where
  name : String
  clockRate : UInt32
  encodingParameters : String
  fmtp : String
  rtcpFeedback : List String
  deriving DecidableEq

/-- The attribute types of STUN that the gateway looks for. -/
inductive AttrType
  | iceControlled
  | iceControlling
  | networkCost
  | priority
  | useCandidate
  deriving DecidableEq

/-- `stun::message::Message`, a request or a response. -/
structure StunMessage where
  transactionId : Bytes
  /-- what `TextAttribute::get_from_as(_, ATTR_USERNAME)` reads, unless it fails -/
  username : Option UserName
  attributes : List AttrType
  /-- the bytes of the message, which its integrity covers -/
  raw : Bytes
  deriving DecidableEq

def StunMessage.contains (message : StunMessage) (typ : AttrType) : Bool :=
  message.attributes.contains typ

/-- What the SFU takes from libraries. -/
structure Libraries where
  -- the `sdp` crate
  unmarshal : String → Except String SessionDescription
  marshal : SessionDescription → String
  newJsepSessionDescription : Bool → SessionDescription
  newJsepMediaDescription : String → MediaDescription
  sessionPropertyAttribute : SessionDescription → String → SessionDescription
  sessionValueAttribute : SessionDescription → String → String → SessionDescription
  withMedia : SessionDescription → MediaDescription → SessionDescription
  withPropertyAttribute : MediaDescription → String → MediaDescription
  withValueAttribute : MediaDescription → String → String → MediaDescription
  withIceCredentials : MediaDescription → String → String → MediaDescription
  withFingerprint : MediaDescription → String → String → MediaDescription
  withCodec : MediaDescription → UInt8 → String → UInt32 → UInt16 → String → MediaDescription
  withExtmap : MediaDescription → Int → String → MediaDescription
  withMediaSource : MediaDescription → UInt32 → String → String → String → MediaDescription
  connectionRole : ConnectionRole → String
  getCodecForPayloadType : MediaDescription → UInt8 → Except String SdpCodec
  /-- the URI, if there is one, and the identifier of an extension attribute -/
  extMap : Attribute → Except String (Option String × Int)
  /-- `Url::parse`, with the text of the URL -/
  parseUrl : String → Except String String
  /-- `format!("1 {} UDP 1 {} {} typ host", component, ip, port)` -/
  hostCandidate : Nat → SocketAddr → String
  -- JSON
  fromJson : Bytes → Except String RTCSessionDescription
  toJson : RTCSessionDescription → Except String Bytes
  -- STUN
  /-- `MessageIntegrity::new_short_term_integrity(password).check(request)` -/
  checkIntegrity : String → StunMessage → Except String Unit
  /-- a binding success for a transaction, with the address it came from, and with the
  integrity of a password and a fingerprint if there is a password -/
  bindingSuccess : Bytes → SocketAddr → Option String → Except String StunMessage

/-- Attribute keys that the server's own getters look at. -/
def isReadKey (key : String) : Bool :=
  decide (key = "mid") || decide (RTCRtpTransceiverDirection.ofStr key ≠ .unspecified)

/-- The second description has the medium of the first and its attributes, followed by
more. -/
structure Extends (before after : MediaDescription) (added : List Attribute) : Prop where
  media : after.media = before.media
  attributes : after.attributes = before.attributes ++ added

/-- Attributes that the server's own getters do not look at. -/
def Unread (added : List Attribute) : Prop := ∀ attr ∈ added, isReadKey attr.key = false

/-- The attributes that give a source its name and its stream. -/
def sourceAttributes (ssrc : UInt32) (cname streamId trackId : String) : List Attribute :=
  [⟨"ssrc", some (toString ssrc ++ " cname:" ++ cname)⟩,
    ⟨"ssrc", some (toString ssrc ++ " msid:" ++ streamId ++ " " ++ trackId)⟩]

/-- What is documented of the functions that build a description: each appends. -/
structure Libraries.Documented (lib : Libraries) : Prop where
  newJsepSessionDescription : ∀ identity,
    (lib.newJsepSessionDescription identity).mediaDescriptions = []
  newJsepMediaDescription : ∀ media,
    (lib.newJsepMediaDescription media).media = media ∧
      (lib.newJsepMediaDescription media).attributes = []
  sessionPropertyAttribute : ∀ d key,
    (lib.sessionPropertyAttribute d key).mediaDescriptions = d.mediaDescriptions
  sessionValueAttribute : ∀ d key value,
    (lib.sessionValueAttribute d key value).mediaDescriptions = d.mediaDescriptions
  withMedia : ∀ d media,
    (lib.withMedia d media).mediaDescriptions = d.mediaDescriptions ++ [media]
  withPropertyAttribute : ∀ m key,
    Extends m (lib.withPropertyAttribute m key) [⟨key, none⟩]
  withValueAttribute : ∀ m key value,
    Extends m (lib.withValueAttribute m key value) [⟨key, some value⟩]
  withIceCredentials : ∀ m username password,
    ∃ added, Extends m (lib.withIceCredentials m username password) added ∧ Unread added
  withFingerprint : ∀ m algorithm value,
    ∃ added, Extends m (lib.withFingerprint m algorithm value) added ∧ Unread added
  withCodec : ∀ m payloadType name clockRate channels fmtp,
    ∃ added, Extends m (lib.withCodec m payloadType name clockRate channels fmtp) added ∧
      Unread added
  withExtmap : ∀ m value uri,
    ∃ added, Extends m (lib.withExtmap m value uri) added ∧ Unread added
  withMediaSource : ∀ m ssrc cname streamId trackId,
    ∃ added, Extends m (lib.withMediaSource m ssrc cname streamId trackId) added ∧
      Unread added ∧ sourceAttributes ssrc cname streamId trackId ⊆ added

end Sfu
end MediaServer
