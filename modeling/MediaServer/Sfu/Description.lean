import MediaServer.Foundation.Text
import MediaServer.Sfu.Types
import Mathlib.Data.List.Infix

/-!
# Session descriptions

`description/` of the `sfu` crate: directions, kinds and types, transceivers, and the
functions that read a media description.  Here a description is what the server reads of it;
what the `sdp` crate does with a whole description is among the `Libraries`.
-/

namespace MediaServer
namespace Sfu

open Foundation

/-! ## Directions, kinds and types -/

/-- The text of what is not specified. -/
def unspecifiedStr : String := "Unspecified"

inductive RTCRtpTransceiverDirection
  | unspecified
  | sendrecv
  | sendonly
  | recvonly
  | inactive
  deriving DecidableEq

namespace RTCRtpTransceiverDirection

/-- `From<&str>` -/
def ofStr (raw : String) : RTCRtpTransceiverDirection :=
  if raw = "sendrecv" then sendrecv
  else if raw = "sendonly" then sendonly
  else if raw = "recvonly" then recvonly
  else if raw = "inactive" then inactive
  else unspecified

/-- `Display` -/
def toStr : RTCRtpTransceiverDirection → String
  | sendrecv => "sendrecv"
  | sendonly => "sendonly"
  | recvonly => "recvonly"
  | inactive => "inactive"
  | unspecified => unspecifiedStr

/-- The opposite direction. -/
def reverse : RTCRtpTransceiverDirection → RTCRtpTransceiverDirection
  | sendonly => recvonly
  | recvonly => sendonly
  | direction => direction

def fromSendRecv : Bool → Bool → RTCRtpTransceiverDirection
  | true, true => sendrecv
  | true, false => sendonly
  | false, true => recvonly
  | false, false => inactive

def hasSend : RTCRtpTransceiverDirection → Bool
  | sendrecv | sendonly => true
  | _ => false

def hasRecv : RTCRtpTransceiverDirection → Bool
  | sendrecv | recvonly => true
  | _ => false

def intersect (direction other : RTCRtpTransceiverDirection) : RTCRtpTransceiverDirection :=
  fromSendRecv (direction.hasSend && other.hasSend) (direction.hasRecv && other.hasRecv)

/-- Reading what was written gives the direction back. -/
@[simp] theorem ofStr_toStr (direction : RTCRtpTransceiverDirection) :
    ofStr direction.toStr = direction := by
  cases direction <;> rfl

@[simp] theorem reverse_reverse (direction : RTCRtpTransceiverDirection) :
    direction.reverse.reverse = direction := by
  cases direction <;> rfl

@[simp] theorem hasSend_intersect (direction other : RTCRtpTransceiverDirection) :
    (direction.intersect other).hasSend = (direction.hasSend && other.hasSend) := by
  cases direction <;> cases other <;> rfl

@[simp] theorem hasRecv_intersect (direction other : RTCRtpTransceiverDirection) :
    (direction.intersect other).hasRecv = (direction.hasRecv && other.hasRecv) := by
  cases direction <;> cases other <;> rfl

/-- Turned around, what sends receives. -/
@[simp] theorem hasSend_reverse (direction : RTCRtpTransceiverDirection) :
    direction.reverse.hasSend = direction.hasRecv := by
  cases direction <;> rfl

@[simp] theorem hasRecv_reverse (direction : RTCRtpTransceiverDirection) :
    direction.reverse.hasRecv = direction.hasSend := by
  cases direction <;> rfl

end RTCRtpTransceiverDirection

inductive RTPCodecType
  | unspecified
  | audio
  | video
  deriving DecidableEq

/-- `From<&str>` -/
def RTPCodecType.ofStr (raw : String) : RTPCodecType :=
  if raw = "audio" then audio
  else if raw = "video" then video
  else unspecified

/-- `Display` -/
def RTPCodecType.toStr : RTPCodecType → String
  | .audio => "audio"
  | .video => "video"
  | .unspecified => unspecifiedStr

inductive RTCSdpType
  | unspecified
  | offer
  | pranswer
  | answer
  | rollback
  deriving DecidableEq

/-- `Display` -/
def RTCSdpType.toStr : RTCSdpType → String
  | .offer => "offer"
  | .pranswer => "pranswer"
  | .answer => "answer"
  | .rollback => "rollback"
  | .unspecified => unspecifiedStr

/-! ## Transceivers -/

structure RTCPFeedback where
  typ : String
  parameter : String
  deriving DecidableEq

structure RTCRtpCodecParameters where
  mimeType : String
  clockRate : UInt32
  channels : UInt16
  sdpFmtpLine : String
  rtcpFeedbacks : List RTCPFeedback
  payloadType : UInt8
  deriving DecidableEq

structure RTCRtpHeaderExtensionParameters where
  uri : String
  id : Int
  deriving DecidableEq

structure RTCRtpParameters where
  headerExtensions : List RTCRtpHeaderExtensionParameters
  codecs : List RTCRtpCodecParameters
  deriving DecidableEq

structure MediaStreamId where
  streamId : String
  trackId : String
  deriving DecidableEq

structure SsrcGroup where
  name : String
  ssrcs : List UInt32
  deriving DecidableEq

structure RTCRtpSender where
  cname : String
  msid : MediaStreamId
  ssrcs : List UInt32
  ssrcGroups : List SsrcGroup
  deriving DecidableEq

structure RTCRtpTransceiver where
  mid : Mid
  sender : Option RTCRtpSender
  direction : RTCRtpTransceiverDirection
  currentDirection : RTCRtpTransceiverDirection
  rtpParams : RTCRtpParameters
  kind : RTPCodecType
  deriving DecidableEq

/-! ## Media descriptions -/

/-- `a=key` or `a=key:value` -/
structure Attribute where
  key : String
  value : Option String
  deriving DecidableEq

/-- The parts of a media description that the server reads. -/
structure MediaDescription where
  media : String
  formats : List String
  attributes : List Attribute
  deriving DecidableEq

/-- The parts of a session description that the server reads. -/
structure SessionDescription where
  attributes : List Attribute
  mediaDescriptions : List MediaDescription
  deriving DecidableEq

/-- `attribute(key)` of a media or session description: the value of the first attribute
with that key. -/
def findAttribute (attributes : List Attribute) (key : String) : Option (Option String) :=
  (attributes.find? fun attr => attr.key = key).map Attribute.value

/-- An offer or an answer, as text and, once it was read, as a description. -/
structure RTCSessionDescription where
  sdpType : RTCSdpType
  sdp : String
  parsed : Option SessionDescription
  deriving DecidableEq

def mediaSectionApplication : String := "application"

/-- `str::split(sep)` -/
def splitStr (sep : Char) (text : String) : List String :=
  (text.toList.splitOn sep).map String.ofList

/-- `str::split_whitespace` -/
def splitWhitespace (text : String) : List String :=
  ((text.toList.splitOnP Text.isWhitespace).filter fun field => field ≠ []).map String.ofList

/-- `str::contains` -/
def containsStr (text pattern : String) : Bool := decide (pattern.toList <:+: text.toList)

/-- One digit of an unsigned integer below `bound`: a character that is no digit is found
before an overflow. -/
def readDigit (bound value : Nat) (c : Char) : Except Error Nat :=
  if c.isDigit then
    let next := value * 10 + (c.toNat - 48)
    if next < bound then .ok next
    else .error (.library "number too large to fit in target type")
  else .error (.library "invalid digit found in string")

/-- `str::parse` of an unsigned integer type with `bound` values -/
def parseUnsigned (bound : Nat) (text : String) : Except Error Nat :=
  match text.toList with
  | [] => .error (.library "cannot parse integer from empty string")
  | ['+'] => .error (.library "invalid digit found in string")
  | '+' :: digits => digits.foldlM (readDigit bound) 0
  | digits => digits.foldlM (readDigit bound) 0

def getRids (media : MediaDescription) : HashMap String String :=
  media.attributes.foldl
    (fun rids attr =>
      if attr.key = "rid" then
        match attr.value with
        | some value => rids.insert ((splitStr ' ' value).headD "") value
        | none => rids
      else rids)
    HashMap.empty

def getMidValue (media : MediaDescription) : Option String :=
  match media.attributes.find? fun attr => attr.key = "mid" with
  | some attr => attr.value
  | none => none

def getPeerDirection (media : MediaDescription) : RTCRtpTransceiverDirection :=
  match media.attributes.find? fun attr =>
      RTCRtpTransceiverDirection.ofStr attr.key ≠ .unspecified with
  | some attr => RTCRtpTransceiverDirection.ofStr attr.key
  | none => .unspecified

def getCname (media : MediaDescription) : Option String :=
  media.attributes.findSome? fun attr =>
    if attr.key = "ssrc" then
      match attr.value with
      | some value => if containsStr value "cname" then (splitStr ':' value).getLast? else none
      | none => none
    else none

/-- Two fields as a stream and a track. -/
def msidFields (text : String) : Option MediaStreamId :=
  match splitWhitespace text with
  | [streamId, trackId] => some ⟨streamId, trackId⟩
  | _ => none

def getMsid (media : MediaDescription) : Option MediaStreamId :=
  media.attributes.findSome? fun attr =>
    if attr.key = "msid" then attr.value.bind msidFields
    else if attr.key = "ssrc" then
      match attr.value with
      | some value =>
          if containsStr value "msid" then (splitStr ':' value).getLast?.bind msidFields
          else none
      | none => none
    else none

def parseSsrc (field : String) : Except Error UInt32 := do
  let ssrc ← parseUnsigned (2 ^ 32) field
  return UInt32.ofNat ssrc

/-- The fields of the attributes with a key, each with a value. -/
def fieldsOf (media : MediaDescription) (key : String) : List (List String) :=
  media.attributes.filterMap fun attr =>
    if attr.key = key then attr.value.map splitWhitespace else none

def getSsrcGroups (media : MediaDescription) : Except Error (List SsrcGroup) :=
  (fieldsOf media "ssrc-group").foldlM
    (fun groups fields =>
      match fields with
      | name :: first :: second :: rest => do
          let ssrcs ← (first :: second :: rest).mapM parseSsrc
          return groups ++ [⟨name, ssrcs⟩]
      | _ => return groups)
    []

def getSsrcs (media : MediaDescription) : Except Error (List UInt32) :=
  (fieldsOf media "ssrc").foldlM
    (fun ssrcs fields =>
      match fields with
      | field :: _ => do
          let ssrc ← parseSsrc field
          return if ssrcs.contains ssrc then ssrcs else ssrcs ++ [ssrc]
      | [] => return ssrcs)
    []

end Sfu
end MediaServer
