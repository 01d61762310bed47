import MediaServer.Sfu.Config

/-!
# Libraries that read text

Functions that do what the libraries document, for text of ASCII characters: session
descriptions line by line, codecs and extensions from their attributes, and JSON as
`serde_json` writes it.  What they cannot do is cryptography: a request is intact if it is
its password.
-/

namespace MediaServer
namespace Sfu

open Foundation Transcription

/-- `str::as_bytes` -/
def asBytes (text : String) : Bytes := text.toByteArray.data.toList

/-- The characters of a text, unless one is not ASCII. -/
def asciiChars (bytes : Bytes) : Except String (List Char) :=
  bytes.mapM fun byte =>
    if byte < 128 then .ok (Char.ofNat byte.toNat) else .error "not ASCII"

/-! ## Session descriptions -/

/-- A line of a description, by its type and its value. -/
def sdpLine : List Char → Except String (Char × List Char)
  | typ :: '=' :: value => .ok (typ, value)
  | _ => .error "sdp: invalid syntax"

/-- The lines of a text; empty ones are skipped. -/
def sdpLines (text : String) : Except String (List (Char × List Char)) := do
  let chars ← asciiChars (asBytes text)
  let lines := (chars.splitOnP fun c => c = '\r' || c = '\n').filter fun line => line ≠ []
  lines.mapM sdpLine

/-- `key` or `key:value` -/
def attributeOfLine (value : List Char) : Attribute :=
  match value.dropWhile fun c => c ≠ ':' with
  | [] => ⟨String.ofList value, none⟩
  | _ :: rest => ⟨String.ofList (value.takeWhile fun c => c ≠ ':'), some (String.ofList rest)⟩

/-- `media port protocols` and one or more formats -/
def mediaOfLine (value : List Char) : Except String MediaDescription :=
  match (value.splitOn ' ').map String.ofList with
  | media :: port :: _ :: format :: formats =>
      if media ∈ ["audio", "video", "text", "application", "message"] then
        match parseUnsigned (2 ^ 16) port with
        | .ok _ => .ok ⟨media, format :: formats, []⟩
        | .error _ => .error "sdp: invalid numeric value"
      else .error "sdp: invalid value"
  | _ => .error "sdp: invalid syntax"

def MediaDescription.addAttributes (added : List Attribute) (media : MediaDescription) :
    MediaDescription :=
  { media with attributes := media.attributes ++ added }

/-- A line after the first `m`: a section begins, or the last one goes on. -/
def addSdpLine (sections : List MediaDescription) :
    Char × List Char → Except String (List MediaDescription)
  | ('m', value) => do
      let media ← mediaOfLine value
      return sections ++ [media]
  | ('a', value) => .ok (sections.modifyLast (·.addAttributes [attributeOfLine value]))
  | (typ, _) =>
      if typ ∈ ['i', 'c', 'b', 'k'] then .ok sections else .error "sdp: invalid syntax"

/-- `SessionDescription::unmarshal` -/
def readSdp (text : String) : Except String SessionDescription := do
  let lines ← sdpLines text
  match lines with
  | ('v', ['0']) :: ('o', origin) :: ('s', _) :: rest =>
      let head := rest.takeWhile fun line => line.1 ≠ 'm'
      if (origin.splitOn ' ').length = 6 ∧ 't' ∈ head.map Prod.fst ∧
          ∀ line ∈ head, line.1 ∈ ['i', 'u', 'e', 'p', 'c', 'b', 't', 'r', 'z', 'k', 'a'] then
        let sections ← (rest.dropWhile fun line => line.1 ≠ 'm').foldlM addSdpLine []
        let attributes := head.filter fun line => line.1 = 'a'
        return ⟨attributes.map fun line => attributeOfLine line.2, sections⟩
      else throw "sdp: invalid syntax"
  | _ => throw "sdp: invalid syntax"

/-- The line of an attribute. -/
def Attribute.line (attr : Attribute) : String :=
  match attr.value with
  | some value => "a=" ++ attr.key ++ ":" ++ value ++ "\r\n"
  | none => "a=" ++ attr.key ++ "\r\n"

/-- The protocols of a section. -/
def MediaDescription.protocols (media : MediaDescription) : String :=
  if media.media = mediaSectionApplication then "UDP/DTLS/SCTP" else "UDP/TLS/RTP/SAVPF"

/-- The lines of a section. -/
def MediaDescription.lines (media : MediaDescription) : String :=
  "m=" ++ media.media ++ " 9 " ++ media.protocols ++ " " ++ " ".intercalate media.formats ++
    "\r\nc=IN IP4 0.0.0.0\r\n" ++ String.join (media.attributes.map Attribute.line)

/-- `SessionDescription::marshal`, with one origin for all descriptions -/
def writeSdp (d : SessionDescription) : String :=
  "v=0\r\no=- 1 1 IN IP4 0.0.0.0\r\ns=-\r\nt=0 0\r\n" ++
    String.join (d.attributes.map Attribute.line) ++
    String.join (d.mediaDescriptions.map MediaDescription.lines)

/-! ## Codecs and extensions -/

/-- What the attributes with a key say of a payload type. -/
def saidOf (media : MediaDescription) (key : String) (payloadType : UInt8) : List String :=
  (fieldsOf media key).filterMap fun fields =>
    match fields with
    | [] => none
    | first :: rest =>
        if first = toString payloadType then some (" ".intercalate rest) else none

/-- `get_codec_for_payload_type` -/
def codecOf (media : MediaDescription) (payloadType : UInt8) : Except String SdpCodec :=
  match (saidOf media "rtpmap" payloadType).map (splitStr '/') with
  | (name :: clockRate :: parameters) :: _ =>
      match parseUnsigned (2 ^ 32) clockRate with
      | .ok rate => .ok
          { name
            clockRate := UInt32.ofNat rate
            encodingParameters := parameters.headD ""
            fmtp := (saidOf media "fmtp" payloadType).headD ""
            rtcpFeedback := saidOf media "rtcp-fb" payloadType }
      | .error _ => .error "sdp: invalid numeric value"
  | _ => .error "payload type not found"

/-- The attributes of a codec. -/
def codecAttributes (payloadType : UInt8) (name : String) (clockRate : UInt32)
    (channels : UInt16) (fmtp : String) : List Attribute :=
  let encoding := name ++ "/" ++ toString clockRate ++
    if 0 < channels then "/" ++ toString channels else ""
  let rtpmap : Attribute := ⟨"rtpmap", some (toString payloadType ++ " " ++ encoding)⟩
  if fmtp = "" then [rtpmap]
  else [rtpmap, ⟨"fmtp", some (toString payloadType ++ " " ++ fmtp)⟩]

/-- `ExtMap::unmarshal` -/
def extMapOf (attr : Attribute) : Except String (Option String × Int) :=
  match attr.value.map splitWhitespace with
  | some (value :: uri :: _) =>
      match parseUnsigned 247 ((splitStr '/' value).headD "") with
      | .ok id => .ok (some uri, id)
      | .error _ => .error "sdp: invalid syntax"
  | _ => .error "sdp: invalid syntax"

def ConnectionRole.toStr : ConnectionRole → String
  | .active => "active"
  | .passive => "passive"
  | .actpass => "actpass"
  | .holdconn => "holdconn"
  | .unspecified => unspecifiedStr

/-- `Display` of an IP address, but with every group of a v6 address -/
def ipText : SocketAddr → String
  | .v4 ip _ => ".".intercalate ([24, 16, 8, 0].map fun shift =>
      toString ((ip >>> shift).toNat % 256))
  | .v6 ip _ _ _ => ":".intercalate ([112, 96, 80, 64, 48, 32, 16, 0].map fun shift =>
      String.ofList (Nat.toDigits 16 ((ip >>> shift).toNat % 65536)))

def portOf : SocketAddr → UInt16
  | .v4 _ port => port
  | .v6 _ port _ _ => port

/-! ## JSON -/

/-- The bytes of a quote, of a backslash, and of the letters of line breaks. -/
def quoteByte : UInt8 := 34
def escapeByte : UInt8 := 92
def lineBreaks : List (UInt8 × UInt8) := [(10, 110), (13, 114)]

/-- A byte inside a string. -/
def writeByte (byte : UInt8) : Bytes :=
  match lineBreaks.find? fun entry => entry.1 = byte with
  | some (_, letter) => [escapeByte, letter]
  | none => if byte = quoteByte ∨ byte = escapeByte then [escapeByte, byte] else [byte]

/-- The byte that is written as a backslash and a letter. -/
def readEscaped (letter : UInt8) : UInt8 :=
  match lineBreaks.find? fun entry => entry.2 = letter with
  | some (byte, _) => byte
  | none => letter

/-- The rest of a string, up to its quote, and what follows. -/
def readString : Bytes → Except String (Bytes × Bytes)
  | [] => .error "EOF while parsing a string"
  | byte :: rest =>
      if byte = quoteByte then .ok ([], rest)
      else if byte = escapeByte then
        match rest with
        | [] => .error "EOF while parsing a string"
        | letter :: rest => do
            let (text, rest) ← readString rest
            return (readEscaped letter :: text, rest)
      else do
        let (text, rest) ← readString rest
        return (byte :: text, rest)

/-- What follows an expected text. -/
def readExpected (expected : String) (bytes : Bytes) : Except String Bytes :=
  match bytes.dropPrefix? (asBytes expected) with
  | some rest => .ok rest
  | none => .error ("expected " ++ expected)

/-- What stands before the type and before the text of a description. -/
def beforeType : String := "\x7b\"type\":\""
def beforeSdp : String := ",\"sdp\":\""

/-- `serde_json::to_string` of a description -/
def writeJson (d : RTCSessionDescription) : Bytes :=
  asBytes (beforeType ++ d.sdpType.toStr ++ "\"" ++ beforeSdp) ++
    (asBytes d.sdp).flatMap writeByte ++ asBytes "\"\x7d"

/-- `serde_json::from_slice`, for what `serde_json` writes -/
def readJson (payload : Bytes) : Except String RTCSessionDescription := do
  let (typ, rest) ← readString (← readExpected beforeType payload)
  let (sdp, rest) ← readString (← readExpected beforeSdp rest)
  let _ ← readExpected "\x7d" rest
  match [RTCSdpType.offer, .pranswer, .answer, .rollback, .unspecified].find?
      fun sdpType => asBytes sdpType.toStr = typ with
  | some sdpType => do
      let chars ← asciiChars sdp
      -- line by line, as the evaluation of one long literal is slow
      return ⟨sdpType, "\n".intercalate ((chars.splitOn '\n').map String.ofList), none⟩
  | none => throw "unknown variant"

/-! ## The libraries -/

def plainLibraries : Libraries where
  unmarshal := readSdp
  marshal := writeSdp
  newJsepSessionDescription _ := ⟨[], []⟩
  newJsepMediaDescription media := ⟨media, [], []⟩
  sessionPropertyAttribute d key := { d with attributes := d.attributes ++ [⟨key, none⟩] }
  sessionValueAttribute d key value :=
    { d with attributes := d.attributes ++ [⟨key, some value⟩] }
  withMedia d media := { d with mediaDescriptions := d.mediaDescriptions ++ [media] }
  withPropertyAttribute media key := media.addAttributes [⟨key, none⟩]
  withValueAttribute media key value := media.addAttributes [⟨key, some value⟩]
  withIceCredentials media username password :=
    media.addAttributes [⟨"ice-ufrag", some username⟩, ⟨"ice-pwd", some password⟩]
  withFingerprint media algorithm value :=
    media.addAttributes [⟨"fingerprint", some (algorithm ++ " " ++ value)⟩]
  withCodec media payloadType name clockRate channels fmtp :=
    { media with formats := media.formats ++ [toString payloadType] }.addAttributes
      (codecAttributes payloadType name clockRate channels fmtp)
  withExtmap media value uri :=
    media.addAttributes [⟨"extmap", some (toString value ++ " " ++ uri)⟩]
  withMediaSource media ssrc cname streamId trackId :=
    media.addAttributes (sourceAttributes ssrc cname streamId trackId ++
      [⟨"ssrc", some (toString ssrc ++ " mslabel:" ++ streamId)⟩,
        ⟨"ssrc", some (toString ssrc ++ " label:" ++ trackId)⟩])
  connectionRole := ConnectionRole.toStr
  getCodecForPayloadType := codecOf
  extMap := extMapOf
  parseUrl text :=
    if ':' ∈ text.toList then .ok text else .error "relative URL without a base"
  hostCandidate component addr := "1 " ++ toString component ++ " UDP 1 " ++ ipText addr ++
    " " ++ toString (portOf addr) ++ " typ host"
  fromJson := readJson
  toJson d := .ok (writeJson d)
  checkIntegrity password request :=
    if request.raw = asBytes password then .ok () else .error "integrity check failed"
  bindingSuccess transactionId _ _ := .ok ⟨transactionId, none, [], []⟩

/-- The first offer of a peer: a data channel. -/
def dataOffer : String :=
  "v=0\r\no=- 1 1 IN IP4 0.0.0.0\r\ns=-\r\nt=0 0\r\n" ++
  "m=application 9 UDP/DTLS/SCTP webrtc-datachannel\r\na=mid:0\r\na=setup:actpass\r\n" ++
  "a=ice-ufrag:peer\r\na=ice-pwd:secret\r\na=fingerprint:sha-256 AB\r\n"

/-- A later offer: the peer sends audio and video. -/
def mediaOffer : String :=
  dataOffer ++
  "m=audio 9 UDP/TLS/RTP/SAVPF 111\r\na=mid:1\r\na=sendonly\r\n" ++
  "a=rtpmap:111 opus/48000/2\r\na=ssrc:1 cname:peer\r\na=ssrc:1 msid:room voice\r\n" ++
  "m=video 9 UDP/TLS/RTP/SAVPF 96\r\na=mid:2\r\na=sendonly\r\n" ++
  "a=rtpmap:96 VP8/90000\r\na=ssrc:2 cname:peer\r\na=ssrc:2 msid:room face\r\n"

theorem unread_of_keys {added : List Attribute} {keys : List String}
    (hkeys : added.map Attribute.key ⊆ keys) (hunread : ∀ key ∈ keys, isReadKey key = false) :
    Unread added :=
  fun _ hmem => hunread _ (hkeys (List.mem_map_of_mem hmem))

theorem unread_codecAttributes (payloadType : UInt8) (name : String) (clockRate : UInt32)
    (channels : UInt16) (fmtp : String) :
    Unread (codecAttributes payloadType name clockRate channels fmtp) := by
  have hkeys : ∀ key ∈ ["rtpmap", "fmtp"], isReadKey key = false := by decide
  apply unread_of_keys _ hkeys
  unfold codecAttributes
  dsimp only
  split <;> simp

theorem documented_plain : plainLibraries.Documented where
  newJsepSessionDescription _ := rfl
  newJsepMediaDescription _ := ⟨rfl, rfl⟩
  sessionPropertyAttribute _ _ := rfl
  sessionValueAttribute _ _ _ := rfl
  withMedia _ _ := rfl
  withPropertyAttribute _ _ := ⟨rfl, rfl⟩
  withValueAttribute _ _ _ := ⟨rfl, rfl⟩
  withIceCredentials _ _ _ :=
    ⟨_, ⟨rfl, rfl⟩, unread_of_keys (List.Subset.refl ["ice-ufrag", "ice-pwd"]) (by decide)⟩
  withFingerprint _ _ _ :=
    ⟨_, ⟨rfl, rfl⟩, unread_of_keys (List.Subset.refl ["fingerprint"]) (by decide)⟩
  withCodec media payloadType name clockRate channels fmtp :=
    ⟨_, ⟨rfl, rfl⟩, unread_codecAttributes payloadType name clockRate channels fmtp⟩
  withExtmap _ _ _ :=
    ⟨_, ⟨rfl, rfl⟩, unread_of_keys (List.Subset.refl ["extmap"]) (by decide)⟩
  withMediaSource _ _ _ _ _ :=
    ⟨_, ⟨rfl, rfl⟩,
      unread_of_keys (List.Subset.refl ["ssrc", "ssrc", "ssrc", "ssrc"]) (by decide),
      List.subset_append_left _ _⟩

end Sfu
end MediaServer
