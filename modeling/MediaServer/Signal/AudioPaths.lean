import MediaServer.Signal.AudioRouter
import MediaServer.Transcription.RtpSoundness

/-!
# The two audio paths

`extract_audio` takes the audio of an RTP packet straight from its bytes.  On the live
path the rtp crate splits the packet, the gateway taps it and the main loop of the
media worker looks up its SSRC.  The two follow the same rule, written twice: the tap
lets payload type `96` pass, which the parser does not take for audio, and the main
loop marks an unknown session with the id `0`, so that it forwards nothing for a
session of that id.  They agree exactly on the packets for which neither shows.

What the rtp crate does with the bytes is a parameter.
-/

namespace MediaServer
namespace Signal

open Foundation Transcription

/-- Header and payload of a packet, as far as the gateway reads them. -/
def packetParts (packet : Rtp.Packet) : RtpPacket where
  ssrc := packet.ssrc
  timestamp := packet.timestamp
  sequenceNumber := packet.sequenceNumber
  payloadType := packet.payloadType
  payload := packet.payload

/-- The bytes of a packet are split into its header and its payload. -/
def SplitsPackets (unmarshal : Bytes → Option RtpPacket) : Prop :=
  ∀ packet : Rtp.Packet, unmarshal packet.serialise = some (packetParts packet)

/-- A splitting by the flags and counts, which does not reject malformed bytes. -/
def splitBytes (data : Bytes) : Option RtpPacket :=
  some
    { ssrc := Rtp.ssrcOf data
      timestamp := Rtp.timestampOf data
      sequenceNumber := Rtp.sequenceNumberOf data
      payloadType := UInt8.ofNat (Rtp.payloadTypeOf data)
      payload := Rtp.payloadOf data }

theorem splitsPackets_splitBytes : SplitsPackets splitBytes := by
  intro packet
  simp [splitBytes, packetParts]

/-- The audio packet in a command. -/
def audioOf : TranscriptionCommand → Option AudioPacket
  | .audio packet => some packet
  | _ => none

/-- The bytes of a packet on the live path, from a peer whose transport belongs to
`endpoint`: the extractor afterwards and what is forwarded. -/
def livePath (unmarshal : Bytes → Option RtpPacket) (endpoint : SessionKey)
    (extractor : RtpAudioExtractor) (data : Bytes) : RtpAudioExtractor × Option AudioPacket :=
  match (unmarshal data).bind fun packet => tapAudio ⟨some endpoint, packet⟩ with
  | none => (extractor, none)
  | some info => ((forwardAudio extractor info).1, (forwardAudio extractor info).2.bind audioOf)

/-- The states an extractor can get into. -/
inductive Reachable : RtpAudioExtractor → Prop
  | new : Reachable .new
  | withAutoLearn (sessionId endpointId : UInt64) : Reachable (.withAutoLearn sessionId endpointId)
  | setAutoLearn {extractor : RtpAudioExtractor} (hbefore : Reachable extractor)
      (sessionId endpointId : UInt64) : Reachable (extractor.setAutoLearn sessionId endpointId)
  | enabled {extractor : RtpAudioExtractor} (hbefore : Reachable extractor)
      (sessionId endpointId : UInt64) :
      Reachable (extractor.enableTranscriptionForSession sessionId endpointId)
  | disabled {extractor : RtpAudioExtractor} (hbefore : Reachable extractor)
      (sessionId endpointId : UInt64) :
      Reachable (extractor.disableTranscriptionForSession sessionId endpointId)
  | registered {extractor : RtpAudioExtractor} (hbefore : Reachable extractor) (ssrc : UInt32)
      (sessionId endpointId : UInt64) :
      Reachable (extractor.registerSsrc ssrc sessionId endpointId)
  | unregistered {extractor : RtpAudioExtractor} (hbefore : Reachable extractor)
      (ssrc : UInt32) : Reachable (extractor.unregisterSsrc ssrc)
  /-- a packet was parsed -/
  | extracted {extractor learned : RtpAudioExtractor} (hbefore : Reachable extractor)
      (data : Bytes) (result : Option AudioPacket)
      (hextract : extractor.extractAudio data = .ok (learned, result)) : Reachable learned
  /-- a packet came on the live path -/
  | forwarded {extractor : RtpAudioExtractor} (hbefore : Reachable extractor)
      (info : AudioPacketInfo) : Reachable (forwardAudio extractor info).1

/-- The payload types are those of the constructors, and a default session is set
exactly when SSRCs are learned. -/
structure Consistent (extractor : RtpAudioExtractor) : Prop where
  types : extractor.audioPayloadTypes = [111, 109]
  learns : extractor.autoLearn = extractor.defaultSession.isSome

/-- Where SSRCs are learned exactly when there is a default session, both paths know
the same label for an SSRC. -/
theorem Consistent.labelOf_eq {extractor : RtpAudioExtractor} (hconsistent : Consistent extractor)
    (ssrc : UInt32) : extractor.labelOf ssrc = label extractor ssrc := by
  unfold RtpAudioExtractor.labelOf label
  rw [hconsistent.learns]
  cases extractor.defaultSession <;> simp

/-- What the main loop leaves behind and forwards, by the label of the SSRC. -/
theorem forwardAudio_eq (extractor : RtpAudioExtractor) (info : AudioPacketInfo) :
    forwardAudio extractor info =
      match label extractor info.ssrc with
      | none => (extractor, none)
      | some ids =>
          ({ extractor with ssrcMap := extractor.ssrcMap.insert info.ssrc ids },
            if ids.1 = 0 then none else some (.audio (audioPacket ids info))) := by
  unfold forwardAudio lookupSession label
  cases hmapped : extractor.ssrcMap.get info.ssrc with
  | some ids => by_cases hids : ids.1 = 0 <;> simp [hids, HashMap.insert_of_get hmapped]
  | none =>
      cases extractor.defaultSession with
      | some ids => by_cases hids : ids.1 = 0 <;> simp [hids]
      | none => simp

theorem consistent_of_reachable {extractor : RtpAudioExtractor} (hreachable : Reachable extractor) :
    Consistent extractor := by
  induction hreachable with
  | new => exact ⟨rfl, rfl⟩
  | withAutoLearn sessionId endpointId => exact ⟨rfl, rfl⟩
  | setAutoLearn _ sessionId endpointId ih => exact ⟨ih.types, rfl⟩
  | enabled _ sessionId endpointId ih => exact ⟨ih.types, rfl⟩
  | disabled _ sessionId endpointId ih => exact ⟨ih.types, ih.learns⟩
  | registered _ ssrc sessionId endpointId ih => exact ⟨ih.types, ih.learns⟩
  | unregistered _ ssrc ih => exact ⟨ih.types, ih.learns⟩
  | @extracted extractor learned hbefore data result hextract ih =>
      -- only the map of SSRCs can have changed
      rw [RtpAudioExtractor.extractAudio_eq, Except.ok.injEq, RtpAudioExtractor.extracted,
        RtpAudioExtractor.lookupOrLearn_eq] at hextract
      have hlearned : learned.audioPayloadTypes = extractor.audioPayloadTypes ∧
          learned.autoLearn = extractor.autoLearn ∧
          learned.defaultSession = extractor.defaultSession := by
        rw [show learned = _ from (congrArg Prod.fst hextract).symm]
        split
        · cases extractor.labelOf (Rtp.ssrcOf data) <;> exact ⟨rfl, rfl, rfl⟩
        · exact ⟨rfl, rfl, rfl⟩
      exact ⟨hlearned.1.trans ih.types, by rw [hlearned.2.1, hlearned.2.2, ih.learns]⟩
  | @forwarded extractor hbefore info ih =>
      rw [forwardAudio_eq]
      cases label extractor info.ssrc with
      | none => exact ih
      | some ids => exact ⟨ih.types, ih.learns⟩

/-- What the live path makes of a packet. -/
theorem livePath_packet {unmarshal : Bytes → Option RtpPacket} (hrtp : SplitsPackets unmarshal)
    (endpoint : SessionKey) (extractor : RtpAudioExtractor) (packet : Rtp.Packet) :
    livePath unmarshal endpoint extractor packet.serialise =
      if isAudioPayloadType packet.payloadType then
        match label extractor packet.ssrc with
        | none => (extractor, none)
        | some ids =>
            ({ extractor with ssrcMap := extractor.ssrcMap.insert packet.ssrc ids },
              if ids.1 = 0 then none
              else some ⟨ids.1, ids.2, packet.payload, packet.timestamp, packet.ssrc⟩)
      else (extractor, none) := by
  rw [livePath, hrtp packet]
  by_cases haudio : isAudioPayloadType packet.payloadType = true
  · have htap : (some (packetParts packet)).bind (fun parts => tapAudio ⟨some endpoint, parts⟩) =
        some ⟨packet.ssrc, packet.timestamp, packet.sequenceNumber, packet.payloadType,
          packet.payload⟩ := by
      simp [tapAudio, packetParts, haudio]
    rw [htap, if_pos haudio]
    simp only [forwardAudio_eq]
    cases label extractor packet.ssrc with
    | none => rfl
    | some ids => by_cases hids : ids.1 = 0 <;> simp [hids, audioOf, audioPacket]
  · have htap : (some (packetParts packet)).bind (fun parts => tapAudio ⟨some endpoint, parts⟩) =
        none := by
      simp [tapAudio, packetParts, haudio]
    rw [htap, if_neg haudio]

/-- Both paths yield the same packet, or none, and leave the same map of SSRCs. -/
def PathsAgree (unmarshal : Bytes → Option RtpPacket) (endpoint : SessionKey)
    (extractor : RtpAudioExtractor) (data : Bytes) : Prop :=
  ∃ learned result, extractor.extractAudio data = .ok (learned, result) ∧
    (livePath unmarshal endpoint extractor data).2 = result ∧
    (livePath unmarshal endpoint extractor data).1.ssrcMap = learned.ssrcMap

theorem isAudioPayloadType_iff (payloadType : UInt8) :
    isAudioPayloadType payloadType = true ↔
      payloadType = 111 ∨ payloadType = 109 ∨ payloadType = 96 := by
  simp [isAudioPayloadType, opusPayloadTypes]

/-- Storing a label changes the map unless the SSRC is mapped to it. -/
theorem insert_eq_iff {map : HashMap UInt32 SessionKey} {ssrc : UInt32} {ids : SessionKey} :
    map.insert ssrc ids = map ↔ map.get ssrc = some ids := by
  constructor
  · intro hsame
    rw [← hsame, HashMap.get_insert, if_pos rfl]
  · exact HashMap.insert_of_get

/-- For every reachable extractor and every packet with a payload the two paths agree
exactly when: a packet of type `111` or `109` is not labelled with session `0`, and a
packet of type `96` is of an SSRC that is mapped to session `0`, or is not mapped and
would not be learned. -/
theorem pathsAgree_iff {unmarshal : Bytes → Option RtpPacket} (hrtp : SplitsPackets unmarshal)
    {extractor : RtpAudioExtractor} (hreachable : Reachable extractor) (endpoint : SessionKey)
    {packet : Rtp.Packet} (hpayload : packet.payload ≠ []) :
    PathsAgree unmarshal endpoint extractor packet.serialise ↔
      (packet.payloadType = 111 ∨ packet.payloadType = 109 →
        ∀ ids, label extractor packet.ssrc = some ids → ids.1 ≠ 0) ∧
      (packet.payloadType = 96 →
        (∃ ids, extractor.ssrcMap.get packet.ssrc = some ids ∧ ids.1 = 0) ∨
          extractor.ssrcMap.get packet.ssrc = none ∧ extractor.defaultSession = none) := by
  have hconsistent := consistent_of_reachable hreachable
  have hparsed : extractor.isAudioPayloadType packet.payloadType = true ↔
      packet.payloadType = 111 ∨ packet.payloadType = 109 := by
    simp [RtpAudioExtractor.isAudioPayloadType, hconsistent.types]
  unfold PathsAgree
  rw [RtpAudioExtractor.extractAudio_packet extractor hpayload, livePath_packet hrtp,
    hconsistent.labelOf_eq]
  simp only [isAudioPayloadType_iff, hparsed, Except.ok.injEq]
  by_cases haudio : packet.payloadType = 111 ∨ packet.payloadType = 109
  · -- both take it for audio, and differ for session `0` only
    have hvideo : packet.payloadType ≠ 96 := by
      rcases haudio with htype | htype <;> rw [htype] <;> decide
    have htapped : packet.payloadType = 111 ∨ packet.payloadType = 109 ∨
        packet.payloadType = 96 := haudio.imp_right .inl
    rw [if_pos haudio, if_pos htapped]
    cases label extractor packet.ssrc with
    | none => simp [hvideo]
    | some ids => by_cases hids : ids.1 = 0 <;> simp [hids, haudio, hvideo]
  · rw [if_neg haudio]
    by_cases hvideo : packet.payloadType = 96
    · -- only the tap takes it for audio
      rw [if_pos (.inr (.inr hvideo))]
      cases hmapped : extractor.ssrcMap.get packet.ssrc with
      | some ids =>
          rw [label_of_mapped hmapped]
          by_cases hids : ids.1 = 0 <;>
            simp [hids, hvideo, HashMap.insert_of_get hmapped]
      | none =>
          rw [label_of_unmapped hmapped]
          cases extractor.defaultSession with
          | none => simp [haudio]
          | some ids => by_cases hids : ids.1 = 0 <;> simp [hids, hvideo, insert_eq_iff, hmapped]
    · rw [if_neg (by tauto)]
      simp [haudio, hvideo]

/-- A packet of Opus audio from an SSRC that is registered. -/
def registeredPacket : Rtp.Packet where
  marker := false
  payloadType := 111
  sequenceNumber := 1
  timestamp := 960
  ssrc := 0x12345678
  csrcs := []
  extension := none
  payload := [0xF8, 0xFF, 0xFE]
  padding := none
  payloadType_lt := by decide
  csrcs_length := by decide
  padding_length := by simp

/-- Both paths make the same audio of it. -/
theorem pathsAgree_iff_registeredPacket :
    PathsAgree splitBytes (1, 1) (RtpAudioExtractor.new.registerSsrc 0x12345678 1 1)
        registeredPacket.serialise ∧
      (livePath splitBytes (1, 1) (RtpAudioExtractor.new.registerSsrc 0x12345678 1 1)
        registeredPacket.serialise).2 =
          some ⟨1, 1, [0xF8, 0xFF, 0xFE], 960, 0x12345678⟩ := by
  refine ⟨(pathsAgree_iff splitsPackets_splitBytes (.registered .new 0x12345678 1 1) (1, 1)
    (by decide)).mpr ⟨?_, ?_⟩, rfl⟩
  · rintro - ids hlabel
    have hlabelled : label (RtpAudioExtractor.new.registerSsrc 0x12345678 1 1)
        registeredPacket.ssrc = some (1, 1) := rfl
    obtain rfl := Option.some.inj (hlabelled.symm.trans hlabel)
    decide
  · intro hvideo
    exact absurd hvideo (by decide)

/-- A packet of payload type `96` from an SSRC that is registered. -/
def videoPacket : Rtp.Packet where
  marker := false
  payloadType := 96
  sequenceNumber := 1
  timestamp := 0
  ssrc := 0x12345678
  csrcs := []
  extension := none
  payload := [0, 1, 2, 3]
  padding := none
  payloadType_lt := by decide
  csrcs_length := by decide
  padding_length := by simp

/-- The live path forwards it, the parser does not take it for audio. -/
theorem video_forwarded_live :
    ¬ ∀ (unmarshal : Bytes → Option RtpPacket) (endpoint : SessionKey)
        (extractor : RtpAudioExtractor) (packet : Rtp.Packet), SplitsPackets unmarshal →
      Reachable extractor → packet.payload ≠ [] →
      PathsAgree unmarshal endpoint extractor packet.serialise := by
  intro hagrees
  have hagree := hagrees splitBytes (1, 1) _ videoPacket splitsPackets_splitBytes
    (.registered .new 0x12345678 1 1) (by decide)
  obtain ⟨learned, result, hextract, hlive, -⟩ := hagree
  have hparsed : (RtpAudioExtractor.new.registerSsrc 0x12345678 1 1).extractAudio
      videoPacket.serialise = .ok (RtpAudioExtractor.new.registerSsrc 0x12345678 1 1, none) := rfl
  have hforwarded : (livePath splitBytes (1, 1) (RtpAudioExtractor.new.registerSsrc 0x12345678 1 1)
      videoPacket.serialise).2 = some ⟨1, 1, [0, 1, 2, 3], 0, 0x12345678⟩ := rfl
  rw [hparsed, Except.ok.injEq, Prod.mk.injEq] at hextract
  rw [hforwarded, ← hextract.2] at hlive
  contradiction

end Signal
end MediaServer
