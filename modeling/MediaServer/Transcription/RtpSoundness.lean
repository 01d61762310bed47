import MediaServer.Transcription.RtpParser

/-!
# What the parser makes of packets and of other bytes

Of the bytes of a packet the parser takes exactly the payload.  Conversely, bytes it
takes a payload from need not be those of a packet: an extension is announced but no
more than its header is there, and what is there is taken for payload; or padding is
announced and counted as zero, and its bytes are taken for payload.  In every other
case the bytes are those of a packet and the payload is the packet's.
-/

namespace MediaServer
namespace Transcription

open Foundation

section Payload

variable {data : Bytes}

/-- A payload that is there is found where it is. -/
theorem payloadStart_of_payload (hpayload : Rtp.payloadOf data ≠ []) :
    payloadStart data = Rtp.headerEnd data ∧ payloadStart data < payloadStop data := by
  have hlength : 0 < (Rtp.payloadOf data).length := List.length_pos_of_ne_nil hpayload
  rw [Rtp.payloadOf, List.length_take, List.length_drop] at hlength
  have hstart : payloadStart data = Rtp.headerEnd data := by
    unfold payloadStart
    rw [Rtp.headerEnd] at hlength ⊢
    split at hlength
    · rename_i hextension
      rw [if_pos ⟨hextension, by omega⟩, if_pos hextension]
    · rename_i hextension
      rw [if_neg (fun hboth => hextension hboth.1), if_neg hextension]
  refine ⟨hstart, ?_⟩
  rw [hstart, payloadStop]
  omega

theorem takenPayload_of_payload (hpayload : Rtp.payloadOf data ≠ []) :
    takenPayload data = Rtp.payloadOf data := by
  rw [takenPayload, (payloadStart_of_payload hpayload).1, payloadStop, Rtp.payloadOf]

/-- An extension is announced, no more than its header follows the CSRCs, and some of
what follows is not padding. -/
def ExtensionCut (data : Bytes) : Prop :=
  Rtp.hasExtension data = true ∧ data.length ≤ Rtp.csrcEnd data + 4 ∧
    Rtp.csrcEnd data + Rtp.paddingCount data < data.length

/-- Padding is announced, its count is zero, and something follows the headers. -/
def PaddingUncounted (data : Bytes) : Prop :=
  Rtp.hasPadding data = true ∧ Rtp.paddingCount data = 0 ∧ Rtp.headerEnd data < data.length ∧
    (Rtp.hasExtension data = true → Rtp.csrcEnd data + 4 < data.length)

/-- In both cases a payload is taken. -/
theorem payloadStart_lt_of_defect (hdefect : ExtensionCut data ∨ PaddingUncounted data) :
    payloadStart data < payloadStop data := by
  unfold payloadStart payloadStop
  rcases hdefect with ⟨hextension, hcut, hrest⟩ | ⟨hpadding, hcount, hrest, hlong⟩
  · rw [if_neg (fun hboth => by omega)]
    omega
  · rw [hcount, Nat.sub_zero]
    rw [Rtp.headerEnd] at hrest
    split
    · rename_i hboth
      rwa [if_pos hboth.1] at hrest
    · rename_i hboth
      have hextension : ¬ Rtp.hasExtension data = true := fun hextension =>
        hboth ⟨hextension, hlong hextension⟩
      rwa [if_neg hextension] at hrest

/-- A payload that is taken is that of a packet, except in these two cases. -/
theorem taken_wellFormed_iff (hfixed : 12 ≤ data.length) (hversion : Rtp.version data = 2)
    (htaken : payloadStart data < payloadStop data) :
    Rtp.WellFormed data ∧ Rtp.payloadOf data = takenPayload data ↔
      ¬ (ExtensionCut data ∨ PaddingUncounted data) := by
  constructor
  · rintro ⟨hwell, hpayload⟩ (⟨hextension, hcut, -⟩ | ⟨hpadding, hcount, -, -⟩)
    · -- the headers fill the packet, so it has no payload
      have hheaders := hwell.headers
      have hlength : 0 < (takenPayload data).length := by
        have hstop : payloadStop data ≤ data.length := Nat.sub_le _ _
        rw [takenPayload, List.length_take, List.length_drop]
        omega
      rw [← hpayload, Rtp.payloadOf, List.length_take, List.length_drop] at hlength
      rw [Rtp.headerEnd, if_pos hextension] at hheaders hlength
      omega
    · have hpadded := hwell.padded hpadding
      omega
  · intro hdefect
    have hlong : Rtp.hasExtension data = true → Rtp.csrcEnd data + 4 < data.length := by
      intro hextension
      by_contra hshort
      rw [payloadStart, payloadStop, if_neg (fun hboth => hshort hboth.2)] at htaken
      exact hdefect (.inl ⟨hextension, by omega, by omega⟩)
    have hstart : payloadStart data = Rtp.headerEnd data := by
      unfold payloadStart Rtp.headerEnd
      split
      · rename_i hboth
        rw [if_pos hboth.1]
      · rename_i hboth
        rw [if_neg (fun hextension => hboth ⟨hextension, hlong hextension⟩)]
    have hrest : Rtp.headerEnd data < data.length - Rtp.paddingCount data := by
      rwa [← hstart]
    refine ⟨⟨hfixed, hversion, fun hextension => (hlong hextension).le, by omega, ?_, by omega⟩, ?_⟩
    · intro hpadding
      by_contra hcount
      exact hdefect (.inr ⟨hpadding, by omega, by omega, hlong⟩)
    · rw [takenPayload, hstart, payloadStop, Rtp.payloadOf]

end Payload

namespace RtpAudioExtractor

/-- The session and endpoint of an SSRC, mapped or to be learned. -/
def labelOf (extractor : RtpAudioExtractor) (ssrc : UInt32) : Option SessionKey :=
  (extractor.ssrcMap.get ssrc).or
    (if extractor.autoLearn then extractor.defaultSession else none)

/-- Looking up an SSRC leaves it mapped to what was found. -/
theorem lookupOrLearn_eq (extractor : RtpAudioExtractor) (ssrc : UInt32) :
    extractor.lookupOrLearn ssrc = (extractor.labelOf ssrc).map fun ids =>
      (ids, { extractor with ssrcMap := extractor.ssrcMap.insert ssrc ids }) := by
  unfold lookupOrLearn labelOf
  cases hmapped : extractor.ssrcMap.get ssrc with
  | some ids => simp [HashMap.insert_of_get hmapped]
  | none =>
      cases hlearn : extractor.autoLearn with
      | false => simp
      | true => cases extractor.defaultSession <;> simp

section Extract

variable {extractor learned : RtpAudioExtractor} {data : Bytes} {audio : AudioPacket}

/-- When something is extracted. -/
theorem extractAudio_eq_some_iff :
    extractor.extractAudio data = .ok (learned, some audio) ↔
      ∃ ids, extractor.AcceptsHeader data ∧ extractor.labelOf (Rtp.ssrcOf data) = some ids ∧
        payloadStart data < payloadStop data ∧ audio = extractedPacket ids data ∧
        learned =
          { extractor with ssrcMap := extractor.ssrcMap.insert (Rtp.ssrcOf data) ids } := by
  rw [extractAudio_eq, extracted, lookupOrLearn_eq, Except.ok.injEq]
  by_cases haccepts : extractor.AcceptsHeader data
  · rw [if_pos haccepts]
    cases hlabel : extractor.labelOf (Rtp.ssrcOf data) with
    | none => simp
    | some ids =>
        by_cases htaken : payloadStart data < payloadStop data <;>
          simp [haccepts, htaken, eq_comm, and_comm]
  · simp [haccepts]

/-- What is extracted from a packet with a payload. -/
theorem extractAudio_packet (extractor : RtpAudioExtractor) {packet : Rtp.Packet}
    (hpayload : packet.payload ≠ []) :
    extractor.extractAudio packet.serialise =
      .ok (if extractor.isAudioPayloadType packet.payloadType then
        match extractor.labelOf packet.ssrc with
        | none => (extractor, none)
        | some ids =>
            ({ extractor with ssrcMap := extractor.ssrcMap.insert packet.ssrc ids },
              some ⟨ids.1, ids.2, packet.payload, packet.timestamp, packet.ssrc⟩)
      else (extractor, none)) := by
  have hregion : Rtp.payloadOf packet.serialise ≠ [] := by
    rwa [packet.payloadOf_serialise]
  have haccepts : extractor.AcceptsHeader packet.serialise ↔
      extractor.isAudioPayloadType packet.payloadType = true := by
    rw [AcceptsHeader, packet.payloadType_serialise, UInt8.ofNat_toNat]
    exact ⟨fun haccepts => haccepts.2.2,
      fun haudio => ⟨packet.wellFormed_serialise.fixed, packet.version_serialise, haudio⟩⟩
  have hpacket : ∀ ids, extractedPacket ids packet.serialise =
      ⟨ids.1, ids.2, packet.payload, packet.timestamp, packet.ssrc⟩ := by
    intro ids
    rw [extractedPacket, takenPayload_of_payload hregion, packet.payloadOf_serialise,
      packet.timestamp_serialise, packet.ssrc_serialise]
  rw [extractAudio_eq, extracted, lookupOrLearn_eq, packet.ssrc_serialise]
  simp only [haccepts]
  split
  · cases extractor.labelOf packet.ssrc with
    | none => rfl
    | some ids => simp [(payloadStart_of_payload hregion).2, hpacket]
  · rfl

/-- For every packet with payload type `111` or `109` and a payload, and every extractor
that has its SSRC mapped or learns it: exactly the payload is extracted, with the
packet's timestamp and SSRC and the label of the SSRC, which is mapped to the label
then; nothing else changes.  The payload types are those of every extractor: the two
constructors set them and nothing changes them. -/
theorem extractAudio_serialise {packet : Rtp.Packet} {ids : SessionKey}
    (htypes : extractor.audioPayloadTypes = [111, 109])
    (haudio : packet.payloadType = 111 ∨ packet.payloadType = 109)
    (hlabel : extractor.ssrcMap.get packet.ssrc = some ids ∨
      extractor.ssrcMap.get packet.ssrc = none ∧ extractor.autoLearn = true ∧
        extractor.defaultSession = some ids)
    (hpayload : packet.payload ≠ []) :
    extractor.extractAudio packet.serialise =
      .ok ({ extractor with ssrcMap := extractor.ssrcMap.insert packet.ssrc ids },
        some
          { sessionId := ids.1
            endpointId := ids.2
            opusData := packet.payload
            timestamp := packet.timestamp
            ssrc := packet.ssrc }) := by
  have htype : extractor.isAudioPayloadType packet.payloadType = true := by
    rw [isAudioPayloadType, htypes]
    rcases haudio with htype | htype <;> rw [htype] <;> decide
  have hlabelled : extractor.labelOf packet.ssrc = some ids := by
    unfold labelOf
    rcases hlabel with hmapped | ⟨hunmapped, hlearn, hdefault⟩
    · rw [hmapped, Option.some_or]
    · rw [hunmapped, hlearn, if_pos rfl, hdefault, Option.none_or]
  rw [extractAudio_packet extractor hpayload, if_pos htype, hlabelled]

/-- One CSRC, an extension of one word, three bytes of padding. -/
def fullPacket : Rtp.Packet where
  marker := true
  payloadType := 109
  sequenceNumber := 7
  timestamp := 960
  ssrc := 0x12345678
  csrcs := [5]
  extension := some ⟨0xBEDE, [0x10203040], by decide⟩
  payload := [0xFC, 0x01]
  padding := some [0, 0]
  payloadType_lt := by decide
  csrcs_length := by decide
  padding_length := by
    rintro filler ⟨⟩
    decide

theorem extractAudio_serialise_fullPacket :
    (withAutoLearn 1 2).extractAudio fullPacket.serialise =
      .ok ({ withAutoLearn 1 2 with ssrcMap := HashMap.empty.insert 0x12345678 (1, 2) },
        some ⟨1, 2, [0xFC, 0x01], 960, 0x12345678⟩) :=
  extractAudio_serialise rfl (.inr rfl) (.inr ⟨rfl, rfl, rfl⟩) (by decide)

/-- Whatever is extracted from the bytes, they are those of a packet and it is the
payload of that packet, which is not empty. -/
def Sound (extractor : RtpAudioExtractor) (data : Bytes) : Prop :=
  ∀ learned audio, extractor.extractAudio data = .ok (learned, some audio) →
    ∃ packet : Rtp.Packet, packet.serialise = data ∧ packet.payload = audio.opusData ∧
      audio.opusData ≠ []

/-- Extraction is sound exactly where the audio packet of a known SSRC has none of the
two defects. -/
theorem sound_iff (extractor : RtpAudioExtractor) (data : Bytes) :
    extractor.Sound data ↔
      ¬ (extractor.AcceptsHeader data ∧
        (extractor.labelOf (Rtp.ssrcOf data)).isSome = true ∧
        (ExtensionCut data ∨ PaddingUncounted data)) := by
  constructor
  · rintro hsound ⟨haccepts, hlabel, hdefect⟩
    obtain ⟨ids, hids⟩ := Option.isSome_iff_exists.mp hlabel
    have htaken := payloadStart_lt_of_defect hdefect
    obtain ⟨packet, hbytes, hpayload, -⟩ := hsound _ _
      (extractAudio_eq_some_iff.mpr ⟨ids, haccepts, hids, htaken, rfl, rfl⟩)
    have hwell := Rtp.wellFormed_iff.mpr ⟨packet, hbytes, hpayload⟩
    exact (taken_wellFormed_iff haccepts.1 haccepts.2.1 htaken).mp hwell hdefect
  · intro hcondition learned audio hextract
    obtain ⟨ids, haccepts, hlabel, htaken, rfl, -⟩ := extractAudio_eq_some_iff.mp hextract
    have hsound : ¬ (ExtensionCut data ∨ PaddingUncounted data) := fun hdefect =>
      hcondition ⟨haccepts, by simp [hlabel], hdefect⟩
    obtain ⟨packet, hbytes, hpayload⟩ := Rtp.wellFormed_iff.mp
      ((taken_wellFormed_iff haccepts.1 haccepts.2.1 htaken).mpr hsound)
    refine ⟨packet, hbytes, hpayload, ?_⟩
    have hstop : payloadStop data ≤ data.length := Nat.sub_le _ _
    apply List.ne_nil_of_length_pos
    show 0 < (takenPayload data).length
    rw [takenPayload, List.length_take, List.length_drop]
    omega

/-- The extension flag is set, and a single byte follows the fixed header. -/
def cutExtension : Bytes := [0x90, 111, 0, 1, 0, 0, 0, 0, 0x12, 0x34, 0x56, 0x78, 0xBE]

/-- The byte is passed on as Opus data, and no packet has these bytes. -/
theorem cut_extension_extracted :
    ¬ ∀ (extractor : RtpAudioExtractor) (data : Bytes), extractor.Sound data := by
  intro hsound
  have hextract : (new.registerSsrc 0x12345678 1 2).extractAudio cutExtension =
      .ok (new.registerSsrc 0x12345678 1 2, some ⟨1, 2, [0xBE], 0, 0x12345678⟩) := rfl
  obtain ⟨packet, hbytes, -, -⟩ := hsound _ _ _ _ hextract
  have hwell : Rtp.WellFormed cutExtension := hbytes ▸ packet.wellFormed_serialise
  have hlong : Rtp.csrcEnd cutExtension + 4 ≤ cutExtension.length := hwell.extension rfl
  revert hlong
  decide

end Extract

end RtpAudioExtractor
end Transcription
end MediaServer
