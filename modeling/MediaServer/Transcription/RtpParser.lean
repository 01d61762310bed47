import MediaServer.Foundation.Checked
import MediaServer.Foundation.RtpPacket
import MediaServer.Transcription.Extractor

/-!
# The RTP parser of the extractor

`RtpAudioExtractor::extract_audio`, with every index, slice and `usize` operation
checked.  `extractAudio_eq` says that none of the checks fails and what the function
computes, in terms of the flags and counts of the packet: its payload is taken to
begin at `payloadStart` and to end at `payloadStop`.
-/

namespace MediaServer
namespace Transcription

open Foundation

/-- `u16::from_be_bytes` of two bytes at a position -/
def u16At (data : Bytes) (position : Nat) : Except Panic UInt16 := do
  let high ← Checked.get data position
  let low ← Checked.get data (position + 1)
  return UInt16.ofNat (beValue [high, low])

/-- `u32::from_be_bytes` of four bytes at a position -/
def u32At (data : Bytes) (position : Nat) : Except Panic UInt32 := do
  let first ← Checked.get data position
  let second ← Checked.get data (position + 1)
  let third ← Checked.get data (position + 2)
  let fourth ← Checked.get data (position + 3)
  return UInt32.ofNat (beValue [first, second, third, fourth])

namespace RtpAudioExtractor

/-- Check if a payload type is audio. -/
def isAudioPayloadType (extractor : RtpAudioExtractor) (payloadType : UInt8) : Bool :=
  extractor.audioPayloadTypes.contains payloadType

/-- Look up session/endpoint for an SSRC, or auto-learn. -/
def lookupOrLearn (extractor : RtpAudioExtractor) (ssrc : UInt32) :
    Option (SessionKey × RtpAudioExtractor) :=
  match extractor.ssrcMap.get ssrc with
  | some ids => some (ids, extractor)
  | none =>
      if extractor.autoLearn then
        match extractor.defaultSession with
        | some default =>
            some (default, { extractor with ssrcMap := extractor.ssrcMap.insert ssrc default })
        | none => none
      else none

/-- The offset of the payload when an extension begins at `offset`. -/
def skipExtension (rtpData : Bytes) (extension : UInt8) (offset : Nat) : Except Panic Nat := do
  let extensionStart ← Checked.usize (offset + 4)
  if extension = 1 ∧ rtpData.length > extensionStart then
    let extLength ← u16At rtpData (offset + 2)
    Checked.usize (offset + (4 + extLength.toNat * 4))
  else
    return offset

/-- Handle padding. -/
def payloadEnd (rtpData : Bytes) (padding : UInt8) : Except Panic Nat := do
  if padding = 1 ∧ rtpData ≠ [] then
    let last ← Checked.sub rtpData.length 1
    let paddingLen ← Checked.get rtpData last
    -- `saturating_sub`
    return rtpData.length - paddingLen.toNat
  else
    return rtpData.length

/-- Try to extract audio from an RTP packet: the extractor afterwards and the packet,
if this is an audio packet from a known SSRC. -/
def extractAudio (extractor : RtpAudioExtractor) (rtpData : Bytes) :
    Except Panic (RtpAudioExtractor × Option AudioPacket) := do
  -- the RTP header is at least 12 bytes
  if rtpData.length < 12 then return (extractor, none)
  let flags ← Checked.get rtpData 0
  let version := (flags >>> 6) &&& 0x03
  if version ≠ 2 then return (extractor, none)
  let padding := (flags >>> 5) &&& 0x01
  let extension := (flags >>> 4) &&& 0x01
  let csrcCount := flags &&& 0x0F
  let payloadType := (← Checked.get rtpData 1) &&& 0x7F
  let _sequence ← u16At rtpData 2
  let timestamp ← u32At rtpData 4
  let ssrc ← u32At rtpData 8
  if ¬ extractor.isAudioPayloadType payloadType then return (extractor, none)
  match extractor.lookupOrLearn ssrc with
  | none => return (extractor, none)
  | some (ids, learned) =>
      let offset ← Checked.usize (12 + csrcCount.toNat * 4)
      let offset ← skipExtension rtpData extension offset
      if offset ≥ rtpData.length then return (learned, none)
      let payloadEnd ← payloadEnd rtpData padding
      if offset ≥ payloadEnd then return (learned, none)
      let opusData ← Checked.slice rtpData offset payloadEnd
      return (learned, some
        { sessionId := ids.1
          endpointId := ids.2
          opusData := opusData
          timestamp := timestamp
          ssrc := ssrc })

end RtpAudioExtractor

/-! ## The flags as numbers -/

section Flags

variable (flags : UInt8)

theorem shifted_and_eq_iff (shift mask value : Nat) (hshift : shift < 8) (hmask : mask < 8)
    (hvalue : value < 256) :
    ((flags >>> UInt8.ofNat shift) &&& UInt8.ofNat (2 ^ mask - 1)) = UInt8.ofNat value ↔
      flags.toNat / 2 ^ shift % 2 ^ mask = value := by
  have hpow : 2 ^ mask - 1 < 256 := by
    have hle : 2 ^ mask ≤ 2 ^ 7 := Nat.pow_le_pow_right (by omega) (by omega)
    omega
  rw [← UInt8.toNat_inj, UInt8.toNat_and, UInt8.toNat_shiftRight,
    UInt8.toNat_ofNat_of_lt' hpow, UInt8.toNat_ofNat_of_lt' hvalue,
    UInt8.toNat_ofNat_of_lt' (show shift < 256 by omega), Nat.mod_eq_of_lt hshift,
    Nat.and_two_pow_sub_one_eq_mod, Nat.shiftRight_eq_div_pow]

theorem version_eq_two_iff : (flags >>> 6) &&& 0x03 = 2 ↔ flags.toNat / 64 = 2 := by
  have hflags : flags.toNat < 256 := flags.toNat_lt
  have hversion := shifted_and_eq_iff flags 6 2 2 (by omega) (by omega) (by omega)
  rw [Nat.mod_eq_of_lt (by omega)] at hversion
  exact hversion

theorem padding_eq_one_iff : (flags >>> 5) &&& 0x01 = 1 ↔ flags.toNat / 32 % 2 = 1 :=
  shifted_and_eq_iff flags 5 1 1 (by omega) (by omega) (by omega)

theorem extension_eq_one_iff : (flags >>> 4) &&& 0x01 = 1 ↔ flags.toNat / 16 % 2 = 1 :=
  shifted_and_eq_iff flags 4 1 1 (by omega) (by omega) (by omega)

theorem csrcCount_toNat : (flags &&& 0x0F).toNat = flags.toNat % 16 := by
  rw [UInt8.toNat_and]
  exact Nat.and_two_pow_sub_one_eq_mod flags.toNat 4

theorem payloadType_eq : flags &&& 0x7F = UInt8.ofNat (flags.toNat % 128) := by
  apply UInt8.toNat_inj.mp
  rw [UInt8.toNat_and, UInt8.toNat_ofNat_of_lt' (show flags.toNat % 128 < 256 by omega)]
  exact Nat.and_two_pow_sub_one_eq_mod flags.toNat 7

end Flags

/-! ## What the parser computes -/

/-- Where the payload is taken to begin: after the extension only if more than its
header follows the CSRCs. -/
def payloadStart (data : Bytes) : Nat :=
  if Rtp.hasExtension data = true ∧ Rtp.csrcEnd data + 4 < data.length then
    Rtp.csrcEnd data + 4 + 4 * Rtp.extensionWords data
  else Rtp.csrcEnd data

/-- Where the payload is taken to end. -/
def payloadStop (data : Bytes) : Nat := data.length - Rtp.paddingCount data

/-- What is taken for the payload. -/
def takenPayload (data : Bytes) : Bytes :=
  (data.drop (payloadStart data)).take (payloadStop data - payloadStart data)

namespace RtpAudioExtractor

/-- The header is that of a version-2 packet of audio. -/
def AcceptsHeader (extractor : RtpAudioExtractor) (data : Bytes) : Prop :=
  12 ≤ data.length ∧ Rtp.version data = 2 ∧
    extractor.isAudioPayloadType (UInt8.ofNat (Rtp.payloadTypeOf data)) = true

instance (extractor : RtpAudioExtractor) (data : Bytes) :
    Decidable (extractor.AcceptsHeader data) :=
  inferInstanceAs (Decidable (_ ∧ _ ∧ _))

/-- What is extracted under a label. -/
def extractedPacket (ids : SessionKey) (data : Bytes) : AudioPacket where
  sessionId := ids.1
  endpointId := ids.2
  opusData := takenPayload data
  timestamp := Rtp.timestampOf data
  ssrc := Rtp.ssrcOf data

/-- The value of `extract_audio`. -/
def extracted (extractor : RtpAudioExtractor) (data : Bytes) :
    RtpAudioExtractor × Option AudioPacket :=
  if extractor.AcceptsHeader data then
    match extractor.lookupOrLearn (Rtp.ssrcOf data) with
    | none => (extractor, none)
    | some (ids, learned) =>
        (learned, if payloadStart data < payloadStop data then some (extractedPacket ids data)
          else none)
  else (extractor, none)

end RtpAudioExtractor

section Reads

variable {data : Bytes} {position : Nat}

theorem u16At_eq (hlength : position + 2 ≤ data.length) :
    u16At data position = .ok (UInt16.ofNat (Rtp.numberAt data position 2)) := by
  have hbytes : (data.drop position).take 2 = [data[position], data[position + 1]] := by
    rw [List.drop_eq_getElem_cons (by omega), List.drop_eq_getElem_cons (by omega)]
    rfl
  rw [u16At, Checked.get_of_lt (by omega), Checked.get_of_lt (by omega), Rtp.numberAt, hbytes]
  rfl

theorem u32At_eq (hlength : position + 4 ≤ data.length) :
    u32At data position = .ok (UInt32.ofNat (Rtp.numberAt data position 4)) := by
  have hbytes : (data.drop position).take 4 =
      [data[position], data[position + 1], data[position + 2], data[position + 3]] := by
    rw [List.drop_eq_getElem_cons (by omega), List.drop_eq_getElem_cons (by omega),
      List.drop_eq_getElem_cons (by omega), List.drop_eq_getElem_cons (by omega)]
    rfl
  rw [u32At, Checked.get_of_lt (by omega), Checked.get_of_lt (by omega),
    Checked.get_of_lt (by omega), Checked.get_of_lt (by omega), Rtp.numberAt, hbytes]
  rfl

theorem get_eq (hlength : position < data.length) :
    ∃ byte : UInt8, Checked.get data position = .ok byte ∧ byte.toNat = Rtp.byteAt data position :=
  ⟨data[position], Checked.get_of_lt hlength, by simp [Rtp.byteAt, hlength]⟩

end Reads

namespace RtpAudioExtractor

variable {data : Bytes} {flags : UInt8}

/-- No offset comes near the end of the address space. -/
theorem csrcEnd_le (data : Bytes) : Rtp.csrcEnd data ≤ 72 := by
  rw [Rtp.csrcEnd, Rtp.csrcCount]
  omega

theorem skipExtension_eq (hflags : flags.toNat = Rtp.byteAt data 0) :
    skipExtension data ((flags >>> 4) &&& 0x01) (Rtp.csrcEnd data) =
      .ok (payloadStart data) := by
  have hcsrcs := csrcEnd_le data
  have hflag : (flags >>> 4) &&& 0x01 = 1 ↔ Rtp.hasExtension data = true := by
    rw [extension_eq_one_iff, hflags, Rtp.hasExtension, decide_eq_true_eq]
  rw [skipExtension, Checked.usize_of_lt (by omega), payloadStart]
  simp only [hflag, gt_iff_lt, Except.bind, bind]
  split
  · rename_i hextension
    have hwords : Rtp.numberAt data (Rtp.csrcEnd data + 2) 2 < 2 ^ 16 := Rtp.numberAt_lt data _ 2
    rw [u16At_eq (by omega)]
    simp only
    rw [UInt16.toNat_ofNat_of_lt' hwords, Checked.usize_of_lt (by omega), Rtp.extensionWords]
    congr 1
    omega
  · rfl

theorem payloadEnd_eq (hflags : flags.toNat = Rtp.byteAt data 0) (hdata : 1 ≤ data.length) :
    payloadEnd data ((flags >>> 5) &&& 0x01) = .ok (payloadStop data) := by
  have hflag : (flags >>> 5) &&& 0x01 = 1 ↔ Rtp.hasPadding data = true := by
    rw [padding_eq_one_iff, hflags, Rtp.hasPadding, decide_eq_true_eq]
  have hne : data ≠ [] := List.ne_nil_of_length_pos hdata
  obtain ⟨last, hlast, hvalue⟩ := get_eq (show data.length - 1 < data.length by omega)
  rw [payloadEnd, payloadStop, Rtp.paddingCount]
  simp only [hflag, hne, ne_eq, not_false_eq_true, and_true]
  split
  · rw [Checked.sub_of_le hdata]
    simp only [Except.bind, bind, hlast, hvalue]
    rfl
  · rfl

/-- `extract_audio` does not panic, and this is its value. -/
theorem extractAudio_eq (extractor : RtpAudioExtractor) (data : Bytes) :
    extractor.extractAudio data = .ok (extractor.extracted data) := by
  have hbind : ∀ {α β : Type} (value : α) (next : α → Except Panic β),
      (Except.ok value >>= next) = next value := fun _ _ => rfl
  unfold extractAudio extracted
  by_cases hlength : data.length < 12
  · have hreject : ¬ extractor.AcceptsHeader data := fun haccepts => by
      have hfixed := haccepts.1
      omega
    rw [if_pos hlength, if_neg hreject]
    rfl
  obtain ⟨flags, hflags, hvalue⟩ := get_eq (show 0 < data.length by omega)
  obtain ⟨kind, hkind, htype⟩ := get_eq (show 1 < data.length by omega)
  rw [if_neg hlength, hflags, hbind]
  by_cases hversion : (flags >>> 6) &&& 0x03 = 2
  swap
  · have hreject : ¬ extractor.AcceptsHeader data := fun haccepts => by
      rw [version_eq_two_iff, hvalue] at hversion
      exact hversion haccepts.2.1
    rw [if_neg hreject]
    simp only [ne_eq, hversion, not_false_eq_true, if_true]
    rfl
  have haccepts : extractor.AcceptsHeader data ↔
      extractor.isAudioPayloadType (kind &&& 0x7F) = true := by
    rw [version_eq_two_iff, hvalue] at hversion
    rw [payloadType_eq, htype]
    exact ⟨fun haccepts => haccepts.2.2, fun haudio => ⟨by omega, hversion, haudio⟩⟩
  simp only [ne_eq, hversion, not_true_eq_false, if_false, hkind, hbind]
  rw [u16At_eq (by omega), hbind, u32At_eq (by omega), hbind, u32At_eq (by omega), hbind]
  by_cases haudio : extractor.isAudioPayloadType (kind &&& 0x7F) = true
  swap
  · rw [if_pos haudio, if_neg (mt haccepts.mp haudio)]
    rfl
  rw [if_neg (not_not.mpr haudio), if_pos (haccepts.mpr haudio)]
  show (match extractor.lookupOrLearn (Rtp.ssrcOf data) with
    | none => _
    | some (ids, learned) => _) = _
  cases extractor.lookupOrLearn (Rtp.ssrcOf data) with
  | none => rfl
  | some found =>
      obtain ⟨ids, learned⟩ := found
      have hcsrcs : 12 + (flags &&& 0x0F).toNat * 4 = Rtp.csrcEnd data := by
        rw [csrcCount_toNat, hvalue, Rtp.csrcEnd, Rtp.csrcCount]
        omega
      have hbound := csrcEnd_le data
      have hstop : payloadStop data ≤ data.length := Nat.sub_le _ _
      simp only [hcsrcs]
      rw [Checked.usize_of_lt (by omega), hbind, skipExtension_eq hvalue, hbind]
      by_cases hstart : payloadStart data < payloadStop data
      · rw [if_neg (by omega), payloadEnd_eq hvalue (by omega), hbind, if_neg (by omega),
          Checked.slice_of_le (by omega) hstop, hbind, if_pos hstart]
        rfl
      · rw [if_neg hstart]
        split
        · rfl
        · rw [payloadEnd_eq hvalue (by omega), hbind, if_pos (by omega)]
          rfl

end RtpAudioExtractor

end Transcription
end MediaServer
