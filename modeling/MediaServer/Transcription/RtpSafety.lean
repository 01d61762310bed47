import MediaServer.Transcription.RtpSoundness

/-!
# What the parser may read and what it may leave behind

On any bytes the parser returns, and a payload it returns is a stretch of these bytes
behind the list of CSRCs.  When it returns no packet it has not changed the extractor,
except in one case: an SSRC is learned before the payload is looked for, so a packet
of audio without a payload leaves its SSRC mapped (`LearnsInVain`).
-/

namespace MediaServer
namespace Transcription

open Foundation

section Payload

variable {data : Bytes}

/-- The payload is taken from behind the CSRCs. -/
theorem csrcEnd_le_payloadStart (data : Bytes) : Rtp.csrcEnd data ≤ payloadStart data := by
  unfold payloadStart
  split <;> omega

theorem length_takenPayload (htaken : payloadStart data < payloadStop data) :
    (takenPayload data).length = payloadStop data - payloadStart data := by
  have hstop : payloadStop data ≤ data.length := Nat.sub_le _ _
  rw [takenPayload, List.length_take, List.length_drop]
  omega

/-- What is taken for the payload, in its place. -/
theorem takenPayload_in_place (data : Bytes) :
    data = data.take (payloadStart data) ++ takenPayload data ++
      (data.drop (payloadStart data)).drop (payloadStop data - payloadStart data) := by
  rw [List.append_assoc, takenPayload, List.take_append_drop, List.take_append_drop]

/-- No byte is left between the headers and the padding.  An extension counts only if
more than its header follows the CSRCs. -/
def LacksPayload (data : Bytes) : Prop :=
  if Rtp.hasExtension data = true ∧ Rtp.csrcEnd data + 4 < data.length then
    data.length ≤ Rtp.headerEnd data + Rtp.paddingCount data
  else data.length ≤ Rtp.csrcEnd data + Rtp.paddingCount data

instance (data : Bytes) : Decidable (LacksPayload data) :=
  inferInstanceAs (Decidable
    (if Rtp.hasExtension data = true ∧ Rtp.csrcEnd data + 4 < data.length then
      data.length ≤ Rtp.headerEnd data + Rtp.paddingCount data
    else data.length ≤ Rtp.csrcEnd data + Rtp.paddingCount data))

theorem lacksPayload_iff : LacksPayload data ↔ ¬ payloadStart data < payloadStop data := by
  unfold LacksPayload payloadStart payloadStop
  split
  · rename_i hextension
    rw [Rtp.headerEnd, if_pos hextension.1]
    omega
  · omega

end Payload

namespace RtpAudioExtractor

/-- The SSRC has no entry, and would get that of the default session. -/
def Learns (extractor : RtpAudioExtractor) (ssrc : UInt32) : Prop :=
  extractor.ssrcMap.get ssrc = none ∧ extractor.autoLearn = true ∧
    extractor.defaultSession.isSome = true

/-- A packet of audio without a payload, whose SSRC is learned. -/
def LearnsInVain (extractor : RtpAudioExtractor) (data : Bytes) : Prop :=
  extractor.AcceptsHeader data ∧ extractor.Learns (Rtp.ssrcOf data) ∧ LacksPayload data

/-- An SSRC that is not learned leaves the extractor as it was. -/
theorem lookupOrLearn_of_not_learns {extractor learned : RtpAudioExtractor} {ssrc : UInt32}
    {ids : SessionKey} (hlearns : ¬ extractor.Learns ssrc)
    (hlookup : extractor.lookupOrLearn ssrc = some (ids, learned)) : learned = extractor := by
  rw [lookupOrLearn_eq] at hlookup
  obtain ⟨found, hlabel, hpair⟩ := Option.map_eq_some_iff.mp hlookup
  obtain ⟨rfl, rfl⟩ := Prod.mk.inj hpair
  cases hmapped : extractor.ssrcMap.get ssrc with
  | some entry =>
      rw [labelOf, hmapped, Option.some_or] at hlabel
      obtain rfl := Option.some.inj hlabel
      rw [HashMap.insert_of_get hmapped]
  | none =>
      rw [labelOf, hmapped, Option.none_or] at hlabel
      split at hlabel
      · rename_i hlearn
        exact absurd ⟨hmapped, hlearn, by rw [hlabel, Option.isSome_some]⟩ hlearns
      · contradiction

/-- An SSRC that is learned has an entry then. -/
theorem lookupOrLearn_of_learns {extractor : RtpAudioExtractor} {ssrc : UInt32}
    (hlearns : extractor.Learns ssrc) :
    ∃ ids learned, extractor.lookupOrLearn ssrc = some (ids, learned) ∧
      learned.ssrcMap.get ssrc = some ids := by
  obtain ⟨hmapped, hlearn, hdefault⟩ := hlearns
  obtain ⟨ids, hids⟩ := Option.isSome_iff_exists.mp hdefault
  have hlabel : extractor.labelOf ssrc = some ids := by
    rw [labelOf, hmapped, hlearn, if_pos rfl, hids, Option.none_or]
  exact ⟨ids, _, by rw [lookupOrLearn_eq, hlabel, Option.map_some], by simp⟩

/-- Such a packet yields nothing, and its SSRC has an entry then. -/
theorem extractAudio_of_learnsInVain {extractor : RtpAudioExtractor} {data : Bytes}
    (hvain : extractor.LearnsInVain data) :
    ∃ learned, extractor.extractAudio data = .ok (learned, none) ∧ learned ≠ extractor := by
  obtain ⟨haccepts, hlearns, hlacks⟩ := hvain
  obtain ⟨ids, learned, hlookup, hentry⟩ := lookupOrLearn_of_learns hlearns
  refine ⟨learned, ?_, ?_⟩
  · rw [extractAudio_eq, extracted, if_pos haccepts, hlookup]
    dsimp only
    rw [if_neg (lacksPayload_iff.mp hlacks)]
  · rintro rfl
    rw [hlearns.1] at hentry
    contradiction

/-- A packet that yields nothing has left the extractor as it was, exactly if it is not
one whose SSRC is learned in vain. -/
theorem rejected_unchanged_iff (extractor : RtpAudioExtractor) (data : Bytes) :
    (∀ after, extractor.extractAudio data = .ok (after, none) → after = extractor) ↔
      ¬ extractor.LearnsInVain data := by
  constructor
  · intro hunchanged hvain
    obtain ⟨learned, hrejected, hchanged⟩ := extractAudio_of_learnsInVain hvain
    exact hchanged (hunchanged learned hrejected)
  · intro hvain after hrejected
    rw [extractAudio_eq, extracted] at hrejected
    split at hrejected
    · rename_i haccepts
      cases hlookup : extractor.lookupOrLearn (Rtp.ssrcOf data) with
      | none =>
          rw [hlookup] at hrejected
          exact (Prod.mk.inj (Except.ok.inj hrejected)).1.symm
      | some found =>
          obtain ⟨ids, learned⟩ := found
          rw [hlookup] at hrejected
          obtain ⟨rfl, hnone⟩ := Prod.mk.inj (Except.ok.inj hrejected)
          -- nothing was taken, so the SSRC was not learned either
          have hlacks : LacksPayload data := by
            rw [lacksPayload_iff]
            intro htaken
            rw [if_pos htaken] at hnone
            contradiction
          exact lookupOrLearn_of_not_learns
            (fun hlearns => hvain ⟨haccepts, hlearns, hlacks⟩) hlookup
    · exact (Prod.mk.inj (Except.ok.inj hrejected)).1.symm

/-- The fixed header of a packet of audio, and nothing behind it. -/
def bareHeader : Bytes := [0x80, 111, 0, 1, 0, 0, 0, 0, 0x12, 0x34, 0x56, 0x78]

/-- The packet yields nothing, and its SSRC is mapped. -/
theorem bare_header_learned :
    ¬ ∀ (extractor after : RtpAudioExtractor) (data : Bytes),
      extractor.extractAudio data = .ok (after, none) → after = extractor := by
  intro hleaves
  have hvain : (withAutoLearn 1 2).LearnsInVain bareHeader :=
    ⟨by decide, ⟨rfl, rfl, rfl⟩, by decide⟩
  obtain ⟨learned, hrejected, hchanged⟩ := extractAudio_of_learnsInVain hvain
  exact hchanged (hleaves _ _ _ hrejected)

/-- For every extractor and any bytes the parser returns, and a payload it returns is
not empty and lies in these bytes, behind the fixed header and the CSRCs. -/
theorem extractAudio_returns (extractor : RtpAudioExtractor) (data : Bytes) :
    ∃ after result, extractor.extractAudio data = .ok (after, result) ∧
      ∀ audio, result = some audio → audio.opusData ≠ [] ∧
        ∃ before behind, data = before ++ audio.opusData ++ behind ∧
          12 + 4 * Rtp.csrcCount data ≤ before.length := by
  refine ⟨(extractor.extracted data).1, (extractor.extracted data).2,
    extractAudio_eq extractor data, ?_⟩
  intro audio haudio
  have hextract : extractor.extractAudio data =
      .ok ((extractor.extracted data).1, some audio) := by
    rw [extractAudio_eq, ← haudio]
  obtain ⟨ids, -, -, htaken, rfl, -⟩ := extractAudio_eq_some_iff.mp hextract
  have hlength := length_takenPayload htaken
  have hstart : Rtp.csrcEnd data ≤ payloadStart data := csrcEnd_le_payloadStart data
  have hstop : payloadStop data ≤ data.length := Nat.sub_le _ _
  refine ⟨?_, _, _, takenPayload_in_place data, ?_⟩
  · apply List.ne_nil_of_length_pos
    show 0 < (takenPayload data).length
    omega
  · rw [List.length_take, ← Rtp.csrcEnd]
    omega

end RtpAudioExtractor
end Transcription
end MediaServer
