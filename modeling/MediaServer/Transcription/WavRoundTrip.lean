import MediaServer.Foundation.Riff
import MediaServer.Transcription.Wav

/-!
# Reading a WAV file back

What `create_wav` puts out is a WAVE file with a chunk `fmt ` and a chunk `data`, so a
reader of such files takes it and reports what it was made from.

The product of the header's byte rate is taken in two steps.  Only without channels can
the first one wrap when the bounds of the fields hold.
-/

namespace MediaServer
namespace Transcription

open Foundation

namespace Wav

theorem riff_ascii : ascii "RIFF" = Riff.riffId := by decide

theorem wave_ascii : ascii "WAVE" = Riff.waveId := by decide

theorem format_ascii : ascii "fmt " = Riff.formatId := by decide

theorem data_ascii : ascii "data" = Riff.dataId := by decide

/-- The format that `create_wav` announces. -/
def format (sampleRate : UInt32) (channels : UInt16) : Riff.Format where
  tag := 1
  channels := channels.toNat
  sampleRate := sampleRate.toNat
  byteRate := sampleRate.toNat * 2 * channels.toNat
  blockAlign := 2 * channels.toNat
  bitsPerSample := 16

section Bounds

variable {pcm : Pcm} {sampleRate : UInt32} {channels : UInt16}

/-- What `create_wav` puts out is a WAVE file. -/
theorem createWav_eq (hpcm : 36 + 2 * pcm.length < 2 ^ 32)
    (hrate : 2 * sampleRate.toNat * channels.toNat < 2 ^ 32)
    (hchannels : 2 * channels.toNat < 2 ^ 16) :
    createWav pcm sampleRate channels =
      (Riff.waveForm (format sampleRate channels) pcm hpcm).bytes := by
  have hsize := Riff.size_waveForm (format sampleRate channels) pcm hpcm
  have hformat : (format sampleRate channels).bytes =
      leBytes 2 1 ++ leBytes 2 channels.toNat ++ leBytes 4 sampleRate.toNat ++
        leBytes 4 (sampleRate.toNat * 2 * channels.toNat) ++ leBytes 2 (2 * channels.toNat) ++
        leBytes 2 16 := by
    simp [Riff.Format.bytes, Riff.Format.fields, Riff.fieldBytes, format]
  have hsamples : (pcm.flatMap fun sample => leBytes 2 sample.toUInt16.toNat) =
      Samples.bytesOf pcm := rfl
  have heven : 2 * pcm.length % 2 = 0 := Nat.mul_mod_right 2 _
  rw [Nat.mul_comm 2 pcm.length] at hpcm
  rw [Nat.mul_comm 2 sampleRate.toNat] at hrate
  rw [createWav, toNat_totalLen hpcm, toNat_byteRate hrate, toNat_blockAlign hchannels,
    toNat_dataLen hpcm, hsamples, Riff.Form.bytes, hsize, Nat.mul_comm pcm.length 2]
  simp only [Riff.waveForm, Riff.chunkBytes, Riff.Chunk.bytes, List.flatMap_cons,
    List.flatMap_nil, Riff.Format.length_bytes, Samples.length_bytesOf, heven]
  rw [hformat, riff_ascii, wave_ascii, format_ascii, data_ascii]
  simp only [List.append_assoc, List.append_nil, List.replicate_zero]
  rfl

/-- A reader of WAVE files takes what `create_wav` puts out, and reports the sample rate,
the channels and the samples it was given; its sizes and rates agree with each other and
with the file.  The header is computed without a wrap unless the rate has its highest
bit, which is only possible without channels. -/
theorem readWave_createWav (hpcm : 36 + 2 * pcm.length < 2 ^ 32)
    (hrate : 2 * sampleRate.toNat * channels.toNat < 2 ^ 32)
    (hchannels : 2 * channels.toNat < 2 ^ 16) :
    ∃ wave, Riff.readWave (createWav pcm sampleRate channels) = some wave ∧
      wave.format.tag = 1 ∧ wave.format.bitsPerSample = 16 ∧
      wave.format.channels = channels.toNat ∧ wave.format.sampleRate = sampleRate.toNat ∧
      wave.format.blockAlign = 2 * wave.format.channels ∧
      wave.format.byteRate = wave.format.sampleRate * wave.format.blockAlign ∧
      wave.riffSize = (createWav pcm sampleRate channels).length - 8 ∧
      wave.dataSize = (createWav pcm sampleRate channels).length - 44 ∧
      wave.samples = pcm ∧
      (Exact pcm sampleRate channels ↔ 2 * sampleRate.toNat < 2 ^ 32) := by
  have hfits : ∀ field ∈ (format sampleRate channels).fields, field.2 < 256 ^ field.1 := by
    intro field hmem
    simp only [Riff.Format.fields, format, List.mem_cons, List.not_mem_nil, or_false] at hmem
    rcases hmem with rfl | rfl | rfl | rfl | rfl | rfl
    · decide
    · exact channels.toNat_lt
    · exact sampleRate.toNat_lt
    · rw [Nat.mul_comm sampleRate.toNat 2]
      exact hrate
    · exact hchannels
    · decide
  have hread : Riff.readWave (createWav pcm sampleRate channels) =
      some ⟨36 + 2 * pcm.length, format sampleRate channels, 2 * pcm.length, pcm⟩ := by
    rw [createWav_eq hpcm hrate hchannels]
    exact Riff.readWave_waveForm hpcm hfits rfl rfl
  have hlength : (createWav pcm sampleRate channels).length = 8 + (36 + 2 * pcm.length) := by
    rw [createWav_eq hpcm hrate hchannels, Riff.Form.length_bytes, Riff.size_waveForm]
  refine ⟨_, hread, rfl, rfl, rfl, rfl, rfl, Nat.mul_assoc _ _ _, ?_, ?_, rfl, ?_⟩
  · rw [hlength]
    exact (Nat.add_sub_cancel_left 8 _).symm
  · rw [hlength]
    show 2 * pcm.length = 8 + (36 + 2 * pcm.length) - 44
    omega
  · constructor
    · intro hexact
      have hsecond := (sampleRate * 2).toNat_lt
      rwa [hexact.bytesPerSecond, Nat.mul_comm] at hsecond
    · intro hsecond
      rw [Nat.mul_comm] at hsecond
      rw [Nat.mul_comm 2 pcm.length] at hpcm
      rw [Nat.mul_comm 2 sampleRate.toNat] at hrate
      exact exact_of_lt hpcm hsecond hrate hchannels

/-- Two samples, one of them negative, in stereo. -/
theorem readWave_createWav_stereo :
    ∃ wave, Riff.readWave (createWav [-2, 513] 16000 2) = some wave ∧
      wave.samples = [-2, 513] ∧ wave.format.byteRate = 64000 ∧ Exact [-2, 513] 16000 2 := by
  obtain ⟨wave, hread, -, -, hchannels, hrate, halign, hbyteRate, -, -, hsamples, hexact⟩ :=
    readWave_createWav (show 36 + 2 * ([-2, 513] : Pcm).length < 2 ^ 32 by decide)
      (show 2 * (16000 : UInt32).toNat * (2 : UInt16).toNat < 2 ^ 32 by decide)
      (show 2 * (2 : UInt16).toNat < 2 ^ 16 by decide)
  refine ⟨wave, hread, hsamples, ?_, hexact.mpr (by decide)⟩
  rw [hbyteRate, halign, hrate, hchannels]
  decide

/-- Without channels the byte rate is 0 for every sample rate, and still its first product
wraps. -/
theorem byteRate_wraps :
    36 + 2 * ([] : Pcm).length < 2 ^ 32 ∧
      2 * (2147483648 : UInt32).toNat * (0 : UInt16).toNat < 2 ^ 32 ∧
      2 * (0 : UInt16).toNat < 2 ^ 16 ∧ ¬ Exact [] 2147483648 0 := by
  refine ⟨by decide, by decide, by decide, ?_⟩
  intro hexact
  exact absurd hexact.bytesPerSecond (by decide)

end Bounds

end Wav
end Transcription
end MediaServer
