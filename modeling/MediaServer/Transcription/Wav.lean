import MediaServer.Foundation.ByteOrder
import MediaServer.Transcription.Command

/-!
# WAV files

`create_wav` of `backends/openai.rs`.  The numbers of the header are computed with
fixed-width arithmetic, which wraps; `Exact` says that none of it does.
-/

namespace MediaServer
namespace Transcription

open Foundation

namespace Wav

/-- `b"..."` -/
def ascii (text : String) : Bytes := text.toList.map fun char => UInt8.ofNat char.toNat

/-- `(pcm.len() * 2) as u32` -/
def dataLen (pcm : Pcm) : UInt32 := UInt32.ofNat (pcm.length * 2)

/-- `36 + data_len` -/
def totalLen (pcm : Pcm) : UInt32 := 36 + dataLen pcm

/-- `sample_rate * 2 * channels as u32` -/
def byteRate (sampleRate : UInt32) (channels : UInt16) : UInt32 :=
  sampleRate * 2 * channels.toUInt32

/-- `2 * channels` -/
def blockAlign (channels : UInt16) : UInt16 := 2 * channels

/-- `create_wav` -/
def createWav (pcm : Pcm) (sampleRate : UInt32) (channels : UInt16) : Bytes :=
  -- RIFF header
  ascii "RIFF" ++ leBytes 4 (totalLen pcm).toNat ++ ascii "WAVE" ++
  -- fmt chunk: its size, PCM, the format
  ascii "fmt " ++ leBytes 4 16 ++ leBytes 2 1 ++ leBytes 2 channels.toNat ++
  leBytes 4 sampleRate.toNat ++ leBytes 4 (byteRate sampleRate channels).toNat ++
  leBytes 2 (blockAlign channels).toNat ++ leBytes 2 16 ++
  -- data chunk
  ascii "data" ++ leBytes 4 (dataLen pcm).toNat ++
  pcm.flatMap fun sample => leBytes 2 sample.toUInt16.toNat

/-- Every number computed for the header is the one it stands for. -/
structure Exact (pcm : Pcm) (sampleRate : UInt32) (channels : UInt16) : Prop where
  dataLen : (dataLen pcm).toNat = pcm.length * 2
  totalLen : (totalLen pcm).toNat = 36 + pcm.length * 2
  bytesPerSecond : (sampleRate * 2).toNat = sampleRate.toNat * 2
  byteRate : (byteRate sampleRate channels).toNat = sampleRate.toNat * 2 * channels.toNat
  blockAlign : (blockAlign channels).toNat = 2 * channels.toNat

section Bounds

variable {pcm : Pcm} {sampleRate : UInt32} {channels : UInt16}

theorem toNat_dataLen (hpcm : 36 + pcm.length * 2 < 2 ^ 32) :
    (dataLen pcm).toNat = pcm.length * 2 := by
  rw [dataLen, UInt32.toNat_ofNat']
  exact Nat.mod_eq_of_lt (by omega)

theorem toNat_totalLen (hpcm : 36 + pcm.length * 2 < 2 ^ 32) :
    (totalLen pcm).toNat = 36 + pcm.length * 2 := by
  rw [totalLen, UInt32.toNat_add, toNat_dataLen hpcm]
  exact Nat.mod_eq_of_lt hpcm

/-- A wrap in the first product does not show in the second. -/
theorem toNat_byteRate (hrate : sampleRate.toNat * 2 * channels.toNat < 2 ^ 32) :
    (byteRate sampleRate channels).toNat = sampleRate.toNat * 2 * channels.toNat := by
  have htwo : (2 : UInt32).toNat = 2 := rfl
  rw [byteRate, UInt32.toNat_mul, UInt32.toNat_mul, UInt16.toNat_toUInt32, htwo, Nat.mod_mul_mod]
  exact Nat.mod_eq_of_lt hrate

theorem toNat_blockAlign (hchannels : 2 * channels.toNat < 2 ^ 16) :
    (blockAlign channels).toNat = 2 * channels.toNat := by
  rw [blockAlign, UInt16.toNat_mul]
  exact Nat.mod_eq_of_lt hchannels

/-- The bounds under which nothing wraps. -/
theorem exact_of_lt (hpcm : 36 + pcm.length * 2 < 2 ^ 32) (hsecond : sampleRate.toNat * 2 < 2 ^ 32)
    (hrate : sampleRate.toNat * 2 * channels.toNat < 2 ^ 32)
    (hchannels : 2 * channels.toNat < 2 ^ 16) : Exact pcm sampleRate channels where
  dataLen := toNat_dataLen hpcm
  totalLen := toNat_totalLen hpcm
  bytesPerSecond := by
    rw [UInt32.toNat_mul]
    exact Nat.mod_eq_of_lt hsecond
  byteRate := toNat_byteRate hrate
  blockAlign := toNat_blockAlign hchannels

end Bounds

end Wav
end Transcription
end MediaServer
