import Mathlib.Tactic.Ring
import MediaServer.Transcription.Manager

/-!
# Decoding and resampling

`transcription/decoder.rs`: an Opus packet becomes samples at 48 kHz, and these become
samples at 16 kHz in blocks of a fixed size.  What does not fill a block waits for the
next packet.

The Opus decoder, the FFT resampler and the conversions between `i16` and `f32` are
a parameter, `DecoderLibrary`.  Memory for the decoded samples (`decode_buffer`) is
not kept: a packet overwrites what it reads of it.
-/

namespace MediaServer
namespace Transcription

open Foundation

/-- The libraries under the decoder, with Opus decoders of type `ω`, FFT resamplers of
type `ρ` and samples of type `φ` for `f32`. -/
structure DecoderLibrary (ω ρ φ : Type) where
  /-- `OpusDecoder::new` -/
  opus : ω
  /-- `Packet::try_from` and `OpusDecoder::decode`: the samples written to the buffer -/
  decode : ω → Bytes → Except String Pcm × ω
  /-- `FftFixedIn::new` -/
  fft : ρ
  /-- `FftFixedIn::process` on its one channel -/
  process : ρ → List φ → Except String (List φ) × ρ
  /-- `FftFixedIn::reset` -/
  reset : ρ → ρ
  /-- `sample as f32 / 32768.0` -/
  toFloat : Int16 → φ
  /-- `(sample.clamp(-1.0, 1.0) * 32767.0) as i16` -/
  ofFloat : φ → Int16
  /-- `0.0` -/
  zero : φ

/-- Audio resampler that converts 48kHz audio to 16kHz. -/
structure AudioResampler (ρ φ : Type) where
  resampler : ρ
  inputBuffer : List φ
  chunkSize : Nat
  /-- there is no resampler of empty chunks -/
  chunkSize_pos : 0 < chunkSize

variable {ω ρ φ : Type}

namespace AudioResampler

/-- A resampler with a custom chunk size. -/
def withChunkSize (library : DecoderLibrary ω ρ φ) (chunkSize : Nat) (hpos : 0 < chunkSize) :
    AudioResampler ρ φ where
  resampler := library.fft
  inputBuffer := []
  chunkSize := chunkSize
  chunkSize_pos := hpos

/-- A resampler from 48kHz to 16kHz, 20ms at a time. -/
def new (library : DecoderLibrary ω ρ φ) : AudioResampler ρ φ :=
  withChunkSize library 960 (by omega)

/-- The loop over the complete chunks of the buffer, which takes at most `rounds` of
them: the samples put out, the resampler and the rest of the buffer.  An error ends the
loop, and with it goes what was put out before. -/
def processChunks (library : DecoderLibrary ω ρ φ) (chunkSize : Nat) :
    Nat → ρ → List φ → Pcm → Except String Pcm × ρ × List φ
  | 0, resampler, buffer, output => (.ok output, resampler, buffer)
  | rounds + 1, resampler, buffer, output =>
      if chunkSize ≤ buffer.length then
        match library.process resampler (buffer.take chunkSize) with
        | (.error reason, next) => (.error reason, next, buffer.drop chunkSize)
        | (.ok resampled, next) =>
            processChunks library chunkSize rounds next (buffer.drop chunkSize)
              (output ++ resampled.map library.ofFloat)
      else (.ok output, resampler, buffer)

/-- Resample audio from 48kHz to 16kHz. -/
def resample (library : DecoderLibrary ω ρ φ) (resampler : AudioResampler ρ φ) (input : Pcm) :
    Except String Pcm × AudioResampler ρ φ :=
  let buffer := resampler.inputBuffer ++ input.map library.toFloat
  -- a round takes at least one sample
  let (output, next, rest) :=
    processChunks library resampler.chunkSize buffer.length resampler.resampler buffer []
  (output, { resampler with resampler := next, inputBuffer := rest })

/-- Flush any remaining samples in the buffer, padded with zeros to a chunk. -/
def flush (library : DecoderLibrary ω ρ φ) (resampler : AudioResampler ρ φ) :
    Except String Pcm × AudioResampler ρ φ :=
  if resampler.inputBuffer = [] then (.ok [], resampler)
  else
    let padding := List.replicate (resampler.chunkSize - resampler.inputBuffer.length) library.zero
    let (output, next) :=
      library.process resampler.resampler (resampler.inputBuffer ++ padding)
    (output.map fun resampled => resampled.map library.ofFloat,
      { resampler with resampler := next, inputBuffer := [] })

/-- Reset the resampler state. -/
def reset (library : DecoderLibrary ω ρ φ) (resampler : AudioResampler ρ φ) :
    AudioResampler ρ φ :=
  { resampler with resampler := library.reset resampler.resampler, inputBuffer := [] }

end AudioResampler

/-- Audio decoder that decodes OPUS packets and resamples to 16kHz. -/
structure AudioDecoder (ω ρ φ : Type) where
  decoder : ω
  resampler : AudioResampler ρ φ

namespace AudioDecoder

def new (library : DecoderLibrary ω ρ φ) : AudioDecoder ω ρ φ where
  decoder := library.opus
  resampler := .new library

/-- Decode an OPUS packet and resample to 16kHz. -/
def decode (library : DecoderLibrary ω ρ φ) (decoder : AudioDecoder ω ρ φ) (opusData : Bytes) :
    Except String Pcm × AudioDecoder ω ρ φ :=
  match library.decode decoder.decoder opusData with
  | (.error reason, next) => (.error reason, { decoder with decoder := next })
  | (.ok samples, next) =>
      let (resampled, resampler) := decoder.resampler.resample library samples
      (resampled, { decoder := next, resampler := resampler })

/-- The decoder as the session of a stream uses it. -/
def codec (library : DecoderLibrary ω ρ φ) : Codec (AudioDecoder ω ρ φ) where
  new := new library
  decode := decode library

end AudioDecoder

/-! ## How much comes out -/

/-- What the decoder relies on: a packet holds at most 120ms, and a chunk of 20ms at
48kHz is resampled to one of 20ms at 16kHz. -/
structure DecoderLibrary.Conforms (library : DecoderLibrary ω ρ φ) : Prop where
  decode : ∀ state opusData samples next,
    library.decode state opusData = (.ok samples, next) → samples.length ≤ 5760
  process : ∀ state chunk, chunk.length = 960 →
    ∃ resampled next, library.process state chunk = (.ok resampled, next) ∧ resampled.length = 320

variable {library : DecoderLibrary ω ρ φ}

namespace AudioResampler

/-- The loop takes all complete chunks, if it may take so many rounds. -/
theorem processChunks_length {chunkSize produced : Nat} (hpos : 0 < chunkSize)
    (hprocess : ∀ state chunk, chunk.length = chunkSize → ∃ resampled next,
      library.process state chunk = (.ok resampled, next) ∧ resampled.length = produced)
    (rounds : Nat) (resampler : ρ) (buffer : List φ) (output : Pcm)
    (hrounds : buffer.length / chunkSize ≤ rounds) :
    ∃ pcm next rest,
      processChunks library chunkSize rounds resampler buffer output = (.ok pcm, next, rest) ∧
      pcm.length = output.length + produced * (buffer.length / chunkSize) ∧
      rest.length = buffer.length % chunkSize := by
  induction rounds generalizing resampler buffer output with
  | zero =>
      have hshort : buffer.length < chunkSize :=
        (Nat.div_eq_zero_iff_lt hpos).mp (Nat.le_zero.mp hrounds)
      refine ⟨output, resampler, buffer, rfl, ?_, (Nat.mod_eq_of_lt hshort).symm⟩
      rw [Nat.div_eq_of_lt hshort, Nat.mul_zero, Nat.add_zero]
  | succ rounds ih =>
      by_cases hfull : chunkSize ≤ buffer.length
      · obtain ⟨resampled, next, hstep, hlength⟩ :=
          hprocess resampler (buffer.take chunkSize) (List.length_take_of_le hfull)
        have hdrop : (buffer.drop chunkSize).length = buffer.length - chunkSize :=
          List.length_drop
        have hdiv : buffer.length / chunkSize = (buffer.length - chunkSize) / chunkSize + 1 := by
          rw [Nat.div_eq, if_pos ⟨hpos, hfull⟩]
        have hmod : (buffer.length - chunkSize) % chunkSize = buffer.length % chunkSize :=
          (Nat.mod_eq_sub_mod hfull).symm
        have hfewer : (buffer.drop chunkSize).length / chunkSize ≤ rounds := by
          rw [hdrop]
          rw [hdiv] at hrounds
          exact Nat.le_of_succ_le_succ hrounds
        obtain ⟨pcm, last, rest, hrest, hpcm, hresidue⟩ :=
          ih next (buffer.drop chunkSize) (output ++ resampled.map library.ofFloat) hfewer
        refine ⟨pcm, last, rest, ?_, ?_, ?_⟩
        · rw [processChunks, if_pos hfull, hstep]
          exact hrest
        · rw [hpcm, List.length_append, List.length_map, hlength, hdrop, hdiv]
          ring
        · rw [hresidue, hdrop, hmod]
      · have hshort : buffer.length < chunkSize := Nat.lt_of_not_le hfull
        refine ⟨output, resampler, buffer, ?_, ?_, (Nat.mod_eq_of_lt hshort).symm⟩
        · rw [processChunks, if_neg hfull]
        · rw [Nat.div_eq_of_lt hshort, Nat.mul_zero, Nat.add_zero]

/-- A resampler as `new` makes it, between two calls. -/
structure Settled (resampler : AudioResampler ρ φ) : Prop where
  chunkSize : resampler.chunkSize = 960
  residual : resampler.inputBuffer.length < 960

theorem settled_new (library : DecoderLibrary ω ρ φ) : (new library).Settled :=
  ⟨rfl, by simp [new, withChunkSize]⟩

/-- A settled resampler turns a packet into at most six blocks of 320 samples. -/
theorem resample_settled (hconforms : library.Conforms) {resampler : AudioResampler ρ φ}
    (hsettled : resampler.Settled) {input : Pcm} (hinput : input.length ≤ 5760) :
    ∃ pcm next, resampler.resample library input = (.ok pcm, next) ∧ 320 ∣ pcm.length ∧
      pcm.length ≤ 1920 ∧ next.Settled := by
  obtain ⟨state, residual, chunkSize, hpos⟩ := resampler
  obtain ⟨rfl, hresidual⟩ := hsettled
  dsimp only at hresidual
  have hbuffer : (residual ++ input.map library.toFloat).length =
      residual.length + input.length := by
    rw [List.length_append, List.length_map]
  obtain ⟨pcm, next, rest, hloop, hpcm, hrest⟩ :=
    processChunks_length hpos hconforms.process (residual ++ input.map library.toFloat).length
      state (residual ++ input.map library.toFloat) [] (Nat.div_le_self _ _)
  rw [List.length_nil, Nat.zero_add, hbuffer] at hpcm
  refine ⟨pcm, ⟨next, rest, 960, hpos⟩, ?_, ⟨_, hpcm⟩, ?_, rfl, ?_⟩
  · simp only [resample, hloop]
  · rw [hpcm]
    omega
  · show rest.length < 960
    rw [hrest]
    exact Nat.mod_lt _ hpos

end AudioResampler

namespace AudioDecoder

theorem resampler_new (library : DecoderLibrary ω ρ φ) : (new library).resampler.Settled :=
  AudioResampler.settled_new library

/-- A decoder stays settled, and what it makes of a packet is at most six blocks of 320
samples. -/
theorem decode_settled (hconforms : library.Conforms) {decoder : AudioDecoder ω ρ φ}
    (hsettled : decoder.resampler.Settled) (opusData : Bytes) :
    (decoder.decode library opusData).2.resampler.Settled ∧
      ∀ pcm, (decoder.decode library opusData).1 = .ok pcm →
        320 ∣ pcm.length ∧ pcm.length ≤ 1920 := by
  unfold decode
  split
  · exact ⟨hsettled, by simp⟩
  · rename_i samples next hdecode
    obtain ⟨pcm, resampler, hresample, hdvd, hle, hnext⟩ :=
      AudioResampler.resample_settled hconforms hsettled (hconforms.decode _ _ _ _ hdecode)
    simp only [hresample]
    refine ⟨hnext, fun output houtput => ?_⟩
    obtain rfl : pcm = output := Except.ok.inj houtput
    exact ⟨hdvd, hle⟩

end AudioDecoder
end Transcription
end MediaServer
