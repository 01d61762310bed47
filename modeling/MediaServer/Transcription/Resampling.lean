import MediaServer.Foundation.Blocks
import MediaServer.Transcription.Decoder

/-!
# Resampling block by block

However a stream of samples is cut into inputs, the resampler puts out the same samples
and ends in the same state.  `Fed` says what it has done with the samples it was given:
it has processed the complete chunks of all of them in order, and keeps the residue.
The loop of one call is `Blocks.absorb` on the chunks of the residue and the input.
-/

namespace MediaServer
namespace Transcription

open Foundation

variable {ω ρ φ : Type} {library : DecoderLibrary ω ρ φ}

/-- A chunk through the FFT resampler and back to `i16`. -/
def DecoderLibrary.processPcm (library : DecoderLibrary ω ρ φ) (state : ρ) (chunk : List φ) :
    Except String Pcm × ρ :=
  ((library.process state chunk).1.map fun resampled => resampled.map library.ofFloat,
    (library.process state chunk).2)

/-- The FFT resampler succeeds on chunks of a size. -/
def DecoderLibrary.SucceedsOn (library : DecoderLibrary ω ρ φ) (chunkSize : Nat) : Prop :=
  ∀ state chunk, chunk.length = chunkSize →
    ∃ resampled next, library.process state chunk = (.ok resampled, next)

namespace AudioResampler

/-- The loop processes the complete chunks and leaves the residue. -/
theorem processChunks_absorb {chunkSize : Nat} (hpos : 0 < chunkSize) {rounds : Nat}
    {state next : ρ} {buffer : List φ} {pcm : Pcm}
    (habsorb : Blocks.absorb library.processPcm state (Blocks.complete chunkSize buffer) =
      (.ok pcm, next)) (hrounds : buffer.length / chunkSize ≤ rounds) (output : Pcm) :
    processChunks library chunkSize rounds state buffer output =
      (.ok (output ++ pcm), next, Blocks.residue chunkSize buffer) := by
  induction rounds generalizing state buffer output pcm with
  | zero =>
      have hshort : buffer.length < chunkSize :=
        (Nat.div_eq_zero_iff_lt hpos).mp (Nat.le_zero.mp hrounds)
      rw [Blocks.complete_of_lt hshort] at habsorb
      obtain ⟨hpcm, rfl⟩ := Prod.mk.inj habsorb
      obtain rfl := Except.ok.inj hpcm
      rw [processChunks, Blocks.residue_of_lt hshort, List.append_nil]
  | succ rounds ih =>
      by_cases hlong : chunkSize ≤ buffer.length
      · have hfewer : (buffer.drop chunkSize).length / chunkSize ≤ rounds := by
          rw [Nat.div_eq, if_pos ⟨hpos, hlong⟩] at hrounds
          rw [List.length_drop]
          omega
        rw [Blocks.complete_of_le hpos hlong, Blocks.absorb,
          DecoderLibrary.processPcm] at habsorb
        rw [processChunks, if_pos hlong, Blocks.residue_of_le hpos hlong]
        rcases hprocess : library.process state (buffer.take chunkSize) with ⟨result, middle⟩
        rw [hprocess] at habsorb
        cases result with
        | error reason => simp [Except.map] at habsorb
        | ok resampled =>
            simp only [Except.map] at habsorb
            split at habsorb
            · simp at habsorb
            · rename_i rest last hrest
              obtain ⟨hpcm, rfl⟩ := Prod.mk.inj habsorb
              obtain rfl := Except.ok.inj hpcm
              dsimp only
              rw [ih hrest hfewer, List.append_assoc]
      · have hshort : buffer.length < chunkSize := Nat.lt_of_not_le hlong
        rw [Blocks.complete_of_lt hshort] at habsorb
        obtain ⟨hpcm, rfl⟩ := Prod.mk.inj habsorb
        obtain rfl := Except.ok.inj hpcm
        rw [processChunks, if_neg hlong, Blocks.residue_of_lt hshort, List.append_nil]

/-- What a resampler has done with the samples it was given: the complete chunks were
processed in order, and the residue is kept. -/
structure Fed (library : DecoderLibrary ω ρ φ) (chunkSize : Nat) (samples output : Pcm)
    (resampler : AudioResampler ρ φ) : Prop where
  size : resampler.chunkSize = chunkSize
  processed : Blocks.absorb library.processPcm library.fft
    (Blocks.complete chunkSize (samples.map library.toFloat)) = (.ok output, resampler.resampler)
  kept : resampler.inputBuffer = Blocks.residue chunkSize (samples.map library.toFloat)

section Feed

variable {chunkSize : Nat} {samples output input : Pcm} {resampler : AudioResampler ρ φ}

theorem fed_new (hpos : 0 < chunkSize) :
    Fed library chunkSize [] [] (withChunkSize library chunkSize hpos) := by
  have hshort : (([] : Pcm).map library.toFloat).length < chunkSize := hpos
  refine ⟨rfl, ?_, ?_⟩
  · rw [Blocks.complete_of_lt hshort]
    rfl
  · rw [Blocks.residue_of_lt hshort]
    rfl

/-- Fewer samples than a chunk are kept. -/
theorem Fed.length_inputBuffer (hfed : Fed library chunkSize samples output resampler) :
    resampler.inputBuffer.length = samples.length % chunkSize := by
  rw [hfed.kept, Blocks.length_residue, List.length_map]

/-- What was put out and what is left follow from the samples. -/
theorem Fed.unique {other : Pcm} {last : AudioResampler ρ φ}
    (hfed : Fed library chunkSize samples output resampler)
    (hlast : Fed library chunkSize samples other last) : output = other ∧ resampler = last := by
  obtain ⟨hsize, hprocessed, hkept⟩ := hfed
  obtain ⟨hsame, hagain, hrest⟩ := hlast
  obtain ⟨houtput, hstate⟩ := Prod.mk.inj (hprocessed.symm.trans hagain)
  refine ⟨Except.ok.inj houtput, ?_⟩
  obtain ⟨state, buffer, size, hpos⟩ := resampler
  obtain ⟨state', buffer', size', hpos'⟩ := last
  dsimp only at hsize hsame hkept hrest hstate
  subst hsize hsame hkept hrest hstate
  rfl

/-- A further call processes the chunks that are complete then. -/
theorem Fed.resample (hsucceeds : library.SucceedsOn chunkSize)
    (hfed : Fed library chunkSize samples output resampler) (input : Pcm) :
    ∃ pcm next, resampler.resample library input = (.ok pcm, next) ∧
      Fed library chunkSize (samples ++ input) (output ++ pcm) next := by
  obtain ⟨state, buffer, size, hpos⟩ := resampler
  obtain ⟨rfl, hprocessed, hkept⟩ := hfed
  dsimp only at hsucceeds hprocessed hkept
  have hprocess : ∀ state, ∀ chunk ∈ Blocks.complete size (buffer ++ input.map library.toFloat),
      ∃ pcm next, library.processPcm state chunk = (.ok pcm, next) := by
    intro state chunk hmem
    obtain ⟨resampled, next, hstep⟩ := hsucceeds state chunk (Blocks.length_of_mem_complete hmem)
    exact ⟨_, next, by rw [DecoderLibrary.processPcm, hstep]; rfl⟩
  obtain ⟨pcm, next, habsorb⟩ := Blocks.absorb_succeeds hprocess state
  have hloop := processChunks_absorb hpos habsorb (Nat.div_le_self _ size) []
  refine ⟨pcm, ⟨next, Blocks.residue size (buffer ++ input.map library.toFloat), size, hpos⟩,
    ?_, rfl, ?_, ?_⟩
  · simp only [AudioResampler.resample, hloop, List.nil_append]
  · rw [List.map_append, Blocks.complete_append hpos, ← hkept]
    exact Blocks.absorb_append hprocessed habsorb
  · show Blocks.residue size (buffer ++ input.map library.toFloat) = _
    rw [List.map_append, Blocks.residue_append hpos (samples.map library.toFloat), ← hkept]

/-- Inputs one after the other: what the calls return and the resampler after them. -/
def feed (library : DecoderLibrary ω ρ φ) (resampler : AudioResampler ρ φ) :
    List Pcm → List (Except String Pcm) × AudioResampler ρ φ
  | [] => ([], resampler)
  | input :: rest =>
      let (output, next) := resampler.resample library input
      let (outputs, last) := next.feed library rest
      (output :: outputs, last)

theorem Fed.feed (hsucceeds : library.SucceedsOn chunkSize)
    (hfed : Fed library chunkSize samples output resampler) (inputs : List Pcm) :
    ∃ (outputs : List Pcm) (final : AudioResampler ρ φ),
      resampler.feed library inputs = (outputs.map .ok, final) ∧
      Fed library chunkSize (samples ++ inputs.flatten) (output ++ outputs.flatten) final := by
  induction inputs generalizing samples output resampler with
  | nil => exact ⟨[], resampler, rfl, by simpa using hfed⟩
  | cons input rest ih =>
      obtain ⟨pcm, next, hresample, hnext⟩ := hfed.resample hsucceeds input
      obtain ⟨outputs, final, hrest, hfinal⟩ := ih hnext
      refine ⟨pcm :: outputs, final, ?_, ?_⟩
      · rw [AudioResampler.feed, hresample]
        dsimp only
        rw [hrest, List.map_cons]
      · rw [List.flatten_cons, List.flatten_cons, ← List.append_assoc, ← List.append_assoc]
        exact hfinal

/-- A flush processes what is left, padded to a chunk, if anything is left. -/
theorem Fed.flush (hsucceeds : library.SucceedsOn chunkSize) (hpos : 0 < chunkSize)
    (hfed : Fed library chunkSize samples output resampler) :
    (chunkSize ∣ samples.length →
      resampler.inputBuffer = [] ∧ resampler.flush library = (.ok [], resampler)) ∧
    (¬ chunkSize ∣ samples.length → ∃ padded resampled next,
      padded = resampler.inputBuffer ++
        List.replicate (chunkSize - resampler.inputBuffer.length) library.zero ∧
      padded.length = chunkSize ∧
      library.process resampler.resampler padded = (.ok resampled, next) ∧
      resampler.flush library = (.ok (resampled.map library.ofFloat),
        { resampler with resampler := next, inputBuffer := [] })) := by
  have hlength := hfed.length_inputBuffer
  constructor
  · intro hdvd
    have hempty : resampler.inputBuffer = [] := by
      rw [← List.length_eq_zero_iff, hlength, Nat.mod_eq_zero_of_dvd hdvd]
    refine ⟨hempty, ?_⟩
    rw [AudioResampler.flush, if_pos hempty]
  · intro hdvd
    have hrest : 0 < resampler.inputBuffer.length := by
      rw [hlength]
      exact Nat.pos_of_ne_zero fun hzero => hdvd (Nat.dvd_of_mod_eq_zero hzero)
    have hpadded : (resampler.inputBuffer ++
        List.replicate (chunkSize - resampler.inputBuffer.length) library.zero).length =
          chunkSize := by
      have hlt : samples.length % chunkSize < chunkSize := Nat.mod_lt _ hpos
      rw [List.length_append, List.length_replicate]
      omega
    obtain ⟨resampled, next, hprocess⟩ := hsucceeds resampler.resampler _ hpadded
    refine ⟨_, resampled, next, rfl, hpadded, hprocess, ?_⟩
    rw [AudioResampler.flush, if_neg (List.ne_nil_of_length_pos hrest)]
    simp only [hfed.size, hprocess, Except.map]

/-- For every chunk size and every way of cutting samples into inputs: the outputs
together and the state at the end are those of one call.  Fewer samples than a chunk are
kept then; the chunks processed are as many as are complete, of the size and consecutive
in the samples; and a flush processes one more, padded with zeros, exactly if samples
are left, of which it leaves none. -/
theorem resample_independent_of_cut {chunkSize : Nat} (hpos : 0 < chunkSize)
    (hsucceeds : library.SucceedsOn chunkSize) (inputs : List Pcm) :
    ∃ (outputs : List Pcm) (final : AudioResampler ρ φ),
      (withChunkSize library chunkSize hpos).feed library inputs = (outputs.map .ok, final) ∧
      (withChunkSize library chunkSize hpos).resample library inputs.flatten =
        (.ok outputs.flatten, final) ∧
      final.inputBuffer.length < chunkSize ∧
      (∃ chunks : List (List φ), chunks.length = inputs.flatten.length / chunkSize ∧
        (∀ chunk ∈ chunks, chunk.length = chunkSize) ∧
        chunks.flatten ++ final.inputBuffer = inputs.flatten.map library.toFloat ∧
        Blocks.absorb library.processPcm library.fft chunks =
          (.ok outputs.flatten, final.resampler)) ∧
      (chunkSize ∣ inputs.flatten.length →
        final.inputBuffer = [] ∧ final.flush library = (.ok [], final)) ∧
      (¬ chunkSize ∣ inputs.flatten.length → ∃ padded resampled next,
        padded = final.inputBuffer ++
          List.replicate (chunkSize - final.inputBuffer.length) library.zero ∧
        padded.length = chunkSize ∧
        library.process final.resampler padded = (.ok resampled, next) ∧
        final.flush library = (.ok (resampled.map library.ofFloat),
          { final with resampler := next, inputBuffer := [] })) := by
  have hnew : Fed library chunkSize [] [] (withChunkSize library chunkSize hpos) := fed_new hpos
  obtain ⟨outputs, final, hfeed, hfinal⟩ := hnew.feed hsucceeds inputs
  obtain ⟨pcm, last, hresample, hlast⟩ := hnew.resample hsucceeds inputs.flatten
  rw [List.nil_append, List.nil_append] at hfinal hlast
  obtain ⟨rfl, rfl⟩ := hfinal.unique hlast
  refine ⟨outputs, final, hfeed, hresample, ?_, ?_, hfinal.flush hsucceeds hpos⟩
  · rw [hfinal.length_inputBuffer]
    exact Nat.mod_lt _ hpos
  · refine ⟨Blocks.complete chunkSize (inputs.flatten.map library.toFloat), ?_,
      fun chunk hmem => Blocks.length_of_mem_complete hmem, ?_, hfinal.processed⟩
    · rw [Blocks.length_complete, List.length_map]
    · rw [hfinal.kept]
      exact Blocks.flatten_complete hpos _

end Feed

/-- Libraries whose resampler counts chunks and keeps the first sample of each, for
concrete runs. -/
def countingLibrary : DecoderLibrary Unit Nat Int16 where
  opus := ()
  decode := fun _ _ => (.ok [], ())
  fft := 0
  process := fun count chunk => (.ok (chunk.take 1), count + 1)
  reset := fun _ => 0
  toFloat := id
  ofFloat := id
  zero := 0

theorem countingLibrary_succeedsOn (chunkSize : Nat) : countingLibrary.SucceedsOn chunkSize :=
  fun _ _ _ => ⟨_, _, rfl⟩

/-- Five samples in four inputs, two to a chunk. -/
def fourInputs : List Pcm := [[1], [], [2, 3, 4], [5]]

theorem resample_independent_of_cut_fourInputs :
    ∃ (outputs : List Pcm) (final : AudioResampler Nat Int16),
      (withChunkSize countingLibrary 2 (by decide)).feed countingLibrary fourInputs =
        (outputs.map .ok, final) ∧
      (.ok outputs.flatten, final) =
        ((.ok [1, 3], ⟨2, [5], 2, by decide⟩) : Except String Pcm × AudioResampler Nat Int16) ∧
      (final.flush countingLibrary).2.inputBuffer = [] := by
  obtain ⟨outputs, final, hfeed, hresample, -, -, -, hflush⟩ :=
    resample_independent_of_cut (by decide) (countingLibrary_succeedsOn 2) fourInputs
  obtain ⟨padded, resampled, next, -, -, -, hflushed⟩ := hflush (by decide)
  refine ⟨outputs, final, hfeed, ?_, by rw [hflushed]⟩
  rw [← hresample]
  rfl

end AudioResampler
end Transcription
end MediaServer
