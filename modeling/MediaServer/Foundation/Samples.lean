import MediaServer.Foundation.ByteOrder

/-!
# Samples of 16 bits as bytes

A signed sample is two bytes, the less significant one first.  Nothing in the bytes says
where a sample begins: a reader counts from the first byte of what it reads.

* `bytesOf`, `pairs`: samples as bytes, and bytes as samples;
* `pairs_append`: a reader may stop and go on between two samples.
-/

namespace Foundation
namespace Samples

/-- A sample, less significant byte first. -/
def sampleBytes (sample : Int16) : List UInt8 := leBytes 2 sample.toUInt16.toNat

/-- The sample that two bytes spell. -/
def sampleValue (low high : UInt8) : Int16 := (UInt16.ofNat (leValue [low, high])).toInt16

/-- Samples one after the other. -/
def bytesOf (samples : List Int16) : List UInt8 := samples.flatMap sampleBytes

/-- The samples that consecutive pairs of bytes spell; a last byte without a second one
spells none. -/
def pairs : List UInt8 → List Int16
  | [] => []
  | [_] => []
  | low :: high :: rest => sampleValue low high :: pairs rest

theorem sampleBytes_eq (sample : Int16) :
    ∃ low high, sampleBytes sample = [low, high] ∧ sampleValue low high = sample := by
  refine ⟨_, _, rfl, ?_⟩
  show (UInt16.ofNat (leValue (leBytes 2 sample.toUInt16.toNat))).toInt16 = sample
  rw [leValue_leBytes sample.toUInt16.toNat_lt, UInt16.ofNat_toNat, Int16.toInt16_toUInt16]

@[simp] theorem length_bytesOf (samples : List Int16) :
    (bytesOf samples).length = 2 * samples.length := by
  induction samples with
  | nil => rfl
  | cons sample samples ih =>
      rw [bytesOf, List.flatMap_cons, List.length_append, ← bytesOf, ih, sampleBytes,
        length_leBytes, List.length_cons]
      omega

/-- What is written is read back. -/
theorem pairs_bytesOf_append (samples : List Int16) (rest : List UInt8) :
    pairs (bytesOf samples ++ rest) = samples ++ pairs rest := by
  induction samples with
  | nil => rfl
  | cons sample samples ih =>
      obtain ⟨low, high, hbytes, hvalue⟩ := sampleBytes_eq sample
      have hcons : bytesOf (sample :: samples) ++ rest =
          low :: high :: (bytesOf samples ++ rest) := by
        rw [bytesOf, List.flatMap_cons, hbytes]
        rfl
      rw [hcons, pairs, hvalue, ih, List.cons_append]

theorem pairs_bytesOf (samples : List Int16) : pairs (bytesOf samples) = samples := by
  have hread := pairs_bytesOf_append samples []
  rw [List.append_nil] at hread
  rw [hread]
  exact List.append_nil samples

/-- Between two samples a reader may stop and go on. -/
theorem pairs_append {earlier : List UInt8} (heven : earlier.length % 2 = 0)
    (later : List UInt8) : pairs (earlier ++ later) = pairs earlier ++ pairs later := by
  induction earlier using pairs.induct with
  | case1 => rfl
  | case2 byte => contradiction
  | case3 low high rest ih =>
      rw [List.length_cons, List.length_cons] at heven
      rw [List.cons_append, List.cons_append, pairs, pairs, ih (by omega), List.cons_append]

theorem length_pairs (bytes : List UInt8) : (pairs bytes).length = bytes.length / 2 := by
  induction bytes using pairs.induct with
  | case1 => rfl
  | case2 byte => simp [pairs]
  | case3 low high rest ih =>
      rw [pairs, List.length_cons, ih, List.length_cons, List.length_cons]
      omega

end Samples
end Foundation
