import MediaServer.Foundation.Frame
import MediaServer.Foundation.HashMap
import Mathlib.Data.List.Nodup

/-!
# Iterating over a hash map

A loop over a hash map visits every entry once, in an order nobody promises.  An
`Enumeration` is one such order, and code that loops takes it as an argument: what
holds for every enumeration holds whatever order the program meets.
-/

namespace Foundation

/-- An order in which the keys of maps are visited. -/
structure Enumeration (κ : Type*) where
  list : Finset κ → List κ
  nodup : ∀ keys, (list keys).Nodup
  mem_iff : ∀ keys key, key ∈ list keys ↔ key ∈ keys

/-- The order of a list where that has all keys, and some order elsewhere. -/
noncomputable def Enumeration.inOrder {κ : Type*} [DecidableEq κ] (known : List κ)
    (hknown : known.Nodup) : Enumeration κ where
  list keys := if ∀ key ∈ keys, key ∈ known then known.filter (· ∈ keys) else keys.toList
  nodup keys := by
    split
    · exact hknown.filter _
    · exact keys.nodup_toList
  mem_iff keys key := by
    split
    · rename_i hall
      simpa using hall key
    · exact Finset.mem_toList

namespace HashMap

variable {κ ν : Type*} [DecidableEq κ]

/-- `map.iter()` -/
def iter (order : Enumeration κ) (map : HashMap κ ν) : List (κ × ν) :=
  (order.list map.keys).filterMap fun key => (map.get key).map fun value => (key, value)

/-- `map.is_empty()` -/
def isEmpty (map : HashMap κ ν) : Bool := decide (map.keys = ∅)

/-- Change the value at a key, if there is one: `if let Some(value) = map.get_mut(key)`. -/
def modify (map : HashMap κ ν) (key : κ) (f : ν → ν) : HashMap κ ν :=
  match map.get key with
  | none => map
  | some value => map.insert key (f value)

/-- `for (key, value) in map.iter_mut()` with a body that changes the value. -/
def forEachMut (order : Enumeration κ) (f : κ → ν → ν) (map : HashMap κ ν) : HashMap κ ν :=
  (order.list map.keys).foldl (fun visited key => visited.modify key (f key)) map

theorem mem_keys_iff_get {map : HashMap κ ν} {key : κ} :
    key ∈ map.keys ↔ ∃ value, map.get key = some value := by
  rw [mem_keys_iff, containsKey_eq_true_iff]

/-- A loop meets exactly the entries of the map. -/
@[simp] theorem mem_iter {order : Enumeration κ} {map : HashMap κ ν} {key : κ} {value : ν} :
    (key, value) ∈ map.iter order ↔ map.get key = some value := by
  simp only [iter, List.mem_filterMap, order.mem_iff, mem_keys_iff_get, Option.map_eq_some_iff,
    Prod.mk.injEq]
  constructor
  · rintro ⟨other, -, held, hheld, rfl, rfl⟩
    exact hheld
  · intro hvalue
    exact ⟨key, ⟨value, hvalue⟩, value, hvalue, rfl, rfl⟩

/-- The keys of the entries in the order of the loop. -/
theorem map_fst_iter (order : Enumeration κ) (map : HashMap κ ν) :
    (map.iter order).map Prod.fst = order.list map.keys := by
  have hkeys : ∀ key ∈ order.list map.keys,
      ((map.get key).map fun value => (key, value)).map Prod.fst = some key := by
    intro key hmem
    obtain ⟨value, hvalue⟩ := mem_keys_iff_get.mp ((order.mem_iff _ _).mp hmem)
    rw [hvalue]
    rfl
  rw [iter, List.map_filterMap]
  exact (List.filterMap_congr hkeys).trans List.filterMap_some

/-- A loop meets no key twice. -/
theorem nodup_map_fst_iter (order : Enumeration κ) (map : HashMap κ ν) :
    ((map.iter order).map Prod.fst).Nodup := by
  rw [map_fst_iter]
  exact order.nodup _

theorem isEmpty_eq_true_iff {map : HashMap κ ν} :
    map.isEmpty = true ↔ ∀ key, map.get key = none := by
  rw [isEmpty, decide_eq_true_iff, Finset.eq_empty_iff_forall_notMem]
  simp only [mem_keys_iff_get, not_exists, Option.eq_none_iff_forall_ne_some]

theorem isEmpty_eq_false_iff {map : HashMap κ ν} :
    map.isEmpty = false ↔ ∃ key value, map.get key = some value := by
  rw [← Bool.not_eq_true, isEmpty_eq_true_iff]
  simp only [not_forall, Option.ne_none_iff_exists']

@[simp] theorem get_modify (map : HashMap κ ν) (key other : κ) (f : ν → ν) :
    (map.modify key f).get other =
      if other = key then (map.get other).map f else map.get other := by
  unfold modify
  by_cases hkey : other = key
  · subst hkey
    cases hvalue : map.get other <;> simp [hvalue]
  · cases map.get key <;> simp [hkey]

@[simp] theorem containsKey_modify (map : HashMap κ ν) (key other : κ) (f : ν → ν) :
    (map.modify key f).containsKey other = map.containsKey other := by
  by_cases hkey : other = key <;> simp [containsKey, hkey]

theorem get_foldl_modify (f : κ → ν → ν) {visits : List κ} (hvisits : visits.Nodup)
    (map : HashMap κ ν) (key : κ) :
    (visits.foldl (fun visited key => visited.modify key (f key)) map).get key =
      if key ∈ visits then (map.get key).map (f key) else map.get key := by
  induction visits generalizing map with
  | nil => simp
  | cons first rest ih =>
      obtain ⟨hfirst, hrest⟩ := List.nodup_cons.mp hvisits
      rw [List.foldl_cons, ih hrest, get_modify]
      by_cases hkey : key = first
      · subst hkey
        simp [hfirst]
      · simp [hkey]

/-- A loop that changes values changes every one of them, in whatever order. -/
@[simp] theorem get_forEachMut (order : Enumeration κ) (f : κ → ν → ν) (map : HashMap κ ν)
    (key : κ) : (map.forEachMut order f).get key = (map.get key).map (f key) := by
  rw [forEachMut, get_foldl_modify f (order.nodup _)]
  split
  · rfl
  · rename_i habsent
    rw [order.mem_iff, mem_keys_iff_get] at habsent
    cases hvalue : map.get key with
    | none => rfl
    | some value => exact absurd ⟨value, hvalue⟩ habsent

@[simp] theorem containsKey_forEachMut (order : Enumeration κ) (f : κ → ν → ν)
    (map : HashMap κ ν) (key : κ) :
    (map.forEachMut order f).containsKey key = map.containsKey key := by
  simp [containsKey]

/-- A changed value, in a frame of all values. -/
theorem pointwise_modify {κ ν : Type} [DecidableEq κ] {frame : Frame ν} {map : HashMap κ ν}
    {key : κ} {f : ν → ν} (hf : ∀ value, map.get key = some value → frame.rel value (f value)) :
    (Frame.pointwise frame).rel map.get (map.modify key f).get := by
  apply Frame.pointwise_of_update key
  · intro value hvalue
    exact ⟨f value, by simp [hvalue], hf value hvalue⟩
  · intro hnone
    simp [hnone]
  · intro other hother
    simp [hother]

/-- A loop that changes values, in a frame of all values. -/
theorem pointwise_forEachMut {κ ν : Type} [DecidableEq κ] {frame : Frame ν}
    (order : Enumeration κ) {f : κ → ν → ν} (map : HashMap κ ν)
    (hf : ∀ key value, frame.rel value (f key value)) :
    (Frame.pointwise frame).rel map.get (map.forEachMut order f).get := by
  intro key
  rw [get_forEachMut]
  cases map.get key with
  | none => exact .none
  | some value => exact .some (hf key value)

/-- Maps with the same entries are the same. -/
theorem ext_get {first second : HashMap κ ν} (hget : ∀ key, first.get key = second.get key) :
    first = second := Finmap.ext_lookup hget

end HashMap
end Foundation
