import Mathlib.Data.Finmap

/-!
# Hash maps without an observable order

A hash map is a finite partial function.  Its iteration order is arbitrary, so
nothing but lookups may distinguish two maps; `Finmap` is exactly that quotient
and supplies extensionality.  This file fixes the vocabulary used on top of it
(`get`, `insert`, `remove`, `containsKey`, `len`) and the lookup equations, one
for each operation, from which every later fact about a map follows.
-/

namespace Foundation

/-- A finite map from `κ` to `ν`. -/
def HashMap (κ ν : Type*) := Finmap fun _ : κ => ν

namespace HashMap

variable {κ ν : Type*}

/-- The empty map. -/
def empty : HashMap κ ν := (∅ : Finmap fun _ : κ => ν)

/-- The set of keys holding a value. -/
def keys (map : HashMap κ ν) : Finset κ := Finmap.keys map

/-- Number of entries. -/
def len (map : HashMap κ ν) : Nat := map.keys.card

variable [DecidableEq κ]

/-- The value held at a key, if any. -/
def get (map : HashMap κ ν) (key : κ) : Option ν := Finmap.lookup key map

/-- Store a value, replacing what the key held. -/
def insert (map : HashMap κ ν) (key : κ) (value : ν) : HashMap κ ν :=
  Finmap.insert key value map

/-- Forget a key. -/
def remove (map : HashMap κ ν) (key : κ) : HashMap κ ν := Finmap.erase key map

/-- Whether a key holds a value. -/
def containsKey (map : HashMap κ ν) (key : κ) : Bool := (map.get key).isSome

@[simp] theorem get_empty (key : κ) : (empty : HashMap κ ν).get key = none :=
  Finmap.lookup_empty key

@[simp, grind =] theorem get_insert (map : HashMap κ ν) (key other : κ) (value : ν) :
    (map.insert key value).get other = if other = key then some value else map.get other := by
  by_cases hkey : other = key
  · subst hkey
    rw [if_pos rfl]
    exact Finmap.lookup_insert map
  · rw [if_neg hkey]
    exact Finmap.lookup_insert_of_ne map hkey

@[simp, grind =] theorem get_remove (map : HashMap κ ν) (key other : κ) :
    (map.remove key).get other = if other = key then none else map.get other := by
  by_cases hkey : other = key
  · subst hkey
    rw [if_pos rfl]
    exact Finmap.lookup_erase other map
  · rw [if_neg hkey]
    exact Finmap.lookup_erase_ne hkey

@[simp] theorem containsKey_empty (key : κ) :
    (empty : HashMap κ ν).containsKey key = false := by
  simp [containsKey]

@[simp] theorem containsKey_insert (map : HashMap κ ν) (key other : κ) (value : ν) :
    (map.insert key value).containsKey other = (decide (other = key) || map.containsKey other) := by
  by_cases hkey : other = key <;> simp [containsKey, hkey]

@[simp] theorem containsKey_remove (map : HashMap κ ν) (key other : κ) :
    (map.remove key).containsKey other = (!decide (other = key) && map.containsKey other) := by
  by_cases hkey : other = key <;> simp [containsKey, hkey]

theorem containsKey_eq_true_iff (map : HashMap κ ν) (key : κ) :
    map.containsKey key = true ↔ ∃ value, map.get key = some value := by
  simp [containsKey, Option.isSome_iff_exists]

theorem containsKey_eq_false_iff (map : HashMap κ ν) (key : κ) :
    map.containsKey key = false ↔ map.get key = none := by
  simp [containsKey]

/-- Storing what the key already holds changes nothing. -/
theorem insert_of_get {map : HashMap κ ν} {key : κ} {value : ν}
    (hvalue : map.get key = some value) : map.insert key value = map := by
  apply Finmap.ext_lookup
  intro other
  show (map.insert key value).get other = map.get other
  rw [get_insert]
  split
  · rename_i hkey
    rw [hkey, hvalue]
  · rfl

theorem mem_keys_iff (map : HashMap κ ν) (key : κ) :
    key ∈ map.keys ↔ map.containsKey key = true :=
  Finmap.mem_keys.trans Finmap.lookup_isSome.symm

/-- A map all of whose keys are keys of another one is no larger. -/
theorem len_le_len {μ : Type*} {map : HashMap κ ν} {other : HashMap κ μ}
    (hkeys : ∀ key, map.containsKey key = true → other.containsKey key = true) :
    map.len ≤ other.len := by
  apply Finset.card_le_card
  intro key hmem
  rw [mem_keys_iff] at hmem ⊢
  exact hkeys key hmem

end HashMap
end Foundation
