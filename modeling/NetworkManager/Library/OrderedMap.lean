import Mathlib.Data.List.Nodup
import Mathlib.Data.List.Perm.Basic

/-!
# Maps that keep the order of their keys

A map that lists its keys in the order in which they were set first.  Setting a key that is there
replaces its value at its place.
-/

/-- A map with its keys in order. -/
structure OrderedMap (Key Value : Type*) where
  entries : List (Key × Value)
  nodup : (entries.map Prod.fst).Nodup

namespace OrderedMap

open List Option

open Function

variable {Key Value : Type*}

def keys (map : OrderedMap Key Value) : List Key := map.entries.map Prod.fst

theorem nodup_keys (map : OrderedMap Key Value) : map.keys.Nodup := map.nodup

/-- The map without keys. -/
def empty : OrderedMap Key Value := ⟨[], List.nodup_nil⟩

variable [DecidableEq Key]

instance [DecidableEq Value] : DecidableEq (OrderedMap Key Value) := fun a b =>
  decidable_of_iff (a.entries = b.entries) <| by
    obtain ⟨_, _⟩ := a
    obtain ⟨_, _⟩ := b
    simp

def get (map : OrderedMap Key Value) (key : Key) : Option Value :=
  (map.entries.find? fun entry => entry.1 = key).map Prod.snd

def set (map : OrderedMap Key Value) (key : Key) (value : Value) : OrderedMap Key Value where
  entries :=
    if key ∈ map.keys then
      map.entries.map fun entry => if entry.1 = key then (key, value) else entry
    else map.entries ++ [(key, value)]
  nodup := by
    split
    · have same : (map.entries.map fun entry => if entry.1 = key then (key, value) else entry).map
          Prod.fst = map.keys := by
        rw [List.map_map]
        refine List.map_congr_left fun entry _ => ?_
        rw [Function.comp_apply]
        split
        · rename_i is_key
          exact is_key.symm
        · rfl
      rw [same]
      exact map.nodup
    · rename_i absent
      rw [List.map_append, List.nodup_append]
      refine ⟨map.nodup, List.nodup_singleton _, ?_⟩
      rintro other listed _ last rfl
      obtain rfl : other = key := List.mem_singleton.mp last
      exact absent listed

def erase (map : OrderedMap Key Value) (key : Key) : OrderedMap Key Value where
  entries := map.entries.filter fun entry => entry.1 ≠ key
  nodup := map.nodup.sublist (List.filter_sublist.map _)

variable {map : OrderedMap Key Value}

theorem get_isSome {key : Key} : (map.get key).isSome = true ↔ key ∈ map.keys := by
  rw [get, isSome_map, find?_isSome, keys, List.mem_map]
  simp

theorem get_eq_none {key : Key} : map.get key = none ↔ key ∉ map.keys := by
  rw [← get_isSome, not_isSome_iff_eq_none]

theorem mem_keys_of_get {key : Key} {value : Value} (found : map.get key = some value) :
    key ∈ map.keys :=
  get_isSome.mp (by rw [found]; rfl)

theorem keys_set (map : OrderedMap Key Value) (key : Key) (value : Value) :
    (map.set key value).keys = if key ∈ map.keys then map.keys else map.keys ++ [key] := by
  unfold set keys
  dsimp only
  split
  · rw [List.map_map]
    refine map_congr_left fun entry _ => ?_
    rw [comp_apply]
    split
    · rename_i is_key
      exact is_key.symm
    · rfl
  · rw [map_append, map_cons, map_nil]

theorem mem_keys_set {key other : Key} {value : Value} :
    other ∈ (map.set key value).keys ↔ other ∈ map.keys ∨ other = key := by
  rw [keys_set]
  split
  · rename_i listed
    exact ⟨.inl, fun given => given.elim id fun same => same ▸ listed⟩
  · rw [mem_append, mem_singleton]

theorem keys_erase (map : OrderedMap Key Value) (key : Key) :
    (map.erase key).keys = map.keys.filter (· ≠ key) := by
  unfold erase keys
  rw [List.filter_map]
  rfl

theorem get_set (map : OrderedMap Key Value) (key : Key) (value : Value) (other : Key) :
    (map.set key value).get other = if other = key then some value else map.get other := by
  unfold set get
  dsimp only
  split
  · rename_i listed
    have same_key : ((fun entry : Key × Value => decide (entry.1 = other)) ∘
        fun entry => if entry.1 = key then (key, value) else entry) =
          fun entry => decide (entry.1 = other) := by
      funext entry
      rw [comp_apply]
      split
      · rename_i is_key
        rw [is_key]
      · rfl
    have found_key : ∀ {entry}, map.entries.find? (fun entry => entry.1 = other) = some entry →
        entry.1 = other := fun found => by simpa using find?_some found
    rw [find?_map, same_key, Option.map_map]
    split
    · rename_i is_key
      obtain ⟨found, found_eq⟩ := isSome_iff_exists.mp (get_isSome.mpr (is_key ▸ listed))
      obtain ⟨entry, entry_eq, _⟩ := map_eq_some_iff.mp found_eq
      rw [entry_eq, map_some, comp_apply, if_pos ((found_key entry_eq).trans is_key)]
    · rename_i other_key
      refine Option.map_congr fun entry entry_eq => ?_
      rw [comp_apply, if_neg (found_key entry_eq ▸ other_key)]
  · rename_i absent
    rw [find?_append, find?_singleton]
    by_cases is_key : other = key
    · have not_found : map.entries.find? (fun entry => decide (entry.1 = other)) = none :=
        map_eq_none_iff.mp (get_eq_none.mpr (is_key ▸ absent))
      rw [not_found, none_or, if_pos (decide_eq_true is_key.symm), map_some, if_pos is_key]
    · rw [if_neg (by simpa using fun same => is_key same.symm), or_none, if_neg is_key]

@[simp]
theorem get_set_self (map : OrderedMap Key Value) (key : Key) (value : Value) :
    (map.set key value).get key = some value := by
  rw [get_set, if_pos rfl]

theorem get_set_of_ne (map : OrderedMap Key Value) {key other : Key} (ne : other ≠ key)
    (value : Value) : (map.set key value).get other = map.get other := by
  rw [get_set, if_neg ne]

theorem get_erase (map : OrderedMap Key Value) (key other : Key) :
    (map.erase key).get other = if other = key then none else map.get other := by
  split
  · rename_i is_key
    rw [is_key, get_eq_none, keys_erase]
    simp
  · rename_i other_key
    unfold erase get
    rw [find?_filter]
    congr 2
    funext entry
    by_cases same : entry.1 = other
    · simp [same, other_key]
    · simp [same]

theorem get_of_mem {entry : Key × Value} (listed : entry ∈ map.entries) :
    map.get entry.1 = some entry.2 := by
  obtain ⟨entries, nodup⟩ := map
  unfold get
  dsimp only at listed ⊢
  induction entries with
  | nil => cases listed
  | cons first entries ih =>
    rw [map_cons, nodup_cons] at nodup
    rw [find?_cons]
    rcases mem_cons.mp listed with rfl | later
    · rw [decide_eq_true rfl, map_some]
    · have other : first.1 ≠ entry.1 := fun same =>
        nodup.1 (same ▸ List.mem_map_of_mem later)
      rw [decide_eq_false other]
      exact ih nodup.2 later

theorem entries_eq (map : OrderedMap Key Value) :
    map.entries = map.keys.filterMap fun key => (map.get key).map fun value => (key, value) := by
  rw [keys, filterMap_map]
  symm
  calc map.entries.filterMap _ = map.entries.filterMap some := by
        refine filterMap_congr fun entry listed => ?_
        rw [comp_apply, get_of_mem listed, map_some]
    _ = map.entries := filterMap_some

theorem eq_of_get {a b : OrderedMap Key Value} (same_keys : a.keys = b.keys)
    (same_values : ∀ key, a.get key = b.get key) : a = b := by
  have same_entries : a.entries = b.entries := by
    rw [entries_eq, entries_eq, same_keys]
    refine filterMap_congr fun key _ => ?_
    rw [same_values]
  obtain ⟨_, _⟩ := a
  obtain ⟨_, _⟩ := b
  cases same_entries
  rfl

theorem set_set (map : OrderedMap Key Value) (key : Key) (first second : Value) :
    (map.set key first).set key second = map.set key second := by
  refine eq_of_get ?_ fun other => ?_
  · rw [keys_set, if_pos (mem_keys_set.mpr (.inr rfl)), keys_set, keys_set]
  · rw [get_set, get_set, get_set]
    split
    · rfl
    · rfl

theorem entries_set_of_not_mem {key : Key} (absent : key ∉ map.keys) (value : Value) :
    (map.set key value).entries = map.entries ++ [(key, value)] :=
  if_neg absent

theorem entries_foldl_set {entries : List (Key × Value)}
    (distinct : (map.keys ++ entries.map Prod.fst).Nodup) :
    (entries.foldl (fun map entry => map.set entry.1 entry.2) map).entries =
      map.entries ++ entries := by
  induction entries generalizing map with
  | nil => rw [foldl_nil, append_nil]
  | cons entry entries ih =>
    have absent : entry.1 ∉ map.keys := fun listed =>
      disjoint_of_nodup_append distinct listed mem_cons_self
    have keys_eq : (map.set entry.1 entry.2).keys = map.keys ++ [entry.1] := by
      rw [keys_set, if_neg absent]
    rw [foldl_cons, ih, entries_set_of_not_mem absent, append_assoc, singleton_append]
    rw [keys_eq, append_assoc, singleton_append]
    exact distinct

end OrderedMap
