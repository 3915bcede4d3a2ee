import Mathlib.Data.List.Dedup
import Mathlib.Data.List.Nodup
import Mathlib.Data.List.Perm.Subperm

/-!
# Dictionaries in insertion order

A dictionary that remembers the order in which its keys were inserted, so that the oldest ones
can be dropped when it grows too large. No key occurs twice. Nothing here mentions a
particular program.
-/

/-- A dictionary with its entries in insertion order. -/
structure OrderedDict (K V : Type*) where
  entries : List (K × V)
  nodup : (entries.map Prod.fst).Nodup

namespace OrderedDict

variable {K V : Type*} [DecidableEq K]

/-- A dictionary without entries. -/
def empty : OrderedDict K V := ⟨[], .nil⟩

/-- The value of a key. -/
def get (d : OrderedDict K V) (key : K) : Option V :=
  (d.entries.find? fun e => decide (e.1 = key)).map Prod.snd

/-- Remove a key. -/
def erase (d : OrderedDict K V) (key : K) : OrderedDict K V where
  entries := d.entries.filter fun e => decide (e.1 ≠ key)
  nodup := d.nodup.sublist (List.filter_sublist.map _)

/-- Insert a key as the newest one. -/
def push (d : OrderedDict K V) (key : K) (value : V) : OrderedDict K V where
  entries := (d.erase key).entries ++ [(key, value)]
  nodup := by
    have hnew : key ∉ (d.erase key).entries.map Prod.fst := by
      intro hmem
      obtain ⟨e, he, hkey⟩ := List.mem_map.mp hmem
      exact of_decide_eq_true (List.mem_filter.mp he).2 hkey
    rw [List.map_append, List.nodup_append]
    refine ⟨(d.erase key).nodup, by simp, ?_⟩
    rintro a ha b hb rfl
    obtain rfl : a = key := by simpa using hb
    exact hnew ha

/-- Drop the oldest entries until at most `limit` are left. -/
def evict (d : OrderedDict K V) (limit : ℕ) : OrderedDict K V where
  entries := d.entries.drop (d.entries.length - limit)
  nodup := d.nodup.sublist ((List.drop_sublist _ _).map _)

/-- Drop the entries whose value a predicate refuses. -/
def keep (d : OrderedDict K V) (p : V → Bool) : OrderedDict K V where
  entries := d.entries.filter fun e => p e.2
  nodup := d.nodup.sublist (List.filter_sublist.map _)

/-- The keys, oldest first. -/
def keys (d : OrderedDict K V) : List K := d.entries.map Prod.fst

variable (d : OrderedDict K V)

/-- A key with a value has an entry. -/
theorem mem_of_get {key : K} {value : V} (h : d.get key = some value) :
    (key, value) ∈ d.entries := by
  obtain ⟨e, he, rfl⟩ := Option.map_eq_some_iff.mp h
  have hkey : e.1 = key := by simpa using List.find?_some he
  rw [← hkey]
  exact List.mem_of_find?_eq_some he

/-- The value of an entry is the one of its key. -/
theorem get_of_mem {key : K} {value : V} (h : (key, value) ∈ d.entries) :
    d.get key = some value := by
  have hfound : (d.entries.find? fun e => decide (e.1 = key)).isSome = true :=
    List.find?_isSome.mpr ⟨_, h, by simp⟩
  obtain ⟨e, he⟩ := Option.isSome_iff_exists.mp hfound
  have hkey : e.1 = key := by simpa using List.find?_some he
  have hsame : e = (key, value) :=
    List.inj_on_of_nodup_map d.nodup (List.mem_of_find?_eq_some he) h hkey
  simp [get, he, hsame]

/-- A key that is left has an entry before. -/
theorem get_keep {p : V → Bool} {key : K} {value : V} (h : (d.keep p).get key = some value) :
    d.get key = some value :=
  d.get_of_mem (List.mem_of_mem_filter ((d.keep p).mem_of_get h))

@[simp]
theorem get_empty (key : K) : (empty : OrderedDict K V).get key = none := rfl

/-- An erased key has no value. -/
@[simp]
theorem get_erase_self (key : K) : (d.erase key).get key = none := by
  unfold get erase
  rw [Option.map_eq_none_iff, List.find?_eq_none]
  intro e he hkey
  exact of_decide_eq_true (List.mem_filter.mp he).2 (of_decide_eq_true hkey)

/-- Erasing a key leaves the values of the others alone. -/
theorem get_erase_of_ne {key key' : K} (hne : key' ≠ key) :
    (d.erase key).get key' = d.get key' := by
  unfold get erase
  rw [List.find?_filter]
  congr 2
  funext e
  by_cases hkey : e.1 = key'
  · simp [hkey, hne]
  · simp [hkey]

/-- The value of the key that was inserted last is the inserted one. -/
@[simp]
theorem get_push_self (key : K) (value : V) : (d.push key value).get key = some value := by
  have hnone : (d.erase key).entries.find? (fun e => decide (e.1 = key)) = none :=
    Option.map_eq_none_iff.mp (d.get_erase_self key)
  unfold get push
  simp [List.find?_append, hnone]

/-- Inserting a key leaves the values of the others alone. -/
theorem get_push_of_ne {key key' : K} (hne : key' ≠ key) (value : V) :
    (d.push key value).get key' = d.get key' := by
  rw [← d.get_erase_of_ne hne]
  unfold get push
  simp [List.find?_append, Ne.symm hne]

/-- After the eviction a key has its value or none. -/
theorem get_evict (limit : ℕ) (key : K) :
    (d.evict limit).get key = none ∨ (d.evict limit).get key = d.get key := by
  cases hkept : (d.evict limit).entries.find? fun e => decide (e.1 = key) with
  | none => exact .inl (Option.map_eq_none_iff.mpr hkept)
  | some e =>
    refine .inr ?_
    have hmem : e ∈ d.entries.drop (d.entries.length - limit) := List.mem_of_find?_eq_some hkept
    have hkey : e.1 = key := by simpa using List.find?_some hkept
    -- No older entry has the key, since no key occurs twice.
    have hold : (d.entries.take (d.entries.length - limit)).find? (fun e => decide (e.1 = key)) =
        none := by
      rw [List.find?_eq_none]
      intro e' he' hkey'
      have hsplit := d.nodup
      rw [← List.take_append_drop (d.entries.length - limit) d.entries, List.map_append,
        List.nodup_append] at hsplit
      have hsame : e'.1 = e.1 := (of_decide_eq_true hkey').trans hkey.symm
      exact hsplit.2.2 _ (List.mem_map_of_mem he') _ (List.mem_map_of_mem hmem) hsame
    have hwhole : d.entries.find? (fun e => decide (e.1 = key)) =
        (d.evict limit).entries.find? fun e => decide (e.1 = key) := by
      conv_lhs => rw [← List.take_append_drop (d.entries.length - limit) d.entries]
      rw [List.find?_append, hold, Option.none_or]
      rfl
    unfold get
    rw [hwhole]

/-! ## Keys -/

/-- Erasing a key adds no other key to the table. -/
theorem keys_erase_subset (key : K) : (d.erase key).keys ⊆ d.keys :=
  (List.filter_sublist.map _).subset

/-- Inserting a value adds no key but the one it is inserted under. -/
theorem keys_push_subset (key : K) (value : V) : (d.push key value).keys ⊆ key :: d.keys := by
  intro other hother
  rw [keys, push, List.map_append, List.mem_append] at hother
  rcases hother with hold | hnew
  · exact List.mem_cons_of_mem _ (d.keys_erase_subset key hold)
  · exact List.mem_cons.mpr (.inl (List.mem_singleton.mp hnew))

omit [DecidableEq K] in
/-- An eviction removes keys and adds none. -/
theorem keys_evict_subset (limit : ℕ) : (d.evict limit).keys ⊆ d.keys :=
  ((List.drop_sublist _ _).map _).subset

/-- A dictionary has at most as many entries as there are keys that it can have. -/
theorem length_le_of_keys_subset {d : OrderedDict K V} {keys : List K} (h : d.keys ⊆ keys) :
    d.entries.length ≤ keys.dedup.length := by
  have hsubset : d.keys ⊆ keys.dedup := fun key hkey => List.mem_dedup.mpr (h hkey)
  have hlength := (List.subperm_of_subset d.nodup hsubset).length_le
  rwa [List.length_map] at hlength

omit [DecidableEq K] in
/-- Nothing is dropped from a dictionary within the limit. -/
theorem evict_of_length_le {d : OrderedDict K V} {limit : ℕ} (h : d.entries.length ≤ limit) :
    d.evict limit = d := by
  obtain ⟨entries, hnodup⟩ := d
  simp only [evict, OrderedDict.mk.injEq]
  rw [Nat.sub_eq_zero_of_le h, List.drop_zero]

end OrderedDict
