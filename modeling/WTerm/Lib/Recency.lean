import Mathlib.Logic.Function.Basic
import WTerm.Lib.OrderedDict

/-!
# What is newer than a key

An eviction from a dictionary in insertion order drops the keys that have enough newer ones. The
newer keys are what comes after a key in the list of all keys, so this file starts with lists.
Nothing here mentions a particular program.
-/

/-! ## Lists -/

section Later

variable {α β : Type*} [DecidableEq α] [DecidableEq β] {x y : α} {l r : List α}

/-- What comes after the first occurrence of an element. -/
def later (x : α) (l : List α) : List α := (l.dropWhile fun y => decide (y ≠ x)).tail

/-- Nothing comes after anything in an empty list. -/
@[simp]
theorem later_nil (x : α) : later x [] = [] := rfl

/-- What comes after the head is the tail. -/
@[simp]
theorem later_cons_self (x : α) (l : List α) : later x (x :: l) = l := by simp [later]

/-- A head other than the element does not count among what comes after the element. -/
theorem later_cons_of_ne (h : y ≠ x) (l : List α) : later x (y :: l) = later x l := by
  simp [later, h]

/-- What is appended comes after every element. -/
theorem later_append_of_mem (h : x ∈ l) (r : List α) : later x (l ++ r) = later x l ++ r := by
  induction l with
  | nil => simp at h
  | cons y l ih =>
    by_cases hy : y = x
    · subst hy
      simp
    · have hl : x ∈ l := (List.mem_cons.mp h).resolve_left (Ne.symm hy)
      rw [List.cons_append, later_cons_of_ne hy, later_cons_of_ne hy, ih hl]

/-- What is in front of the first occurrence does not count. -/
theorem later_append_of_not_mem (h : x ∉ l) (r : List α) : later x (l ++ r) = later x r := by
  induction l with
  | nil => rfl
  | cons y l ih =>
    rw [List.mem_cons, not_or] at h
    rw [List.cons_append, later_cons_of_ne (Ne.symm h.1), ih h.2]

/-- Nothing comes after an element that does not occur. -/
theorem later_of_not_mem (h : x ∉ l) : later x l = [] := by
  have happend := later_append_of_not_mem h []
  rwa [List.append_nil] at happend

/-- A filter that keeps an element filters what comes after it. -/
theorem later_filter {p : α → Bool} (hx : p x = true) (l : List α) :
    later x (l.filter p) = (later x l).filter p := by
  induction l with
  | nil => rfl
  | cons y l ih =>
    by_cases hy : y = x
    · subst hy
      simp [hx]
    · rw [later_cons_of_ne hy, List.filter_cons]
      split
      · rw [later_cons_of_ne hy, ih]
      · exact ih

/-- An injective function maps what comes after an element. -/
theorem later_map {f : α → β} (hf : Function.Injective f) (x : α) (l : List α) :
    later (f x) (l.map f) = (later x l).map f := by
  induction l with
  | nil => rfl
  | cons y l ih =>
    by_cases hy : y = x
    · subst hy
      simp
    · rw [List.map_cons, later_cons_of_ne (hf.ne hy), later_cons_of_ne hy, ih]

/-- An element has less after it than there is. -/
theorem later_length_lt (h : x ∈ l) : (later x l).length < l.length := by
  induction l with
  | nil => simp at h
  | cons y l ih =>
    by_cases hy : y = x
    · subst hy
      simp
    · have hl := ih ((List.mem_cons.mp h).resolve_left (Ne.symm hy))
      rw [later_cons_of_ne hy, List.length_cons]
      omega

/-- What comes after an element keeps its order. -/
theorem later_sublist (x : α) (l : List α) : (later x l).Sublist l :=
  (List.tail_sublist _).trans (List.dropWhile_sublist _)

/-- Among the last `m` elements are those with fewer than `m` after them. -/
theorem mem_drop_iff_later (hl : l.Nodup) (m : ℕ) :
    x ∈ l.drop (l.length - m) ↔ x ∈ l ∧ (later x l).length < m := by
  induction l with
  | nil => simp
  | cons y l ih =>
    rw [List.nodup_cons] at hl
    by_cases hm : l.length + 1 ≤ m
    · rw [List.length_cons, Nat.sub_eq_zero_of_le hm, List.drop_zero]
      refine ⟨fun hx => ⟨hx, ?_⟩, And.left⟩
      have hlength := later_length_lt hx
      rw [List.length_cons] at hlength
      omega
    · have hdrop : (y :: l).length - m = (l.length - m) + 1 := by
        rw [List.length_cons]
        omega
      rw [hdrop, List.drop_succ_cons, ih hl.2]
      by_cases hy : y = x
      · subst hy
        simp only [hl.1, false_and, List.mem_cons_self, later_cons_self, true_and, false_iff]
        omega
      · rw [later_cons_of_ne hy, List.mem_cons]
        simp [Ne.symm hy]

/-- What comes after an element is what came before it in the reversed list. -/
theorem later_reverse (hl : l.Nodup) (h : x ∈ l) :
    later x l.reverse = (l.takeWhile fun y => decide (y ≠ x)).reverse := by
  induction l with
  | nil => simp at h
  | cons y l ih =>
    rw [List.nodup_cons] at hl
    rw [List.reverse_cons]
    by_cases hy : y = x
    · subst hy
      rw [later_append_of_not_mem (by simpa using hl.1)]
      simp
    · have hx : x ∈ l := (List.mem_cons.mp h).resolve_left (Ne.symm hy)
      rw [later_append_of_mem (by simpa using hx), ih hl.2 hx]
      simp [hy]

/-- A sublist of a list without duplicates is a filter of it. -/
theorem sublist_eq_filter (h : l.Sublist r) (hr : r.Nodup) :
    l = r.filter fun x => decide (x ∈ l) := by
  induction h with
  | slnil => rfl
  | cons y h ih =>
    rw [List.nodup_cons] at hr
    have hy := fun hmem => hr.1 (h.subset hmem)
    rw [List.filter_cons_of_neg (by simpa using hy)]
    exact ih hr.2
  | cons_cons y h ih =>
    rw [List.nodup_cons] at hr
    rw [List.filter_cons_of_pos (by simp)]
    congr 1
    refine (ih hr.2).trans (List.filter_congr fun x hx => ?_)
    have hne : x ≠ y := fun heq => hr.1 (heq ▸ hx)
    simp [hne]

end Later

/-! ## Dictionaries -/

namespace OrderedDict

variable {K V : Type*} (d : OrderedDict K V)

/-- Dropping entries by their values keeps the order. -/
theorem keys_keep_sublist (p : V → Bool) : (d.keep p).keys.Sublist d.keys :=
  List.filter_sublist.map _

/-- An eviction drops the oldest keys, as many as there are too many, and keeps the order of the
others. -/
theorem keys_evict (limit : ℕ) : (d.evict limit).keys = d.keys.drop (d.keys.length - limit) := by
  simp [keys, evict, List.map_drop]

/-- An eviction leaves a part of the keys in their order. -/
theorem keys_evict_sublist (limit : ℕ) : (d.evict limit).keys.Sublist d.keys := by
  rw [keys_evict]
  exact List.drop_sublist _ _

/-- After an eviction at most `limit` entries are left. -/
theorem evict_length_le (limit : ℕ) : (d.evict limit).entries.length ≤ limit := by
  rw [evict, List.length_drop]
  omega

variable [DecidableEq K]

/-- The keys that were inserted after a key. -/
def newer (d : OrderedDict K V) (key : K) : List K := later key d.keys

/-- A value is the one of an entry. -/
theorem get_eq_some_iff {key : K} {value : V} : d.get key = some value ↔ (key, value) ∈ d.entries :=
  ⟨d.mem_of_get, d.get_of_mem⟩

/-- A key with a value is a key. -/
theorem mem_keys_of_get {key : K} {value : V} (h : d.get key = some value) : key ∈ d.keys :=
  List.mem_map_of_mem (d.mem_of_get h)

/-- Every key of the table has a value. -/
theorem exists_get_of_mem_keys {key : K} (h : key ∈ d.keys) : ∃ value, d.get key = some value := by
  obtain ⟨⟨_, value⟩, hmem, rfl⟩ := List.mem_map.mp h
  exact ⟨value, d.get_of_mem hmem⟩

/-- A key without a value is no key. -/
theorem get_eq_none_iff {key : K} : d.get key = none ↔ key ∉ d.keys := by
  constructor
  · intro hnone hmem
    obtain ⟨value, hget⟩ := d.exists_get_of_mem_keys hmem
    rw [hnone] at hget
    cases hget
  · intro hmem
    cases hget : d.get key with
    | none => rfl
    | some value => exact absurd (d.mem_keys_of_get hget) hmem

/-- No key is newer than another one twice. -/
theorem newer_nodup (key : K) : (d.newer key).Nodup := d.nodup.sublist (later_sublist _ _)

/-- Erasing a key leaves the keys other than it, in their order. -/
theorem keys_erase (key : K) : (d.erase key).keys = d.keys.filter fun k => decide (k ≠ key) := by
  rw [keys, keys, erase, List.filter_map]
  rfl

/-- The keys that erasing one of them leaves keep their order. -/
theorem keys_erase_sublist (key : K) : (d.erase key).keys.Sublist d.keys := by
  rw [keys_erase]
  exact List.filter_sublist

/-- A key that is inserted comes last, behind the other keys in their order. -/
theorem keys_push (key : K) (value : V) :
    (d.push key value).keys = (d.erase key).keys ++ [key] := by
  simp [keys, push]

/-- A key that is inserted for the first time comes last. -/
theorem keys_push_of_not_mem {key : K} (h : key ∉ d.keys) (value : V) :
    (d.push key value).keys = d.keys ++ [key] := by
  rw [keys_push, keys_erase, List.filter_eq_self.mpr]
  rintro k hk
  exact decide_eq_true fun heq => h (heq ▸ hk)

/-- The newest key has no newer one. -/
theorem newer_push_self (key : K) (value : V) : (d.push key value).newer key = [] := by
  have hnew : key ∉ (d.erase key).keys := by simp [keys_erase]
  rw [newer, keys_push, later_append_of_not_mem hnew, later_cons_self]

/-- The newest key is newer than every other key. -/
theorem newer_push_of_ne {key key' : K} (hmem : key' ∈ d.keys) (hne : key' ≠ key) (value : V) :
    (d.push key value).newer key' = ((d.newer key').filter fun k => decide (k ≠ key)) ++ [key] := by
  have hkept : key' ∈ (d.erase key).keys := by simp [keys_erase, hmem, hne]
  rw [newer, keys_push, later_append_of_mem hkept, keys_erase, later_filter (by simp [hne])]
  rfl

/-- A key that is inserted for the first time is newer than every other key. -/
theorem newer_push_of_not_mem {key key' : K} (hnew : key ∉ d.keys) (hmem : key' ∈ d.keys)
    (value : V) : (d.push key value).newer key' = d.newer key' ++ [key] := by
  rw [newer, d.keys_push_of_not_mem hnew, later_append_of_mem hmem]
  rfl

/-- A key stays if and only if fewer than `limit` keys are newer. -/
theorem mem_keys_evict {limit : ℕ} {key : K} :
    key ∈ (d.evict limit).keys ↔ key ∈ d.keys ∧ (d.newer key).length < limit := by
  rw [keys_evict]
  exact mem_drop_iff_later d.nodup limit

/-- The value of a key after an eviction. -/
theorem get_evict_eq_some {limit : ℕ} {key : K} {value : V} :
    (d.evict limit).get key = some value ↔
      d.get key = some value ∧ (d.newer key).length < limit := by
  constructor
  · intro h
    rcases d.get_evict limit key with hnone | hsame
    · rw [hnone] at h
      cases h
    · exact ⟨hsame ▸ h, (d.mem_keys_evict.mp ((d.evict limit).mem_keys_of_get h)).2⟩
  · rintro ⟨h, hfew⟩
    obtain ⟨value', h'⟩ := (d.evict limit).exists_get_of_mem_keys
      (d.mem_keys_evict.mpr ⟨d.mem_keys_of_get h, hfew⟩)
    rcases d.get_evict limit key with hnone | hsame
    · rw [hnone] at h'
      cases h'
    · rw [hsame, h]

/-- The value of a key among the entries that a predicate keeps. -/
theorem get_keep_eq_some {p : V → Bool} {key : K} {value : V} :
    (d.keep p).get key = some value ↔ d.get key = some value ∧ p value = true := by
  rw [get_eq_some_iff, get_eq_some_iff, keep, List.mem_filter]

/-- The value of a key after another one is erased. -/
theorem get_erase_eq_some {key key' : K} {value : V} :
    (d.erase key).get key' = some value ↔ key' ≠ key ∧ d.get key' = some value := by
  by_cases hkey : key' = key
  · subst hkey
    simp
  · simp [d.get_erase_of_ne hkey, hkey]

/-- An eviction changes nothing for the keys that stay. -/
theorem newer_evict {limit : ℕ} {key : K} (h : key ∈ (d.evict limit).keys) :
    (d.evict limit).newer key = d.newer key := by
  have hsplit := d.nodup
  rw [← keys, ← List.take_append_drop (d.keys.length - limit) d.keys, List.nodup_append] at hsplit
  rw [keys_evict] at h
  have hold : key ∉ d.keys.take (d.keys.length - limit) :=
    fun hmem => hsplit.2.2 key hmem key h rfl
  have happend := later_append_of_not_mem hold (d.keys.drop (d.keys.length - limit))
  rw [List.take_append_drop] at happend
  rw [newer, newer, keys_evict, happend]

/-! ## Changes in place -/

/-- Change the value of a key and keep its place. -/
def modify (d : OrderedDict K V) (key : K) (f : V → V) : OrderedDict K V where
  entries := d.entries.map fun e => if e.1 = key then (e.1, f e.2) else e
  nodup := by
    have hkeys : (d.entries.map fun e => if e.1 = key then (e.1, f e.2) else e).map Prod.fst =
        d.entries.map Prod.fst := by
      rw [List.map_map]
      refine List.map_congr_left fun e _ => ?_
      rw [Function.comp_apply]
      split <;> rfl
    rw [hkeys]
    exact d.nodup

/-- Modifying a value leaves the keys where they are. -/
theorem keys_modify (key : K) (f : V → V) : (d.modify key f).keys = d.keys := by
  rw [keys, modify, List.map_map, keys]
  refine List.map_congr_left fun e _ => ?_
  rw [Function.comp_apply]
  split <;> rfl

/-- The value of a modified key is the changed one, if the key had a value. -/
theorem get_modify_self (key : K) (f : V → V) :
    (d.modify key f).get key = (d.get key).map f := by
  cases hget : d.get key with
  | none => rwa [Option.map_none, get_eq_none_iff, keys_modify, ← get_eq_none_iff]
  | some value =>
    refine (d.modify key f).get_of_mem ?_
    exact List.mem_map.mpr ⟨_, d.mem_of_get hget, if_pos rfl⟩

/-- Modifying the value of a key leaves the values of the other keys as they are. -/
theorem get_modify_of_ne {key key' : K} (hne : key' ≠ key) (f : V → V) :
    (d.modify key f).get key' = d.get key' := by
  cases hget : d.get key' with
  | none => rwa [get_eq_none_iff, keys_modify, ← get_eq_none_iff]
  | some value =>
    refine (d.modify key f).get_of_mem ?_
    exact List.mem_map.mpr ⟨_, d.mem_of_get hget, if_neg hne⟩

/-- A change in place makes no key newer. -/
theorem newer_modify (key key' : K) (f : V → V) : (d.modify key f).newer key' = d.newer key' := by
  rw [newer, newer, keys_modify]

end OrderedDict
