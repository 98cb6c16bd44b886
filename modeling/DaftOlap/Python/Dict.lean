/-
Dictionaries.

A `dict` is the list of its items in the order in which their keys were first set.
-/
import Mathlib.Algebra.GroupWithZero.Nat
import Mathlib.Algebra.Order.BigOperators.Group.Multiset
import Mathlib.Algebra.Order.Group.Multiset
import Mathlib.Data.List.Lookmap
import Mathlib.Data.List.Nodup

namespace DaftOlap
namespace Python

abbrev Dict (κ ν : Type) := List (κ × ν)

namespace Dict

variable {κ ν : Type} [BEq κ]

/-- `d[key] = value`. -/
def set (key : κ) (value : ν) : Dict κ ν → Dict κ ν
  | [] => [(key, value)]
  | (k, v) :: rest => if k == key then (k, value) :: rest else (k, v) :: set key value rest

/-- `d.update(items)`. -/
def update (d items : Dict κ ν) : Dict κ ν := items.foldl (fun d item => set item.1 item.2 d) d

/-- `{key: value for key, value in items}`. -/
def ofItems (items : List (κ × ν)) : Dict κ ν := update [] items

/-- `d.keys()`. -/
def keys (d : Dict κ ν) : List κ := d.map Prod.fst

/-- `{key: f(value) for key, value in d.items()}`. -/
def mapValues {μ : Type} (f : ν → μ) (d : Dict κ ν) : Dict κ μ := d.map fun item => (item.1, f item.2)

variable {d items : Dict κ ν} {key key' : κ} {value : ν}

theorem update_cons (item : κ × ν) :
    update d (item :: items) = update (set item.1 item.2 d) items := rfl

omit [BEq κ] in
theorem mem_keys_of_mem {item : κ × ν} (h : item ∈ d) : item.1 ∈ keys d :=
  List.mem_map_of_mem h

variable [LawfulBEq κ]

theorem lookup_set : List.lookup key' (set key value d) =
    if key' == key then some value else d.lookup key' := by
  induction d with
  | nil => by_cases h : key' == key <;> simp [set, List.lookup_cons, h]
  | cons item rest ih =>
    obtain ⟨k, v⟩ := item
    rw [set]
    by_cases hk : k == key
    · rw [if_pos hk]
      obtain rfl : k = key := eq_of_beq hk
      by_cases h : key' == k <;> simp [List.lookup_cons, h]
    · rw [if_neg hk]
      by_cases h : key' == k
      · have hne : (key' == key) = false := by
          obtain rfl : key' = k := eq_of_beq h
          exact eq_false_of_ne_true hk
        simp [List.lookup_cons, h, hne]
      · simp [List.lookup_cons, h, ih]

/-- The keys after an assignment: one more, unless it was there. -/
theorem keys_set : keys (set key value d) = if key ∈ keys d then keys d else keys d ++ [key] := by
  induction d with
  | nil => rfl
  | cons item rest ih =>
    obtain ⟨k, v⟩ := item
    rw [set]
    by_cases hk : k == key
    · obtain rfl : k = key := eq_of_beq hk
      rw [if_pos hk, if_pos (show k ∈ keys ((k, v) :: rest) from List.mem_cons_self)]
      rfl
    · have hne : key ≠ k := fun h => hk (beq_iff_eq.mpr h.symm)
      rw [if_neg hk]
      show k :: keys (set key value rest) = _
      rw [ih]
      show _ = if key ∈ k :: keys rest then k :: keys rest else k :: keys rest ++ [key]
      by_cases hmem : key ∈ keys rest
      · rw [if_pos hmem, if_pos (List.mem_cons_of_mem _ hmem)]
      · rw [if_neg hmem, if_neg]
        · rfl
        · rw [List.mem_cons, not_or]
          exact ⟨hne, hmem⟩

theorem mem_keys_set : key' ∈ keys (set key value d) ↔ key' ∈ keys d ∨ key' = key := by
  rw [keys_set]
  split
  · next h =>
    refine ⟨Or.inl, fun h' => h'.elim id fun heq => ?_⟩
    rw [heq]
    exact h
  · rw [List.mem_append, List.mem_singleton]

theorem nodup_keys_set (h : (keys d).Nodup) : (keys (set key value d)).Nodup := by
  rw [keys_set]
  split
  · exact h
  · next hmem =>
    refine List.Nodup.append h (List.nodup_singleton _) ?_
    rwa [List.disjoint_singleton]

/-- The last item of a key wins. -/
theorem lookup_update :
    List.lookup key (update d items) = (items.reverse.lookup key).or (d.lookup key) := by
  induction items generalizing d with
  | nil => rfl
  | cons item items ih =>
    rw [update_cons, ih, lookup_set, List.reverse_cons, List.lookup_append]
    by_cases h : key == item.1
    · have hone : [item].lookup key = some item.2 := by
        rw [List.lookup_cons, h]
      rw [if_pos h, hone, Option.or_assoc]
      rfl
    · have hone : [item].lookup key = none := by
        rw [List.lookup_cons, Bool.eq_false_iff.mpr h]
        rfl
      rw [if_neg h, hone, Option.or_none]

theorem mem_keys_update : key ∈ keys (update d items) ↔ key ∈ keys d ∨ key ∈ keys items := by
  induction items generalizing d with
  | nil => simp [update, keys]
  | cons item items ih =>
    rw [update_cons, ih, mem_keys_set]
    show _ ↔ _ ∨ key ∈ item.1 :: keys items
    rw [List.mem_cons, or_assoc]

theorem nodup_keys_update (h : (keys d).Nodup) : (keys (update d items)).Nodup := by
  induction items generalizing d with
  | nil => exact h
  | cons item items ih => exact ih (nodup_keys_set h)

theorem nodup_keys_ofItems : (keys (ofItems items)).Nodup := nodup_keys_update List.nodup_nil

theorem mem_keys_ofItems : key ∈ keys (ofItems items) ↔ key ∈ keys items := by
  rw [ofItems, mem_keys_update]
  simp [keys]

theorem lookup_ofItems : List.lookup key (ofItems items) = items.reverse.lookup key := by
  rw [ofItems, lookup_update]
  exact Option.or_none

theorem lookup_eq_none : d.lookup key = none ↔ key ∉ keys d := by
  rw [List.lookup_eq_none_iff, keys, List.mem_map]
  constructor
  · rintro h ⟨item, hitem, rfl⟩
    simpa using h item hitem
  · intro h item hitem
    rw [bne_iff_ne]
    rintro rfl
    exact h ⟨item, hitem, rfl⟩

/-- In items whose keys are distinct the order does not matter. -/
theorem lookup_eq_some (h : (keys d).Nodup) : d.lookup key = some value ↔ (key, value) ∈ d := by
  induction d with
  | nil => simp
  | cons item rest ih =>
    obtain ⟨k, v⟩ := item
    have hnodup := List.nodup_cons.mp h
    by_cases hk : key == k
    · obtain rfl : key = k := eq_of_beq hk
      have hrest : (key, value) ∉ rest := fun hmem =>
        hnodup.1 (List.mem_map.mpr ⟨_, hmem, rfl⟩)
      simp [hrest, eq_comm]
    · have hne : key ≠ k := fun heq => hk (beq_iff_eq.mpr heq)
      have hlookup : List.lookup key ((k, v) :: rest) = rest.lookup key := by
        simp [List.lookup_cons, hk]
      rw [hlookup, ih hnodup.2]
      simp [hne]

theorem lookup_reverse (h : (keys d).Nodup) : d.reverse.lookup key = d.lookup key := by
  have hreverse : (keys d.reverse).Nodup := by
    rw [keys, List.map_reverse]
    exact List.nodup_reverse.mpr h
  apply Option.ext
  intro value
  rw [lookup_eq_some hreverse, lookup_eq_some h, List.mem_reverse]

/-- Items that set no key of `d` leave what `d` has. -/
theorem lookup_update_of_disjoint (h : ∀ k ∈ keys items, k ∉ keys d) :
    List.lookup key (update d items) =
      if key ∈ keys d then List.lookup key d else List.lookup key (ofItems items) := by
  rw [lookup_update, lookup_ofItems]
  split
  · next hkey =>
    have hnone : key ∉ keys items := fun hmem => h key hmem hkey
    have hnone' : key ∉ keys items.reverse := by
      rwa [keys, List.map_reverse, List.mem_reverse]
    rw [lookup_eq_none.mpr hnone']
    exact Option.none_or
  · next hkey =>
    rw [lookup_eq_none.mpr hkey]
    exact Option.or_none

omit [BEq κ] [LawfulBEq κ] in
theorem keys_mapValues {μ : Type} (f : ν → μ) (d : Dict κ ν) : keys (mapValues f d) = keys d := by
  rw [keys, mapValues, List.map_map]
  rfl

omit [LawfulBEq κ] in
theorem lookup_mapValues {μ : Type} (f : ν → μ) (d : Dict κ ν) (key : κ) :
    List.lookup key (mapValues f d) = (d.lookup key).map f := by
  induction d with
  | nil => rfl
  | cons item rest ih =>
    rw [mapValues, List.map_cons, List.lookup_cons, List.lookup_cons]
    by_cases h : key == item.1
    · rw [h]
      rfl
    · rw [eq_false_of_ne_true h]
      exact ih

end Dict

end Python
end DaftOlap
