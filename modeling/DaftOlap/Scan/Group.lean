/-
Dividing a list into groups.

`modify_flatMap_perm` is the step of every distribution of items over buckets: adding
to one bucket adds to the content of all of them.  `chunks` cuts a list into pieces of
one size, the last one possibly shorter.
-/
import Mathlib.Algebra.GroupWithZero.Nat
import Mathlib.Algebra.Order.BigOperators.Group.Multiset
import Mathlib.Algebra.Order.Group.Multiset
import Mathlib.Data.List.Flatten
import Mathlib.Data.List.Perm.Basic
import Mathlib.Data.List.TakeDrop

namespace DaftOlap
namespace Scan

variable {α β : Type*}

/-! ## Buckets -/

/-- Changing one bucket so that its content grows by `extra` makes the content of all
buckets grow by `extra`. -/
theorem modify_flatMap_perm {buckets : List β} {content : β → List α} {f : β → β}
    {extra : List α} (hf : ∀ b, content (f b) = content b ++ extra) {i : Nat}
    (hi : i < buckets.length) :
    ((buckets.modify i f).flatMap content).Perm (buckets.flatMap content ++ extra) := by
  induction buckets generalizing i with
  | nil => exact absurd hi (Nat.not_lt_zero i)
  | cons b buckets ih =>
    cases i with
    | zero =>
      rw [List.modify_zero_cons, List.flatMap_cons, List.flatMap_cons, hf, List.append_assoc,
        List.append_assoc]
      exact List.Perm.append_left _ List.perm_append_comm
    | succ i =>
      rw [List.modify_succ_cons, List.flatMap_cons, List.flatMap_cons, List.append_assoc]
      exact (ih (Nat.lt_of_succ_lt_succ hi)).append_left _

/-- In a non-empty list some bucket is at most as heavy as every other. -/
theorem exists_minimal {buckets : List β} (h : buckets ≠ []) (weight : β → Int) :
    ∃ b ∈ buckets, ∀ c ∈ buckets, weight b ≤ weight c := by
  induction buckets with
  | nil => exact absurd rfl h
  | cons b buckets ih =>
    by_cases hrest : buckets = []
    · subst hrest
      exact ⟨b, List.mem_cons_self, fun c hc => by rw [List.mem_singleton.mp hc]⟩
    · obtain ⟨m, hm, hmin⟩ := ih hrest
      rcases le_total (weight b) (weight m) with hle | hle
      · refine ⟨b, List.mem_cons_self, fun c hc => ?_⟩
        rcases List.mem_cons.mp hc with rfl | hc
        · exact le_rfl
        · exact hle.trans (hmin c hc)
      · refine ⟨m, List.mem_cons_of_mem _ hm, fun c hc => ?_⟩
        rcases List.mem_cons.mp hc with rfl | hc
        · exact hle
        · exact hmin c hc

/-! ## Chunks -/

/-- The pieces `l[i : i + size]` for `i` in `range(0, len(l), size)`. -/
def chunks (size : Nat) (l : List α) : List (List α) :=
  (List.range ((l.length + size - 1) / size)).map fun i => (l.drop (i * size)).take size

theorem flatten_range_chunks (size count : Nat) (l : List α) :
    ((List.range count).map fun i => (l.drop (i * size)).take size).flatten =
      l.take (count * size) := by
  induction count with
  | zero => simp
  | succ count ih =>
    rw [List.range_succ, List.map_append, List.flatten_append, ih, List.map_singleton,
      List.flatten_singleton, Nat.succ_mul, List.take_add]

/-- The pieces together are the list. -/
theorem chunks_flatten {size : Nat} (hsize : 0 < size) (l : List α) :
    (chunks size l).flatten = l := by
  have hcover : l.length ≤ (l.length + size - 1) / size * size := by
    have hdiv := Nat.div_add_mod (l.length + size - 1) size
    have hmod := Nat.mod_lt (l.length + size - 1) hsize
    have hcomm := Nat.mul_comm size ((l.length + size - 1) / size)
    omega
  rw [chunks, flatten_range_chunks, List.take_of_length_le hcover]

/-- No piece is empty. -/
theorem chunks_ne_nil {size : Nat} (hsize : 0 < size) {l : List α} {g : List α}
    (h : g ∈ chunks size l) : g ≠ [] := by
  obtain ⟨i, hi, rfl⟩ := List.mem_map.mp h
  have hlt := (Nat.lt_div_iff_mul_lt hsize).mp (List.mem_range.mp hi)
  have hstart : i * size < l.length := by omega
  have hlen : ((l.drop (i * size)).take size).length ≠ 0 := by
    rw [List.length_take, List.length_drop]
    omega
  exact fun hnil => hlen (by rw [hnil]; rfl)

/-- Pieces of the size that `count` pieces need are at most `count`. -/
theorem length_chunks_le {count : Nat} (hcount : 0 < count) (l : List α) :
    (chunks ((l.length + count - 1) / count) l).length ≤ count := by
  rw [chunks, List.length_map, List.length_range]
  have hdiv := Nat.div_add_mod (l.length + count - 1) count
  have hmod := Nat.mod_lt (l.length + count - 1) hcount
  generalize (l.length + count - 1) / count = size at *
  rcases Nat.eq_zero_or_pos size with hzero | hsize
  · rw [hzero, Nat.div_zero]
    exact Nat.zero_le _
  · rw [← Nat.lt_succ_iff, Nat.div_lt_iff_lt_mul hsize]
    have hexpand : count.succ * size = count * size + size := Nat.succ_mul count size
    omega

/-- Rounding up twice at most halves: such pieces are more than half of `count`. -/
theorem lt_two_mul_length_chunks {count : Nat} {l : List α} (hcount : 0 < count)
    (hle : count ≤ l.length) :
    count < 2 * (chunks ((l.length + count - 1) / count) l).length := by
  have hsize : 0 < (l.length + count - 1) / count := Nat.div_pos (by omega) hcount
  have hupper : (l.length + count - 1) / count * count ≤ l.length + count - 1 :=
    Nat.div_mul_le_self _ _
  rw [chunks, List.length_map, List.length_range]
  generalize (l.length + count - 1) / count = size at *
  have hdiv := Nat.div_add_mod (l.length + size - 1) size
  have hmod := Nat.mod_lt (l.length + size - 1) hsize
  generalize (l.length + size - 1) / size = groups at *
  -- the pieces hold everything, and `size` pieces of `count` are less than twice that
  have hhold : l.length ≤ size * groups := by omega
  have hless : size * count < size * (2 * groups) := by
    have hcomm := Nat.mul_comm count size
    have htwice : size * (2 * groups) = 2 * (size * groups) := Nat.mul_left_comm size 2 groups
    omega
  exact Nat.lt_of_mul_lt_mul_left hless

/-- Only the last piece can be short. -/
theorem length_of_mem_dropLast_chunks {size : Nat} (hsize : 0 < size) {l g : List α}
    (h : g ∈ (chunks size l).dropLast) : g.length = size := by
  obtain ⟨i, hi, rfl⟩ := List.mem_iff_getElem.mp h
  rw [List.length_dropLast, chunks, List.length_map, List.length_range] at hi
  have hlt : i + 1 < (l.length + size - 1) / size := by omega
  have hstart := (Nat.lt_div_iff_mul_lt hsize).mp hlt
  rw [Nat.succ_mul] at hstart
  have hget : (chunks size l).dropLast[i] = (l.drop (i * size)).take size := by
    simp [chunks]
  rw [hget, List.length_take, List.length_drop]
  omega

end Scan
end DaftOlap
