/-
Greedy balancing.

Items are put into buckets one by one, heavier ones first, each into a bucket whose
load no other bucket is below.  `Balanced` is what every such run keeps: a bucket
without its lightest item is not heavier than any other.
-/
import DaftOlap.Scan.Group

namespace DaftOlap
namespace Scan

variable {α : Type*}

def load (weight : α → Int) (bucket : List α) : Int :=
  bucket.foldr (fun x total => weight x + total) 0

@[simp] theorem load_nil (weight : α → Int) : load weight [] = 0 := rfl

@[simp] theorem load_cons (weight : α → Int) (x : α) (bucket : List α) :
    load weight (x :: bucket) = weight x + load weight bucket := rfl

theorem load_append (weight : α → Int) (bucket others : List α) :
    load weight (bucket ++ others) = load weight bucket + load weight others := by
  induction bucket with
  | nil => simp
  | cons x bucket ih =>
    rw [List.cons_append, load_cons, load_cons, ih]
    omega

@[simp] theorem load_append_singleton (weight : α → Int) (bucket : List α) (x : α) :
    load weight (bucket ++ [x]) = load weight bucket + weight x := by
  simp [load_append]

theorem load_nonneg {weight : α → Int} {bucket : List α} (h : ∀ x ∈ bucket, 0 ≤ weight x) :
    0 ≤ load weight bucket := by
  induction bucket with
  | nil => exact Int.le_refl 0
  | cons x bucket ih =>
    have hhead := h x List.mem_cons_self
    have hrest := ih fun y hy => h y (List.mem_cons_of_mem _ hy)
    rw [load_cons]
    omega

theorem load_pos {weight : α → Int} {bucket : List α} (h : ∀ x ∈ bucket, 0 < weight x)
    (hne : bucket ≠ []) : 0 < load weight bucket := by
  cases bucket with
  | nil => exact absurd rfl hne
  | cons x rest =>
    have hrest : 0 ≤ load weight rest :=
      load_nonneg fun y hy => Int.le_of_lt (h y (List.mem_cons_of_mem _ hy))
    have hhead := h x List.mem_cons_self
    rw [load_cons]
    omega

/-- Without its lightest item no bucket is heavier than any bucket. -/
def Balanced (weight : α → Int) (buckets : List (List α)) : Prop :=
  ∀ b ∈ buckets, ∀ x ∈ b, (∀ y ∈ b, weight x ≤ weight y) →
    ∀ c ∈ buckets, load weight b - weight x ≤ load weight c

/-- Put an item into the bucket at an index. -/
def place (i : Nat) (x : α) (buckets : List (List α)) : List (List α) :=
  buckets.modify i fun b => b ++ [x]

theorem length_place (i : Nat) (x : α) (buckets : List (List α)) :
    (place i x buckets).length = buckets.length := List.length_modify ..

/-- A bucket after a placement is one from before it, or the one at the index with the
item added. -/
theorem mem_place {i : Nat} {x : α} {buckets : List (List α)} {b : List α}
    (h : b ∈ place i x buckets) :
    b ∈ buckets ∨ ∃ hi : i < buckets.length, b = buckets[i] ++ [x] := by
  obtain ⟨j, hj, rfl⟩ := List.mem_iff_getElem.mp h
  have hj' : j < buckets.length := by simpa [length_place] using hj
  by_cases hij : i = j
  · subst hij
    exact Or.inr ⟨hj', by simp [place]⟩
  · refine Or.inl ?_
    have hkeep : (place i x buckets)[j] = buckets[j] := by
      simp [place, hij]
    rw [hkeep]
    exact List.getElem_mem hj'

variable {weight : α → Int} {buckets : List (List α)} {i : Nat} {x : α}

/-- The item comes last, so it is a lightest item of its bucket; without it the bucket
is what it was, the least of all. -/
theorem Balanced.place (h : Balanced weight buckets) (hx : 0 ≤ weight x)
    (hheavier : ∀ b ∈ buckets, ∀ y ∈ b, weight x ≤ weight y) (hi : i < buckets.length)
    (hleast : ∀ c ∈ buckets, load weight buckets[i] ≤ load weight c) :
    Balanced weight (place i x buckets) := by
  have hgrows : ∀ c ∈ Scan.place i x buckets, ∃ c' ∈ buckets,
      load weight c' ≤ load weight c := by
    intro c hc
    rcases mem_place hc with hold | ⟨hi', hnew⟩
    · exact ⟨c, hold, le_refl _⟩
    · refine ⟨buckets[i], List.getElem_mem hi, ?_⟩
      rw [hnew, load_append_singleton]
      omega
  intro b hb y hy hmin c hc
  obtain ⟨c', hc', hle⟩ := hgrows c hc
  refine le_trans ?_ hle
  rcases mem_place hb with hold | ⟨hi', hnew⟩
  · exact h b hold y hy hmin c' hc'
  · subst hnew
    have hylight : weight y = weight x := by
      have hyx := hmin x (List.mem_append_right _ (List.mem_singleton_self x))
      rcases List.mem_append.mp hy with hin | hlast
      · have hxy := hheavier _ (List.getElem_mem hi') y hin
        omega
      · rw [List.mem_singleton.mp hlast]
    have hbefore := hleast c' hc'
    rw [load_append_singleton]
    omega

/-- Two loads differ by the weight of one item at most. -/
theorem Balanced.load_le (h : Balanced weight buckets) {w : Int} (hw : 0 ≤ w)
    (hweights : ∀ b ∈ buckets, ∀ x ∈ b, 0 ≤ weight x ∧ weight x ≤ w) {b c : List α}
    (hb : b ∈ buckets) (hc : c ∈ buckets) : load weight b ≤ load weight c + w := by
  by_cases hempty : b = []
  · have := load_nonneg fun x hx => (hweights c hc x hx).1
    rw [hempty, load_nil]
    omega
  · obtain ⟨x, hx, hmin⟩ := exists_minimal hempty weight
    have hbalance := h b hb x hx hmin c hc
    have hxw := (hweights b hb x hx).2
    omega

/-- If one bucket is empty, no other has two items of positive weight. -/
theorem Balanced.length_le_one (h : Balanced weight buckets)
    (hpos : ∀ b ∈ buckets, ∀ x ∈ b, 0 < weight x) (hempty : [] ∈ buckets) {b : List α}
    (hb : b ∈ buckets) : b.length ≤ 1 := by
  by_contra hlong
  have hne : b ≠ [] := by
    intro hnil
    rw [hnil] at hlong
    exact hlong (Nat.zero_le 1)
  obtain ⟨x, hx, hmin⟩ := exists_minimal hne weight
  have hbalance := h b hb x hx hmin [] hempty
  obtain ⟨before, after, rfl⟩ := List.append_of_mem hx
  have hothers : before ++ after ≠ [] := by
    intro hnil
    obtain ⟨hbefore, hafter⟩ := List.append_eq_nil_iff.mp hnil
    rw [hbefore, hafter] at hlong
    exact hlong (Nat.le_refl 1)
  have hrest : 0 < load weight (before ++ after) := load_pos
    (fun y hy => hpos _ hb y (by
      rcases List.mem_append.mp hy with hbefore | hafter
      · exact List.mem_append_left _ hbefore
      · exact List.mem_append_right _ (List.mem_cons_of_mem _ hafter))) hothers
  rw [load_append, load_cons, load_nil] at hbalance
  rw [load_append] at hrest
  omega

theorem length_flatten_lt (hempty : [] ∈ buckets) (hone : ∀ b ∈ buckets, b.length ≤ 1) :
    buckets.flatten.length < buckets.length := by
  have hbound : ∀ bs : List (List α), (∀ b ∈ bs, b.length ≤ 1) → bs.flatten.length ≤ bs.length := by
    intro bs hbs
    induction bs with
    | nil => exact Nat.le_refl 0
    | cons b bs ih =>
      have hb := hbs b List.mem_cons_self
      have := ih fun c hc => hbs c (List.mem_cons_of_mem _ hc)
      rw [List.flatten_cons, List.length_append, List.length_cons]
      omega
  obtain ⟨before, after, rfl⟩ := List.append_of_mem hempty
  have hbefore := hbound before fun b hb => hone b (List.mem_append_left _ hb)
  have hafter := hbound after fun b hb =>
    hone b (List.mem_append_right _ (List.mem_cons_of_mem _ hb))
  rw [List.flatten_append, List.flatten_cons, List.nil_append, List.length_append,
    List.length_append, List.length_cons]
  omega

/-- As many items of positive weight as there are buckets leave no bucket empty. -/
theorem Balanced.nil_not_mem (h : Balanced weight buckets)
    (hpos : ∀ b ∈ buckets, ∀ x ∈ b, 0 < weight x)
    (hmany : buckets.length ≤ buckets.flatten.length) : [] ∉ buckets := by
  intro hempty
  have := length_flatten_lt hempty fun b hb => h.length_le_one hpos hempty hb
  omega

end Scan
end DaftOlap
