/-
Weighted groups do not depend on the order of the items, and are balanced.

`itemBuckets` is the run of `groupWeightedItems` with whole items in its buckets
instead of names and loads.
-/
import DaftOlap.Common.Contracts
import DaftOlap.Scan.Balance

namespace DaftOlap

open Python

/-! ## The order of the items -/

theorem itemLe_iff {a b : Text × Int} :
    itemLe a b = true ↔ b.2 < a.2 ∨ (a.2 = b.2 ∧ Text.ble a.1 b.1 = true) := by
  simp [itemLe]

theorem itemLe_total (a b : Text × Int) : (itemLe a b || itemLe b a) = true := by
  rw [Bool.or_eq_true, itemLe_iff, itemLe_iff]
  by_cases heq : a.2 = b.2
  · rcases Text.ble_total a.1 b.1 with hab | hba
    · exact Or.inl (Or.inr ⟨heq, hab⟩)
    · exact Or.inr (Or.inr ⟨heq.symm, hba⟩)
  · rcases Int.lt_or_gt_of_ne heq with hlt | hgt
    · exact Or.inr (Or.inl hlt)
    · exact Or.inl (Or.inl hgt)

theorem itemLe_trans (a b c : Text × Int) (hab : itemLe a b = true) (hbc : itemLe b c = true) :
    itemLe a c = true := by
  rw [itemLe_iff] at hab hbc ⊢
  rcases hab with hlt | ⟨heq, hab⟩
  · exact Or.inl (by omega)
  · rcases hbc with hlt | ⟨heq', hbc⟩
    · exact Or.inl (by omega)
    · exact Or.inr ⟨heq.trans heq', Text.ble_trans hab hbc⟩

theorem itemLe_antisymm {a b : Text × Int} (hab : itemLe a b = true) (hba : itemLe b a = true) :
    a = b := by
  rw [itemLe_iff] at hab hba
  have hweight : a.2 = b.2 := by omega
  rcases hab with hlt | ⟨-, hab⟩
  · omega
  · rcases hba with hlt | ⟨-, hba⟩
    · omega
    · exact Prod.ext (Text.ble_antisymm hab hba) hweight

theorem pairwise_itemLe (items : List (Text × Int)) :
    (items.mergeSort itemLe).Pairwise fun a b => itemLe a b = true :=
  List.pairwise_mergeSort itemLe_trans itemLe_total items

/-- The order is total on items, so sorting forgets how they were listed. -/
theorem mergeSort_itemLe_congr {items items' : List (Text × Int)} (h : items'.Perm items) :
    items'.mergeSort itemLe = items.mergeSort itemLe := by
  refine List.Perm.eq_of_pairwise ?_ (pairwise_itemLe items') (pairwise_itemLe items) ?_
  · intro a b _ _ hab hba
    exact itemLe_antisymm hab hba
  · exact ((List.mergeSort_perm items' itemLe).trans h).trans (List.mergeSort_perm items itemLe).symm

theorem groupWeightedItems_congr {items items' : List (Text × Int)} (h : items'.Perm items)
    (targetGroups maxGroups : Nat) :
    groupWeightedItems items' targetGroups maxGroups =
      groupWeightedItems items targetGroups maxGroups := by
  have hempty : items' = [] ↔ items = [] := by
    rw [← List.length_eq_zero_iff, h.length_eq, List.length_eq_zero_iff]
  simp only [groupWeightedItems, mergeSort_itemLe_congr h, h.length_eq, hempty]

/-! ## The run with whole items -/

/-- The number of buckets. -/
def groupCount (items : List (Text × Int)) (targetGroups maxGroups : Nat) : Nat :=
  min (min items.length targetGroups) maxGroups

/-- The bucket of `group_weighted_items` that holds some items. -/
def bucketOf (items : List (Text × Int)) : Bucket where
  weight := Scan.load Prod.snd items
  names := items.map Prod.fst

/-- Put one item into the lightest bucket. -/
def placeItem (buckets : List (List (Text × Int))) (item : Text × Int) :
    List (List (Text × Int)) :=
  Scan.place (lightest (buckets.map bucketOf)) item buckets

/-- All buckets with their items, the empty ones included. -/
def itemBuckets (items : List (Text × Int)) (targetGroups maxGroups : Nat) :
    List (List (Text × Int)) :=
  (items.mergeSort itemLe).foldl placeItem (List.replicate (groupCount items targetGroups maxGroups) [])

theorem map_bucketOf_placeItem {item : Text × Int} (h : 0 ≤ item.2)
    (buckets : List (List (Text × Int))) :
    (placeItem buckets item).map bucketOf = addItem (buckets.map bucketOf) item := by
  apply List.ext_getElem
  · simp [placeItem, Scan.place, addItem]
  · intro j hj hj'
    by_cases hij : lightest (buckets.map bucketOf) = j
    · subst hij
      simp [placeItem, Scan.place, addItem, bucketOf, Int.max_eq_left h]
    · simp [placeItem, Scan.place, addItem, hij]

theorem map_bucketOf_foldl {items : List (Text × Int)} (h : ∀ item ∈ items, 0 ≤ item.2)
    (buckets : List (List (Text × Int))) :
    (items.foldl placeItem buckets).map bucketOf = items.foldl addItem (buckets.map bucketOf) := by
  induction items generalizing buckets with
  | nil => rfl
  | cons item items ih =>
    rw [List.foldl_cons, List.foldl_cons, ih fun i hi => h i (List.mem_cons_of_mem _ hi),
      map_bucketOf_placeItem (h item List.mem_cons_self)]

/-- The groups are the names in the buckets, sorted, without the empty buckets. -/
theorem groupWeightedItems_eq {items : List (Text × Int)} (h : ∀ item ∈ items, 0 ≤ item.2)
    (targetGroups maxGroups : Nat) :
    groupWeightedItems items targetGroups maxGroups =
      ((itemBuckets items targetGroups maxGroups).filter (· ≠ [])).map fun b =>
        Text.sorted (b.map Prod.fst) := by
  have hsorted : ∀ item ∈ items.mergeSort itemLe, 0 ≤ item.2 := by
    intro item hitem
    exact h item ((List.mergeSort_perm items itemLe).mem_iff.mp hitem)
  have hrun := map_bucketOf_foldl hsorted
    (List.replicate (groupCount items targetGroups maxGroups) [])
  rw [List.map_replicate] at hrun
  by_cases hempty : items = []
  · simp [groupWeightedItems, itemBuckets, groupCount, hempty]
  · simp only [groupWeightedItems, if_neg hempty]
    rw [show ({} : Bucket) = bucketOf [] from rfl, ← groupCount, ← hrun, ← itemBuckets,
      List.filter_map, List.map_map]
    congr 1
    apply List.filter_congr
    intro b _
    simp [bucketOf]

/-! ## Balance -/

theorem lightest_least {buckets : List (List (Text × Int))}
    (h : lightest (buckets.map bucketOf) < buckets.length) :
    ∀ c ∈ buckets, Scan.load Prod.snd buckets[lightest (buckets.map bucketOf)] ≤
      Scan.load Prod.snd c := by
  intro c hc
  have hlt : lightest (buckets.map bucketOf) < (buckets.map bucketOf).length := by
    rwa [List.length_map]
  have hfound : ((buckets.map bucketOf).all fun c =>
      (buckets.map bucketOf)[lightest (buckets.map bucketOf)].weight ≤ c.weight) = true :=
    List.findIdx_getElem (w := hlt)
  rw [List.all_eq_true] at hfound
  have hle := hfound (bucketOf c) (List.mem_map_of_mem hc)
  rw [decide_eq_true_eq, List.getElem_map] at hle
  exact hle

/-- The invariant of the run, and with the number of buckets and their items what it keeps:
the items still to come are not heavier than those already placed. -/
theorem balanced_foldl {items : List (Text × Int)} {buckets : List (List (Text × Int))}
    (hne : buckets ≠ []) (hnonneg : ∀ item ∈ items, 0 ≤ item.2)
    (horder : items.Pairwise fun a b => itemLe a b = true)
    (hheavier : ∀ item ∈ items, ∀ b ∈ buckets, ∀ y ∈ b, item.2 ≤ y.2)
    (hbalanced : Scan.Balanced Prod.snd buckets) :
    (items.foldl placeItem buckets).length = buckets.length ∧
      (items.foldl placeItem buckets).flatten.Perm (buckets.flatten ++ items) ∧
      Scan.Balanced Prod.snd (items.foldl placeItem buckets) := by
  induction items generalizing buckets with
  | nil => exact ⟨rfl, by rw [List.append_nil]; exact List.Perm.refl _, hbalanced⟩
  | cons item items ih =>
    have hlt : lightest (buckets.map bucketOf) < buckets.length := by
      have : lightest (buckets.map bucketOf) < (buckets.map bucketOf).length :=
        lightest_lt (by simpa using hne)
      rwa [List.length_map] at this
    have hlength : (placeItem buckets item).length = buckets.length := Scan.length_place _ _ _
    have hflatten : (placeItem buckets item).flatten.Perm (buckets.flatten ++ [item]) := by
      have : ((buckets.modify _ fun b => b ++ [item]).flatMap id).Perm
          (buckets.flatMap id ++ [item]) := Scan.modify_flatMap_perm (fun _ => rfl) hlt
      rwa [List.flatMap_id, List.flatMap_id] at this
    have hfirst := List.pairwise_cons.mp horder
    have hstep := hbalanced.place (hnonneg item List.mem_cons_self)
      (hheavier item List.mem_cons_self) hlt (lightest_least hlt)
    have hheavier' : ∀ i ∈ items, ∀ b ∈ placeItem buckets item, ∀ y ∈ b, i.2 ≤ y.2 := by
      intro i hi b hb y hy
      rcases Scan.mem_place hb with hold | ⟨hlt', hnew⟩
      · exact hheavier i (List.mem_cons_of_mem _ hi) b hold y hy
      · rw [hnew] at hy
        rcases List.mem_append.mp hy with hin | hlast
        · exact hheavier i (List.mem_cons_of_mem _ hi) _ (List.getElem_mem hlt') y hin
        · rw [List.mem_singleton.mp hlast]
          have := itemLe_iff.mp (hfirst.1 i hi)
          omega
    have hne' : placeItem buckets item ≠ [] := by
      rw [← List.length_pos_iff, hlength]
      exact List.length_pos_iff.mpr hne
    obtain ⟨hlen, hperm, hbal⟩ := ih hne'
      (fun i hi => hnonneg i (List.mem_cons_of_mem _ hi)) hfirst.2 hheavier' hstep
    refine ⟨hlen.trans hlength, ?_, hbal⟩
    rw [List.foldl_cons, ← List.singleton_append, ← List.append_assoc]
    exact hperm.trans (hflatten.append_right items)

theorem itemBuckets_spec {items : List (Text × Int)} (hweights : ∀ item ∈ items, 0 ≤ item.2)
    {targetGroups maxGroups : Nat} (htarget : 1 ≤ targetGroups) (hmax : 1 ≤ maxGroups) :
    (itemBuckets items targetGroups maxGroups).length = groupCount items targetGroups maxGroups ∧
      (itemBuckets items targetGroups maxGroups).flatten.Perm items ∧
      Scan.Balanced Prod.snd (itemBuckets items targetGroups maxGroups) := by
  have hperm := List.mergeSort_perm items itemLe
  by_cases hempty : items = []
  · subst hempty
    refine ⟨by simp [itemBuckets, groupCount], by simp [itemBuckets, groupCount], ?_⟩
    intro b hb
    simp [itemBuckets, groupCount] at hb
  · have hpos := List.length_pos_iff.mpr hempty
    have hcount : groupCount items targetGroups maxGroups ≠ 0 := by
      unfold groupCount
      omega
    have hstart : ∀ b ∈ List.replicate (groupCount items targetGroups maxGroups)
        ([] : List (Text × Int)), b = [] := fun b hb => List.eq_of_mem_replicate hb
    obtain ⟨hlength, hflatten, hbalanced⟩ := @balanced_foldl _
      (List.replicate (groupCount items targetGroups maxGroups) [])
      (mt (List.replicate_eq_nil_iff _).mp hcount)
      (fun item hitem => hweights item (hperm.mem_iff.mp hitem)) (pairwise_itemLe items)
      (fun item _ b hb y hy => by rw [hstart b hb] at hy; exact absurd hy List.not_mem_nil)
      (fun b hb y hy => by rw [hstart b hb] at hy; exact absurd hy List.not_mem_nil)
    refine ⟨by rw [itemBuckets, hlength, List.length_replicate], ?_, hbalanced⟩
    rw [List.flatten_replicate_nil, List.nil_append] at hflatten
    exact hflatten.trans hperm

/-- The groups of non-negative weights are at most `groupCount`, none empty, with every name
as often as the items have it, and exactly so many when the weights are positive.  They do
not depend on the order of the items.  Of the buckets they come from none is heavier, without
its lightest item, than any other, so no two loads differ by more than the largest weight. -/
theorem groupWeightedItems_balanced (items : List (Text × Int)) (targetGroups maxGroups : Nat)
    (htarget : 1 ≤ targetGroups) (hmax : 1 ≤ maxGroups) (hweights : ∀ item ∈ items, 0 ≤ item.2) :
    let groups := groupWeightedItems items targetGroups maxGroups
    let buckets := itemBuckets items targetGroups maxGroups
    groups.length ≤ groupCount items targetGroups maxGroups ∧
    (∀ group ∈ groups, group ≠ []) ∧
    groups.flatten.Perm (items.map Prod.fst) ∧
    ((∀ item ∈ items, 0 < item.2) → groups.length = groupCount items targetGroups maxGroups) ∧
    (∀ items', items'.Perm items → groupWeightedItems items' targetGroups maxGroups = groups) ∧
    groups = ((buckets.filter (· ≠ [])).map fun b => Text.sorted (b.map Prod.fst)) ∧
    buckets.length = groupCount items targetGroups maxGroups ∧
    buckets.flatten.Perm items ∧
    Scan.Balanced Prod.snd buckets ∧
    (∀ w, (∀ item ∈ items, item.2 ≤ w) → ∀ b ∈ buckets, ∀ c ∈ buckets,
      Scan.load Prod.snd b ≤ Scan.load Prod.snd c + w) := by
  intro groups buckets
  obtain ⟨hnames, -, hnonempty⟩ := groupWeightedItems_spec items htarget hmax
  obtain ⟨hlength, hflatten, hbalanced⟩ := itemBuckets_spec hweights htarget hmax
  have hgroups := groupWeightedItems_eq hweights targetGroups maxGroups
  have hmem : ∀ b ∈ buckets, ∀ x ∈ b, x ∈ items := by
    intro b hb x hx
    exact hflatten.mem_iff.mp (List.mem_flatten.mpr ⟨b, hb, hx⟩)
  have hle : groups.length ≤ groupCount items targetGroups maxGroups := by
    show (groupWeightedItems items targetGroups maxGroups).length ≤ _
    rw [← hlength, hgroups, List.length_map]
    exact List.length_filter_le _ _
  refine ⟨hle, hnonempty, hnames, ?_, fun items' h => groupWeightedItems_congr h _ _, hgroups,
    hlength, hflatten, hbalanced, ?_⟩
  · intro hpos
    have hfull : [] ∉ buckets := by
      refine hbalanced.nil_not_mem (fun b hb x hx => hpos x (hmem b hb x hx)) ?_
      rw [hlength, hflatten.length_eq]
      unfold groupCount
      omega
    have hall : buckets.filter (· ≠ []) = buckets := by
      rw [List.filter_eq_self]
      intro b hb
      rw [decide_eq_true_eq]
      intro hnil
      exact hfull (hnil ▸ hb)
    show (groupWeightedItems items targetGroups maxGroups).length = _
    rw [hgroups, List.length_map, hall, hlength]
  · intro w hw b hb c hc
    -- there is a bucket, so there is an item, and the bound is not negative
    have hpos : 0 < items.length := by
      have hbuckets := List.length_pos_of_mem hb
      rw [hlength] at hbuckets
      unfold groupCount at hbuckets
      omega
    obtain ⟨item, hitem⟩ := List.exists_mem_of_length_pos hpos
    have hbound : 0 ≤ w := (hweights item hitem).trans (hw item hitem)
    exact hbalanced.load_le hbound
      (fun b' hb' y hy => ⟨hweights y (hmem b' hb' y hy), hw y (hmem b' hb' y hy)⟩) hb hc

/-- Three items make two groups, in whatever order they are listed. -/
theorem groupWeightedItems_three :
    (groupWeightedItems [(str "a", 1), (str "b", 3), (str "c", 1)] 2 8).length = 2 ∧
    groupWeightedItems [(str "c", 1), (str "a", 1), (str "b", 3)] 2 8 =
      groupWeightedItems [(str "a", 1), (str "b", 3), (str "c", 1)] 2 8 := by
  obtain ⟨-, -, -, hcount, hperm, -⟩ := groupWeightedItems_balanced
    [(str "a", 1), (str "b", 3), (str "c", 1)] 2 8 (by decide) (by decide) (by decide)
  exact ⟨hcount (by decide), hperm _ (by decide)⟩

/-! ## Adjacent groups -/

/-- The first divisor of `group_adjacent_ids`, and the step of its range. -/
def adjacentGroupCount (values : List Int) (targetGroups maxGroups : Nat) : Nat :=
  min (min values.length targetGroups) maxGroups

def adjacentGroupSize (values : List Int) (targetGroups maxGroups : Nat) : Nat :=
  (values.length + adjacentGroupCount values targetGroups maxGroups - 1) /
    adjacentGroupCount values targetGroups maxGroups

theorem groupAdjacentIds_eq {values : List Int} (h : values ≠ []) (targetGroups maxGroups : Nat) :
    groupAdjacentIds values targetGroups maxGroups =
      Scan.chunks (adjacentGroupSize values targetGroups maxGroups) (sortInts values) := by
  rw [groupAdjacentIds, if_neg h]
  rfl

theorem sortInts_pairwise (values : List Int) : (sortInts values).Pairwise (· ≤ ·) := by
  have htrans : ∀ a b c : Int, decide (a ≤ b) = true → decide (b ≤ c) = true →
      decide (a ≤ c) = true := by
    intro a b c hab hbc
    exact decide_eq_true ((of_decide_eq_true hab).trans (of_decide_eq_true hbc))
  have htotal : ∀ a b : Int, (decide (a ≤ b) || decide (b ≤ a)) = true := by
    intro a b
    rw [Bool.or_eq_true, decide_eq_true_eq, decide_eq_true_eq]
    exact le_total a b
  exact (List.pairwise_mergeSort htrans htotal values).imp of_decide_eq_true

theorem sortInts_congr {values values' : List Int} (h : values'.Perm values) :
    sortInts values' = sortInts values := by
  have hperm : (sortInts values').Perm (sortInts values) :=
    ((List.mergeSort_perm _ _).trans h).trans (List.mergeSort_perm _ _).symm
  exact hperm.eq_of_pairwise (fun a b _ _ hab hba => le_antisymm hab hba)
    (sortInts_pairwise values') (sortInts_pairwise values)

theorem groupAdjacentIds_congr {values values' : List Int} (h : values'.Perm values)
    (targetGroups maxGroups : Nat) :
    groupAdjacentIds values' targetGroups maxGroups =
      groupAdjacentIds values targetGroups maxGroups := by
  by_cases hempty : values = []
  · rw [hempty] at h
    rw [hempty, h.eq_nil]
  · have hempty' : values' ≠ [] := by
      intro hnil
      rw [hnil] at h
      exact hempty h.symm.eq_nil
    rw [groupAdjacentIds_eq hempty, groupAdjacentIds_eq hempty', sortInts_congr h,
      adjacentGroupSize, adjacentGroupSize, adjacentGroupCount, adjacentGroupCount, h.length_eq]

/-- The groups are the sorted values cut into pieces of one size, between half and all
of the groups that are asked for. -/
theorem groupAdjacentIds_adjacent (values : List Int) (targetGroups maxGroups : Nat)
    (htarget : 1 ≤ targetGroups) (hmax : 1 ≤ maxGroups) :
    ((groupAdjacentIds values targetGroups maxGroups).flatten.Perm values ∧
      (groupAdjacentIds values targetGroups maxGroups).flatten.Pairwise (· ≤ ·)) ∧
    (values ≠ [] →
      let groups := groupAdjacentIds values targetGroups maxGroups
      let count := adjacentGroupCount values targetGroups maxGroups
      let size := adjacentGroupSize values targetGroups maxGroups
      count ≠ 0 ∧ size ≠ 0 ∧ (∀ group ∈ groups, group ≠ []) ∧
      (∀ group ∈ groups.dropLast, group.length = size) ∧
      groups.length ≤ count ∧ count < 2 * groups.length) ∧
    ∀ values' : List Int, values'.Perm values →
      groupAdjacentIds values' targetGroups maxGroups =
        groupAdjacentIds values targetGroups maxGroups := by
  obtain ⟨hflatten, -, hnonempty⟩ := groupAdjacentIds_spec values htarget hmax
  refine ⟨?_, ?_, fun values' h => groupAdjacentIds_congr h _ _⟩
  · rw [hflatten]
    exact ⟨List.mergeSort_perm _ _, sortInts_pairwise values⟩
  · intro hvalues groups count size
    have hpos := List.length_pos_iff.mpr hvalues
    have hlength : (sortInts values).length = values.length := (List.mergeSort_perm _ _).length_eq
    have hcount : 0 < adjacentGroupCount values targetGroups maxGroups := by
      unfold adjacentGroupCount
      omega
    have hle : adjacentGroupCount values targetGroups maxGroups ≤ values.length := by
      unfold adjacentGroupCount
      omega
    have hsize : 0 < adjacentGroupSize values targetGroups maxGroups :=
      Nat.div_pos (by omega) hcount
    have hgroups : groups = Scan.chunks size (sortInts values) :=
      groupAdjacentIds_eq hvalues targetGroups maxGroups
    have hsize_eq : size = ((sortInts values).length + count - 1) / count := by
      rw [hlength]
      rfl
    refine ⟨by omega, by omega, hnonempty, ?_, ?_, ?_⟩
    · intro group hgroup
      rw [hgroups] at hgroup
      exact Scan.length_of_mem_dropLast_chunks hsize hgroup
    · rw [hgroups, hsize_eq]
      exact Scan.length_chunks_le hcount (sortInts values)
    · rw [hgroups, hsize_eq]
      exact Scan.lt_two_mul_length_chunks hcount (by rw [hlength]; exact hle)

/-- Five values for four groups: three pairs, the last one short. -/
theorem groupAdjacentIds_five :
    4 < 2 * (groupAdjacentIds [3, 1, 2, 5, 4] 4 8).length ∧
    (∀ group ∈ (groupAdjacentIds [3, 1, 2, 5, 4] 4 8).dropLast, group.length = 2) := by
  obtain ⟨-, hgroups, -⟩ := groupAdjacentIds_adjacent [3, 1, 2, 5, 4] 4 8 (by decide) (by decide)
  obtain ⟨-, -, -, hsize, -, hhalf⟩ := hgroups (by decide)
  exact ⟨hhalf, hsize⟩

end DaftOlap
