/-
Slicing decoded batches.

A record batch is its rows and the number of bytes each of its row ranges takes.
-/
import DaftOlap.Common.Contracts
import DaftOlap.Scan.Slices

namespace DaftOlap

/-- A decoded batch.  `sliceBytes offset length` is `batch.slice(offset, length).nbytes`. -/
structure RecordBatch (Row : Type) where
  rows : List Row
  sliceBytes : Nat → Nat → Nat

namespace RecordBatch

variable {Row : Type} (batch : RecordBatch Row)

def numRows : Nat := batch.rows.length

def nbytes : Nat := batch.sliceBytes 0 batch.numRows

/-- The rows of `batch.slice(offset, length)`. -/
def slice (s : Nat × Nat) : List Row := (batch.rows.drop s.1).take s.2

/-- `batch.slice(offset, length)`. -/
def bounded (s : Nat × Nat) : RecordBatch Row :=
  ⟨batch.slice s, fun offset length => batch.sliceBytes (s.1 + offset) length⟩

/-- A range does not take more bytes than a range of the batch it lies in. -/
def Monotone : Prop :=
  ∀ o n o' n', o + n ≤ batch.numRows → o ≤ o' → o' + n' ≤ o + n → 0 < n' →
    batch.sliceBytes o' n' ≤ batch.sliceBytes o n

end RecordBatch

/-- The inner loop of `iter_batch_slices`: the last size between `low` and `high` it found to
be within the byte target, and `size` if there was none. -/
def searchSize (bytes : Nat → Nat) (target low high size : Nat) (hlow : 1 ≤ low) : Nat :=
  if low ≤ high then
    let candidateSize := (low + high) / 2
    if bytes candidateSize ≤ target then
      searchSize bytes target (candidateSize + 1) high candidateSize (by omega)
    else searchSize bytes target low (candidateSize - 1) size hlow
  else size
termination_by high + 1 - low
decreasing_by all_goals omega

theorem searchSize_range {bytes : Nat → Nat} {target low high size upper : Nat}
    {hlow : 1 ≤ low} (hhigh : high ≤ upper) (hsize : 1 ≤ size ∧ size ≤ upper) :
    1 ≤ searchSize bytes target low high size hlow ∧
      searchSize bytes target low high size hlow ≤ upper := by
  fun_induction searchSize bytes target low high size hlow with
  | case1 low high size hlow hle candidateSize hfits ih =>
    apply ih hhigh
    omega
  | case2 low high size hlow hle candidateSize hfits ih =>
    apply ih _ hsize
    omega
  | case3 low high size hlow hle => exact hsize

theorem searchSize_fits {bytes : Nat → Nat} {target low high size : Nat}
    {hlow : 1 ≤ low} (hsize : bytes size ≤ target ∨ size = 1) :
    bytes (searchSize bytes target low high size hlow) ≤ target ∨
      searchSize bytes target low high size hlow = 1 := by
  fun_induction searchSize bytes target low high size hlow with
  | case1 low high size hlow hle candidateSize hfits ih => exact ih (Or.inl hfits)
  | case2 low high size hlow hle candidateSize hfits ih => exact ih hsize
  | case3 low high size hlow hle => exact hsize

/-- The invariant: no size above `high` is within the target, and `size` is not below
`low - 1`. -/
theorem searchSize_max {bytes : Nat → Nat} {target low high size upper : Nat} {hlow : 1 ≤ low}
    (hmono : ∀ m n, 1 ≤ m → m ≤ n → n ≤ upper → bytes m ≤ bytes n)
    (habove : ∀ n, high < n → n ≤ upper → target < bytes n) (hsize : low ≤ size + 1) :
    ∀ n, searchSize bytes target low high size hlow < n → n ≤ upper → target < bytes n := by
  fun_induction searchSize bytes target low high size hlow with
  | case1 low high size hlow hle candidateSize hfits ih =>
    exact ih habove (Nat.le_refl _)
  | case2 low high size hlow hle candidateSize hfits ih =>
    refine ih ?_ hsize
    intro n hn hupper
    have hcandidate : bytes candidateSize ≤ bytes n :=
      hmono candidateSize n (by omega) (by omega) hupper
    omega
  | case3 low high size hlow hle =>
    intro n hn hupper
    exact habove n (by omega) hupper

variable {Row : Type}

/-- The size of the slice at `offset`. -/
def sliceSize (batch : RecordBatch Row) (limits : ResourceLimits) (offset : Nat) : Nat :=
  let upper := min limits.batchRows (batch.numRows - offset)
  if batch.sliceBytes offset upper ≤ limits.batchBytes then upper
  else searchSize (batch.sliceBytes offset) limits.batchBytes 1 upper 1 (Nat.le_refl 1)

theorem sliceSize_range {batch : RecordBatch Row} (limits : ResourceLimits) {offset : Nat}
    (h : offset < batch.numRows) :
    1 ≤ sliceSize batch limits offset ∧
      sliceSize batch limits offset ≤ min limits.batchRows (batch.numRows - offset) := by
  have hrows := limits.batchRows_valid.1
  simp only [sliceSize]
  split
  · omega
  · exact searchSize_range (Nat.le_refl _) (by omega)

/-- `iter_batch_slices`: the slices of a batch from `offset` on. -/
def iterBatchSlicesFrom (batch : RecordBatch Row) (limits : ResourceLimits) (offset : Nat) :
    List (Nat × Nat) :=
  if _h : offset < batch.numRows then
    let size := sliceSize batch limits offset
    (offset, size) :: iterBatchSlicesFrom batch limits (offset + size)
  else []
termination_by batch.numRows - offset
decreasing_by
  have := (sliceSize_range limits _h).1
  omega

/-- Slice one decoded batch by row cap and byte target without dropping oversized rows. -/
def iterBatchSlices (batch : RecordBatch Row) (limits : ResourceLimits) : List (Nat × Nat) :=
  iterBatchSlicesFrom batch limits 0

/-- What the limits ask of a slice. -/
def WithinLimits (batch : RecordBatch Row) (limits : ResourceLimits) (offset length : Nat) : Prop :=
  length ≤ limits.batchRows ∧ (batch.sliceBytes offset length ≤ limits.batchBytes ∨ length = 1)

theorem withinLimits_sliceSize {batch : RecordBatch Row} {limits : ResourceLimits} {offset : Nat}
    (h : offset < batch.numRows) :
    WithinLimits batch limits offset (sliceSize batch limits offset) := by
  constructor
  · have := (sliceSize_range limits h).2
    omega
  · simp only [sliceSize]
    split
    · next hfits => exact Or.inl hfits
    · exact searchSize_fits (Or.inr rfl)

theorem maximal_sliceSize {batch : RecordBatch Row} {limits : ResourceLimits} {offset : Nat}
    (hmono : batch.Monotone) (h : offset < batch.numRows) :
    Scan.Maximal (WithinLimits batch limits) batch.numRows
      (offset, sliceSize batch limits offset) := by
  intro n hn hstop hfits
  obtain ⟨hrows, hbytes⟩ := hfits
  simp only at hn hstop hrows hbytes
  have hone := (sliceSize_range limits h).1
  simp only [sliceSize] at hn hone
  split at hn
  · omega
  · next hlarge =>
    rw [if_neg hlarge] at hone
    have hbig := searchSize_max
      (fun k m hk hkm hm => hmono offset m offset k (by omega) (Nat.le_refl _) (by omega) hk)
      (fun m hm hupper => absurd hm (Nat.not_lt.mpr hupper)) (Nat.le_succ 1) n hn (by omega)
    omega

theorem slices_iterBatchSlicesFrom (batch : RecordBatch Row) (limits : ResourceLimits)
    (offset : Nat) (h : offset ≤ batch.numRows) :
    Scan.Slices (WithinLimits batch limits) batch.numRows offset
      (iterBatchSlicesFrom batch limits offset) := by
  fun_induction iterBatchSlicesFrom batch limits offset with
  | case1 offset hmore size ih =>
    have hrange := sliceSize_range limits hmore
    exact .next hrange.1 (withinLimits_sliceSize hmore) (ih (by omega))
  | case2 offset hdone =>
    obtain rfl : offset = batch.numRows := by omega
    exact .done

theorem mem_iterBatchSlicesFrom {batch : RecordBatch Row} {limits : ResourceLimits}
    {offset : Nat} {s : Nat × Nat} (h : s ∈ iterBatchSlicesFrom batch limits offset) :
    s.1 < batch.numRows ∧ s = (s.1, sliceSize batch limits s.1) := by
  fun_induction iterBatchSlicesFrom batch limits offset with
  | case1 offset hmore size ih =>
    rcases List.mem_cons.mp h with hhead | htail
    · subst hhead
      exact ⟨hmore, rfl⟩
    · exact ih htail
  | case2 offset hdone => exact absurd h List.not_mem_nil

/-- A slice is a batch of its own within the limits. -/
theorem withinLimits_bounded {batch : RecordBatch Row} {limits : ResourceLimits} {s : Nat × Nat}
    (hs : s ∈ iterBatchSlices batch limits) :
    1 ≤ (batch.bounded s).numRows ∧
      WithinLimits (batch.bounded s) limits 0 (batch.bounded s).numRows := by
  obtain ⟨hpos, hfits, hstop⟩ := (slices_iterBatchSlicesFrom batch limits 0 (Nat.zero_le _)).of_mem hs
  have hrows : (batch.bounded s).numRows = s.2 := by
    show ((batch.rows.drop s.1).take s.2).length = s.2
    have : s.1 + s.2 ≤ batch.rows.length := hstop
    rw [List.length_take, List.length_drop]
    omega
  rw [hrows]
  exact ⟨hpos, hfits⟩

theorem flatMap_bounded (batch : RecordBatch Row) (limits : ResourceLimits) :
    ((iterBatchSlices batch limits).map batch.bounded).flatMap RecordBatch.rows = batch.rows := by
  have hrows := (slices_iterBatchSlicesFrom batch limits 0 (Nat.zero_le _)).flatten
  rwa [List.flatMap_def, List.map_map]

theorem withinLimits_part {batch : RecordBatch Row} {limits : ResourceLimits}
    (hmono : batch.Monotone) {o n o' n' : Nat} (hfits : WithinLimits batch limits o n)
    (hstop : o + n ≤ batch.numRows) (hstart : o ≤ o') (hend : o' + n' ≤ o + n) (hpos : 0 < n') :
    WithinLimits batch limits o' n' := by
  obtain ⟨hrows, hbytes⟩ := hfits
  have hshrink := hmono o n o' n' hstop hstart hend hpos
  exact ⟨by omega, by omega⟩

/-- The slices of a batch follow one another and cover it, within the limits.  With a measure
that never shrinks on longer ranges none of them can take one more row, and no other
division within the limits has fewer. -/
theorem iterBatchSlices_divides (batch : RecordBatch Row) (limits : ResourceLimits) :
    Scan.Slices (WithinLimits batch limits) batch.numRows 0 (iterBatchSlices batch limits) ∧
    ((iterBatchSlices batch limits).map batch.slice).flatten = batch.rows ∧
    (batch.Monotone →
      (∀ s ∈ iterBatchSlices batch limits, s.1 + s.2 < batch.numRows →
        limits.batchRows < s.2 + 1 ∨ limits.batchBytes < batch.sliceBytes s.1 (s.2 + 1)) ∧
      ∀ others, Scan.Slices (WithinLimits batch limits) batch.numRows 0 others →
        (iterBatchSlices batch limits).length ≤ others.length) := by
  have hslices : Scan.Slices (WithinLimits batch limits) batch.numRows 0
      (iterBatchSlices batch limits) :=
    slices_iterBatchSlicesFrom batch limits 0 (Nat.zero_le _)
  refine ⟨hslices, hslices.flatten, fun hmono => ?_⟩
  have hmax : ∀ s ∈ iterBatchSlices batch limits,
      Scan.Maximal (WithinLimits batch limits) batch.numRows s := by
    intro s hs
    obtain ⟨hmore, heq⟩ := mem_iterBatchSlicesFrom hs
    rw [heq]
    exact maximal_sliceSize hmono hmore
  constructor
  · intro s hs hmore
    have hlonger := hmax s hs (s.2 + 1) (Nat.lt_succ_self _) hmore
    by_contra hroom
    exact hlonger ⟨by omega, by omega⟩
  · intro others hothers
    exact Scan.Slices.length_le (fun o n o' n' => withinLimits_part hmono) hothers hslices hmax
      (Nat.le_refl 0)

/-- Two rows of 60000 bytes under a target of 65536. -/
def twoLargeRows : RecordBatch Nat := ⟨[1, 2], fun _ length => 60000 * length⟩

/-- Each of them is a slice of its own, and one slice is not enough. -/
theorem iterBatchSlices_twoLargeRows :
    twoLargeRows.Monotone ∧ iterBatchSlices twoLargeRows exampleLimits = [(0, 1), (1, 1)] ∧
    ∀ others, Scan.Slices (WithinLimits twoLargeRows exampleLimits) 2 0 others →
      2 ≤ others.length := by
  have hmono : twoLargeRows.Monotone := by
    intro o n o' n' hstop hstart hend hpos
    show 60000 * n' ≤ 60000 * n
    omega
  have hslices : iterBatchSlices twoLargeRows exampleLimits = [(0, 1), (1, 1)] := by
    simp [iterBatchSlices, iterBatchSlicesFrom, sliceSize, searchSize, twoLargeRows, exampleLimits,
      RecordBatch.numRows]
  refine ⟨hmono, hslices, fun others hothers => ?_⟩
  have hfewest := ((iterBatchSlices_divides twoLargeRows exampleLimits).2.2 hmono).2 others hothers
  rw [hslices] at hfewest
  exact hfewest

end DaftOlap
