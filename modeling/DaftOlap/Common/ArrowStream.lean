/-
Streams of Arrow batches.

A driver yields items, each of which is cast to a record batch or refused; a batch is yielded in
slices within the limits.  The loop ends with the driver, with an item that is refused, or at a
yield.
-/
import DaftOlap.Common.Streams

namespace DaftOlap

variable {I Row : Type}

/-- The loop over the items of a driver, after `count` yields: what is yielded, and the exception
that ends it.  `stopped` is what the driver raises after the items, if it does. -/
def forwardItems (cast : I → Except Raised (RecordBatch Row)) (limits : ResourceLimits)
    (thrown : Nat → Option Raised) (stopped : Option Raised) (count : Nat) :
    List I → List (RecordBatch Row) × Option Raised
  | [] => ([], stopped)
  | item :: items =>
    match cast item with
    | .error e => ([], some e)
    | .ok batch =>
      match deliver thrown count ((iterBatchSlices batch limits).map batch.bounded) with
      | (yielded, some e) => (yielded, some e)
      | (yielded, none) =>
        let later := forwardItems cast limits thrown stopped (count + yielded.length) items
        (yielded ++ later.1, later.2)

/-- The rows of batches. -/
def rowsOf (batches : List (RecordBatch Row)) : List Row := batches.flatMap RecordBatch.rows

/-- The items are cast to the batches. -/
def Casts (cast : I → Except Raised (RecordBatch Row)) (items : List I)
    (batches : List (RecordBatch Row)) : Prop :=
  List.Forall₂ (fun item batch => cast item = .ok batch) items batches

/-- Why a loop ends early, after `count` yields and with `yielded` since then: the driver raises
after its last item, an item is refused, or the consumer throws in at the last yield. -/
inductive Stopped (cast : I → Except Raised (RecordBatch Row)) (thrown : Nat → Option Raised)
    (stopped : Option Raised) (count : Nat) (items : List I) (yielded : List (RecordBatch Row))
    (e : Raised) : Prop
  | driver {batches : List (RecordBatch Row)} (h : stopped = some e)
      (hcasts : Casts cast items batches) (hrows : rowsOf yielded = rowsOf batches)
  | refused {before after : List I} {item : I} {batches : List (RecordBatch Row)}
      (hitems : items = before ++ item :: after) (hcasts : Casts cast before batches)
      (hrows : rowsOf yielded = rowsOf batches) (h : cast item = .error e)
  | consumer {k : Nat} (hlast : k + 1 = yielded.length) (h : thrown (count + k) = some e)

section Forward

variable {cast : I → Except Raised (RecordBatch Row)} {limits : ResourceLimits}
  {thrown : Nat → Option Raised} {stopped : Option Raised} {count : Nat} {items : List I}

theorem casts_cons {item : I} {batch : RecordBatch Row} {batches : List (RecordBatch Row)}
    (h : cast item = .ok batch) (hcasts : Casts cast items batches) :
    Casts cast (item :: items) (batch :: batches) := .cons h hcasts

theorem rowsOf_delivered {batch : RecordBatch Row} {yielded later : List (RecordBatch Row)}
    {batches : List (RecordBatch Row)}
    (hall : yielded = (iterBatchSlices batch limits).map batch.bounded)
    (hrows : rowsOf later = rowsOf batches) :
    rowsOf (yielded ++ later) = rowsOf (batch :: batches) := by
  rw [rowsOf, rowsOf, List.flatMap_append, List.flatMap_cons, hall, flatMap_bounded]
  exact congrArg (batch.rows ++ ·) hrows

/-- Every yielded batch is within the limits. -/
theorem forwardItems_bounded :
    ∀ batch ∈ (forwardItems cast limits thrown stopped count items).1,
      1 ≤ batch.numRows ∧ WithinLimits batch limits 0 batch.numRows := by
  have hslices : ∀ batch : RecordBatch Row,
      ∀ b ∈ (iterBatchSlices batch limits).map batch.bounded,
        1 ≤ b.numRows ∧ WithinLimits b limits 0 b.numRows := by
    intro batch b hb
    obtain ⟨s, hs, rfl⟩ := List.mem_map.mp hb
    exact withinLimits_bounded hs
  fun_induction forwardItems cast limits thrown stopped count items with
  | case1 count => exact fun _ hmem => absurd hmem List.not_mem_nil
  | case2 count item items e hcast => exact fun _ hmem => absurd hmem List.not_mem_nil
  | case3 count item items batch hcast yielded e hdeliver =>
    intro b hb
    exact hslices batch b ((interrupted_of_deliver hdeliver).1.subset hb)
  | case4 count item items batch hcast yielded hdeliver later ih =>
    obtain ⟨hall, -⟩ := delivered_of_deliver hdeliver
    intro b hb
    rcases List.mem_append.mp hb with hb | hb
    · exact hslices batch b (hall ▸ hb)
    · exact ih b hb

/-- However the loop ends, its rows are the first rows of the items that were cast. -/
theorem forwardItems_prefix :
    ∃ n batches, Casts cast (items.take n) batches ∧
      rowsOf (forwardItems cast limits thrown stopped count items).1 <+: rowsOf batches := by
  fun_induction forwardItems cast limits thrown stopped count items with
  | case1 count => exact ⟨0, [], .nil, List.prefix_refl _⟩
  | case2 count item items e hcast => exact ⟨0, [], .nil, List.prefix_refl _⟩
  | case3 count item items batch hcast yielded e hdeliver =>
    obtain ⟨⟨others, hothers⟩, -⟩ := interrupted_of_deliver hdeliver
    refine ⟨1, [batch], casts_cons hcast .nil, rowsOf others, ?_⟩
    rw [rowsOf, rowsOf, ← List.flatMap_append, hothers, flatMap_bounded]
    exact (List.append_nil _).symm
  | case4 count item items batch hcast yielded hdeliver later ih =>
    obtain ⟨hall, -⟩ := delivered_of_deliver hdeliver
    obtain ⟨n, batches, hcasts, others, hothers⟩ := ih
    refine ⟨n + 1, batch :: batches, casts_cons hcast hcasts, others, ?_⟩
    rw [rowsOf, List.flatMap_append, hall, flatMap_bounded, List.append_assoc]
    exact congrArg (batch.rows ++ ·) hothers

/-- If nothing is raised, all items were cast and all their rows yielded. -/
theorem forwardItems_complete
    (h : (forwardItems cast limits thrown stopped count items).2 = none) :
    stopped = none ∧
    (∃ batches, Casts cast items batches ∧
      rowsOf (forwardItems cast limits thrown stopped count items).1 = rowsOf batches) ∧
    ∀ k < (forwardItems cast limits thrown stopped count items).1.length,
      thrown (count + k) = none := by
  fun_induction forwardItems cast limits thrown stopped count items with
  | case1 count => exact ⟨h, ⟨[], .nil, rfl⟩, fun k hk => absurd hk (Nat.not_lt_zero k)⟩
  | case2 count item items e hcast => cases h
  | case3 count item items batch hcast yielded e hdeliver => cases h
  | case4 count item items batch hcast yielded hdeliver later ih =>
    obtain ⟨hall, hquiet⟩ := delivered_of_deliver hdeliver
    obtain ⟨hstopped, ⟨batches, hcasts, hrows⟩, hlater⟩ := ih h
    refine ⟨hstopped, ⟨batch :: batches, casts_cons hcast hcasts, rowsOf_delivered hall hrows⟩, ?_⟩
    intro k hk
    by_cases hnow : k < yielded.length
    · exact hquiet k hnow
    · have hthen := hlater (k - yielded.length)
        (show k - yielded.length < later.1.length by
          rw [List.length_append] at hk
          omega)
      rwa [show count + yielded.length + (k - yielded.length) = count + k by omega] at hthen

theorem forwardItems_stopped {e : Raised}
    (h : (forwardItems cast limits thrown stopped count items).2 = some e) :
    Stopped cast thrown stopped count items
      (forwardItems cast limits thrown stopped count items).1 e := by
  fun_induction forwardItems cast limits thrown stopped count items with
  | case1 count => exact .driver h .nil rfl
  | case2 count item items e' hcast =>
    obtain rfl := Option.some.inj h
    have hitems : item :: items = [] ++ item :: items := rfl
    exact .refused hitems .nil rfl hcast
  | case3 count item items batch hcast yielded e' hdeliver =>
    obtain rfl := Option.some.inj h
    obtain ⟨k, hk, hthrown⟩ := (interrupted_of_deliver hdeliver).2
    exact .consumer hk hthrown
  | case4 count item items batch hcast yielded hdeliver later ih =>
    obtain ⟨hall, -⟩ := delivered_of_deliver hdeliver
    cases ih h with
    | driver hstopped hcasts hrows =>
      exact .driver hstopped (casts_cons hcast hcasts) (rowsOf_delivered hall hrows)
    | @refused before after refusedItem batches hitems hcasts hrows hrefused =>
      have happend : item :: items = (item :: before) ++ refusedItem :: after :=
        congrArg (item :: ·) hitems
      exact .refused happend (casts_cons hcast hcasts) (rowsOf_delivered hall hrows) hrefused
    | @consumer k hlast hthrown =>
      refine .consumer (k := yielded.length + k) ?_ ?_
      · rw [List.length_append, ← hlast]
        rfl
      · rwa [← Nat.add_assoc]

/-- If every item can be cast and the consumer throws nothing in, the loop ends as the driver
does. -/
theorem forwardItems_of_casts (hcasts : ∀ item ∈ items, ∃ batch, cast item = .ok batch)
    (hthrown : ∀ n, thrown n = none) :
    (forwardItems cast limits thrown stopped count items).2 = stopped := by
  fun_induction forwardItems cast limits thrown stopped count items with
  | case1 count => rfl
  | case2 count item items e hcast =>
    obtain ⟨batch, hbatch⟩ := hcasts item List.mem_cons_self
    cases hcast.symm.trans hbatch
  | case3 count item items batch hcast yielded e hdeliver =>
    rw [deliver_of_none hthrown] at hdeliver
    cases hdeliver
  | case4 count item items batch hcast yielded hdeliver later ih =>
    exact ih fun other hother => hcasts other (List.mem_cons_of_mem _ hother)

/-- What holds of a loop from its beginning. -/
structure Forwarded (cast : I → Except Raised (RecordBatch Row)) (limits : ResourceLimits)
    (thrown : Nat → Option Raised) (stopped : Option Raised) (items : List I)
    (yielded : List (RecordBatch Row)) (failure : Option Raised) : Prop where
  bounded : ∀ batch ∈ yielded, 1 ≤ batch.numRows ∧ batch.numRows ≤ limits.batchRows ∧
    (batch.nbytes ≤ limits.batchBytes ∨ batch.numRows = 1)
  /-- However the loop ends, no row of it is lost before another, repeated or reordered. -/
  first : ∃ n batches, Casts cast (items.take n) batches ∧ rowsOf yielded <+: rowsOf batches
  complete : failure = none → stopped = none ∧
    (∃ batches, Casts cast items batches ∧ rowsOf yielded = rowsOf batches) ∧
    ∀ k < yielded.length, thrown k = none
  raised : ∀ e, failure = some e → Stopped cast thrown stopped 0 items yielded e
  casts : (∀ item ∈ items, ∃ batch, cast item = .ok batch) → (∀ n, thrown n = none) →
    failure = stopped

theorem forwarded (cast : I → Except Raised (RecordBatch Row)) (limits : ResourceLimits)
    (thrown : Nat → Option Raised) (stopped : Option Raised) (items : List I) :
    Forwarded cast limits thrown stopped items
      (forwardItems cast limits thrown stopped 0 items).1
      (forwardItems cast limits thrown stopped 0 items).2 where
  bounded := fun batch hbatch => by
    obtain ⟨hpos, hmax, hbytes⟩ := forwardItems_bounded batch hbatch
    exact ⟨hpos, hmax, hbytes⟩
  first := forwardItems_prefix
  complete := fun h => by
    obtain ⟨hstopped, hrows, hquiet⟩ := forwardItems_complete h
    exact ⟨hstopped, hrows, fun k hk => by simpa using hquiet k hk⟩
  raised := fun e h => forwardItems_stopped h
  casts := forwardItems_of_casts

end Forward

end DaftOlap
