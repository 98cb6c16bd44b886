/-
Which rows a Doris SELECT reads.

What the server makes of a trusted fragment is left open, as are the cells; a row lies in one
tablet.
-/
import DaftOlap.Doris.DataSource

namespace DaftOlap
namespace Doris

open Python Logic

/-- A row of a table: the cells of its columns and the tablet it lies in. -/
structure Row (Cell : Type) where
  cells : Text → Cell
  tablet : Int

/-- What a server makes of the parts of a statement. -/
structure Server (Cell : Type) where
  cells : CellSemantics Cell
  fragment : Template PyValue → (Text → Cell) → Truth

variable {Cell : Type}

namespace Statement

/-- The value of the WHERE clause on a row. -/
def condition (s : Statement) (server : Server Cell) (row : Row Cell) : Truth :=
  Truth.all ((s.fragment.map fun f => server.fragment f row.cells).toList ++
    (s.predicate.map fun p => p.eval server.cells row.cells).toList)

/-- The WHERE clause keeps a row of the tablets the statement reads. -/
def keeps (s : Statement) (server : Server Cell) (row : Row Cell) : Bool :=
  decide (s.condition server row = .true) && s.tablets.all fun ids => decide (row.tablet ∈ ids)

theorem keeps_eq_true_iff {s : Statement} {server : Server Cell} {row : Row Cell} :
    s.keeps server row = true ↔
      (∀ f ∈ s.fragment, server.fragment f row.cells = .true) ∧
      (∀ p ∈ s.predicate, p.eval server.cells row.cells = .true) ∧
      ∀ ids ∈ s.tablets, row.tablet ∈ ids := by
  rw [keeps, Bool.and_eq_true, decide_eq_true_iff, condition, Truth.all_eq_true, Option.all_eq_true]
  simp only [List.mem_append, Option.mem_toList, Option.map_eq_some_iff, Option.mem_def,
    decide_eq_true_eq]
  constructor
  · intro h
    obtain ⟨hall, htablets⟩ := h
    exact ⟨fun f hf => hall _ (Or.inl ⟨f, hf, rfl⟩), fun p hp => hall _ (Or.inr ⟨p, hp, rfl⟩),
      htablets⟩
  · intro h
    obtain ⟨hfragment, hpredicate, htablets⟩ := h
    refine ⟨fun t ht => ?_, htablets⟩
    rcases ht with ⟨f, hf, rfl⟩ | ⟨p, hp, rfl⟩
    · exact hfragment f hf
    · exact hpredicate p hp

end Statement

namespace DataSource

/-- The trusted fragment is true of a row. -/
def trusts (source : DataSource) (server : Server Cell) (row : Row Cell) : Bool :=
  source.fragment.all fun f => decide (server.fragment f row.cells = .true)

/-- The value of a compiled predicate on a row of a scan. -/
def truth (server : Server Cell) (p : Predicate) (row : Row Cell) : Truth :=
  p.eval server.cells row.cells

/-- The fragment and the predicate are true of a row. -/
def meets (source : DataSource) (predicate : Option Predicate) (server : Server Cell)
    (row : Row Cell) : Bool :=
  source.trusts server row && predicate.all fun p => decide (truth server p row = .true)

/-- Without its tablets the query of a scan keeps what fragment and predicate are true of. -/
theorem keeps_scan {source : DataSource} {columns : List Text} {predicate : Option Predicate}
    {limit : Option Nat} {tabletIds : Option (List Int)} {server : Server Cell} (row : Row Cell) :
    { (source.scanArguments columns predicate limit tabletIds).statement with
        tablets := none }.keeps server row = source.meets predicate server row := by
  rw [Bool.eq_iff_iff, Statement.keeps_eq_true_iff, meets, Bool.and_eq_true, trusts,
    Option.all_eq_true, Option.all_eq_true]
  constructor
  · intro h
    obtain ⟨hfragment, hpredicate, -⟩ := h
    exact ⟨fun f hf => decide_eq_true (hfragment f hf),
      fun p hp => decide_eq_true (hpredicate p hp)⟩
  · intro h
    obtain ⟨hfragment, hpredicate⟩ := h
    exact ⟨fun f hf => of_decide_eq_true (hfragment f hf),
      fun p hp => of_decide_eq_true (hpredicate p hp), fun _ hnone => nomatch hnone⟩

end DataSource

end Doris
end DaftOlap
