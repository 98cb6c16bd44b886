/-
Which rows a ClickHouse SELECT reads.

The server resolves an unqualified name in WHERE to the alias of the SELECT list that
has it, if there is one, and otherwise to the table's own column: this is its default,
`prefer_column_name_to_alias = 0`.  What it makes of a cast, of an aggregate and of a
trusted fragment is left open.
-/
import DaftOlap.ClickHouse.Statement

namespace DaftOlap
namespace ClickHouse

open Python Logic

/-- A row of a table: the cells of its columns, virtual ones included, and the
partition it lies in. -/
structure Row (Cell : Type) where
  cells : Text → Cell
  partition : Text

/-- The meaning of a condition the connector does not parse: the unqualified column
names it mentions, and its value, which depends on these names only. -/
structure Meaning (Cell : Type) where
  names : List Text
  eval : (Text → Cell) → Truth
  eval_congr : ∀ row row', (∀ n ∈ names, row n = row' n) → eval row = eval row'

/-- What a server makes of the parts of a statement. -/
structure Server (Cell : Type) where
  cells : CellSemantics Cell
  cast : Text → Cell → Cell
  /-- What the alias of a `count()` denotes in WHERE. -/
  aggregate : Cell
  fragment : List (SqlPart (Text × PyValue)) → Meaning Cell
  compare_str : ∀ s t : Text, cells.compare .eq (cells.literal (.str s)) (cells.literal (.str t)) =
    Truth.ofBool (s == t)

/-- A server whose cells are the values themselves and whose fragments hold. -/
def Server.identity : Server PyValue where
  cells := .identity
  cast _ v := v
  aggregate := .none
  fragment _ := ⟨[], fun _ => .true, fun _ _ _ => rfl⟩
  compare_str s t := by simp [CellSemantics.identity, beq_eq_decide]

variable {Cell : Type}

/-- What a name denotes in WHERE below a SELECT list. -/
def Projection.resolve (server : Server Cell) (projection : Projection) (row : Text → Cell)
    (name : Text) : Cell :=
  match projection with
  | .count outputName => if name = outputName then server.aggregate else row name
  | .columns entries =>
    match entries.lookup name with
    | some (some type) => server.cast type (row name)
    | _ => row name

namespace Statement

/-- The cells a row has in the WHERE clause of a statement. -/
def cells (s : Statement) (server : Server Cell) (row : Row Cell) : Text → Cell :=
  s.projection.resolve server row.cells

/-- The value of `_partition_id IN (…)`. -/
def partitionTruth (server : Server Cell) (cells : Text → Cell) (ids : List Text) : Truth :=
  Truth.any (ids.map fun id =>
    server.cells.compare .eq (cells (str "_partition_id")) (server.cells.literal (.str id)))

/-- The value of the WHERE clause on a row. -/
def condition (s : Statement) (server : Server Cell) (row : Row Cell) : Truth :=
  Truth.all ((s.fragment.map fun f => (server.fragment f).eval (s.cells server row)).toList ++
    (s.predicate.map fun p => p.eval server.cells (s.cells server row)).toList ++
    (s.partitionIds.map (partitionTruth server (s.cells server row))).toList)

/-- The WHERE clause keeps a row. -/
def keeps (s : Statement) (server : Server Cell) (row : Row Cell) : Bool :=
  decide (s.condition server row = .true)

theorem keeps_eq_true_iff {s : Statement} {server : Server Cell} {row : Row Cell} :
    s.keeps server row = true ↔
      (∀ f ∈ s.fragment, (server.fragment f).eval (s.cells server row) = .true) ∧
      (∀ p ∈ s.predicate, p.eval server.cells (s.cells server row) = .true) ∧
      ∀ ids ∈ s.partitionIds, partitionTruth server (s.cells server row) ids = .true := by
  rw [keeps, decide_eq_true_eq, condition, Truth.all_eq_true]
  simp only [List.mem_append, Option.mem_toList, Option.map_eq_some_iff, Option.mem_def]
  constructor
  · intro h
    exact ⟨fun f hf => h _ (Or.inl (Or.inl ⟨f, hf, rfl⟩)),
      fun p hp => h _ (Or.inl (Or.inr ⟨p, hp, rfl⟩)), fun ids hids => h _ (Or.inr ⟨ids, hids, rfl⟩)⟩
  · rintro ⟨hf, hp, hids⟩ t ((⟨f, hmem, rfl⟩ | ⟨p, hmem, rfl⟩) | ⟨ids, hmem, rfl⟩)
    · exact hf f hmem
    · exact hp p hmem
    · exact hids ids hmem

/-- When `_partition_id` denotes the partition of the row, the clause tests whether it
is among the ids. -/
theorem partitionTruth_eq_true_iff {server : Server Cell} {cells : Text → Cell} {p : Text}
    (h : cells (str "_partition_id") = server.cells.literal (.str p)) {ids : List Text} :
    partitionTruth server cells ids = .true ↔ p ∈ ids := by
  rw [partitionTruth, Truth.any_eq_true]
  simp only [h, server.compare_str, List.mem_map]
  constructor
  · rintro ⟨_, ⟨id, hid, rfl⟩, htrue⟩
    rw [Truth.ofBool_eq_true, beq_iff_eq] at htrue
    exact htrue ▸ hid
  · intro hp
    exact ⟨_, ⟨p, hp, rfl⟩, by simp⟩

end Statement

/-- A name that is no alias of the SELECT list denotes the column. -/
theorem Projection.resolve_of_not_mem {server : Server Cell} {projection : Projection}
    {row : Text → Cell} {name : Text} (h : name ∉ projection.names) :
    projection.resolve server row name = row name := by
  cases projection with
  | count outputName => exact if_neg (by simpa [Projection.names] using h)
  | columns entries =>
    have hnone : entries.lookup name = none := by
      rw [List.lookup_eq_none_iff]
      intro entry hentry
      rw [bne_iff_ne]
      rintro rfl
      exact h (List.mem_map_of_mem hentry)
    simp only [resolve, hnone]

end ClickHouse
end DaftOlap
