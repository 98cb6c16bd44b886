/-
What Daft pushes down (`_compat.py`).
-/
import DaftOlap.Common.Contracts
import DaftOlap.Compat.Filter

namespace DaftOlap

open Python

/-- An aggregation, with what Daft's native pushdowns say about it. -/
structure Aggregation where
  /-- `aggregation_count_mode()` is `CountMode.All`. -/
  countsAll : Bool
  /-- `aggregation_required_column_names()`. -/
  requiredColumnNames : List Text
  name : Text

/-- `daft.io.pushdowns.Pushdowns`.  Daft names every column of the filter among the
columns the filter requires. -/
structure Pushdowns where
  columns : Option (List Text) := none
  filters : Option Expr := none
  /-- `filter_required_column_names()`. -/
  filterRequiredColumnNames : List Text := []
  limit : Option Nat := none
  aggregation : Option Aggregation := none
  filter_columns : ∀ e ∈ filters, ∀ c ∈ e.columns, c ∈ filterRequiredColumnNames

theorem no_filter_columns : ∀ e ∈ (none : Option Expr), ∀ c ∈ e.columns, c ∈ ([] : List Text) :=
  fun _ hfilter => absurd hfilter (Option.not_mem_none _)

/-- Validate Daft's exact global COUNT(*) representation and fail closed otherwise.
`available` is what `count_pushdown_available` finds out about the Daft release. -/
def countPushdown (available : Bool) (pushdowns : Pushdowns) : Except PyException (Option Text) :=
  match pushdowns.aggregation with
  | none => .ok none
  | some aggregation =>
    if available = false then
      .error (compatibilityError
        "the active Daft release does not expose the negotiated count-pushdown contract")
    else if aggregation.countsAll = false ∨ 1 < aggregation.requiredColumnNames.length ∨
        pushdowns.filters.isSome then
      .error (compatibilityError
        "only an unfiltered global CountMode.All aggregation can be pushed down")
    else
      let outputName := aggregation.requiredColumnNames.head?.getD aggregation.name
      if outputName = [] then
        .error (compatibilityError "Daft count aggregation has no output field name")
      else .ok (some outputName)

/-- The columns Daft asks for: those of the projection, or all of them, and those its
filter needs. -/
def Pushdowns.requested (pushdowns : Pushdowns) (names : List Text) : List Text :=
  pushdowns.columns.getD names ++ pushdowns.filterRequiredColumnNames

/-- Preserve schema order for projection plus columns needed by Daft's residual filter. -/
def requiredScanColumns (pushdowns : Pushdowns) (names : List Text) :
    Except PyException (List Text) :=
  let requested := pushdowns.requested names
  let unknown := requested.filter (· ∉ names)
  if unknown ≠ [] then
    .error (compatibilityError [.text "Daft requested unknown columns: ",
      .plain (Text.join (str ", ") (Text.sorted unknown.dedup))])
  else .ok (names.filter (· ∈ requested))

/-- Push limit only when no residual Daft filter can change which rows qualify. -/
def safeDatabaseLimit (pushdowns : Pushdowns) (predicate : Option Predicate) : Option Nat :=
  if pushdowns.limit = none ∨ pushdowns.limit = some 0 then pushdowns.limit
  else if pushdowns.filters = none ∨ predicate ≠ none then pushdowns.limit
  else none

theorem safeDatabaseLimit_eq (pushdowns : Pushdowns) (predicate : Option Predicate) :
    safeDatabaseLimit pushdowns predicate = pushdowns.limit ∨
      safeDatabaseLimit pushdowns predicate = none := by
  unfold safeDatabaseLimit
  split
  · exact Or.inl rfl
  · split
    · exact Or.inl rfl
    · exact Or.inr rfl

/-- A limit of zero is always pushed, and no other limit becomes zero. -/
theorem safeDatabaseLimit_eq_zero_iff (pushdowns : Pushdowns) (predicate : Option Predicate) :
    safeDatabaseLimit pushdowns predicate = some 0 ↔ pushdowns.limit = some 0 := by
  unfold safeDatabaseLimit
  split
  · rfl
  · next hsome =>
    split
    · rfl
    · exact iff_of_false (fun h => nomatch h) fun hzero => hsome (Or.inr hzero)

theorem countPushdown_eq_none {available : Bool} {pushdowns : Pushdowns}
    (h : pushdowns.aggregation = none) : countPushdown available pushdowns = .ok none := by
  rw [countPushdown, h]

theorem requiredScanColumns_eq_ok {pushdowns : Pushdowns} {names columns : List Text}
    (h : requiredScanColumns pushdowns names = .ok columns) :
    columns = names.filter (· ∈ pushdowns.requested names) := by
  unfold requiredScanColumns at h
  simp only at h
  split at h
  · cases h
  · exact (Except.ok.inj h).symm

theorem requiredScanColumns_of_known {pushdowns : Pushdowns} {names : List Text}
    (h : ∀ c ∈ pushdowns.requested names, c ∈ names) :
    requiredScanColumns pushdowns names =
      .ok (names.filter (· ∈ pushdowns.requested names)) := by
  have hunknown : (pushdowns.requested names).filter (· ∉ names) = [] :=
    List.filter_eq_nil_iff.mpr fun c hc => by simpa using h c hc
  simp only [requiredScanColumns, hunknown, ne_eq, not_true_eq_false, if_false]

end DaftOlap
