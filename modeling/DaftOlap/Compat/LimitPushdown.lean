/-
Limits of scans (`safe_database_limit`), for both connectors.

The tasks of a scan share the table in any way, and the database picks the rows that a
limit lets through.  What is assumed of it is that a compiled predicate is true of a row
where Daft's expression is.
-/
import DaftOlap.ClickHouse.Split
import DaftOlap.Doris.Split
import DaftOlap.Scan.Limit

namespace DaftOlap

open Python Logic

namespace Pushdowns

variable {ρ : Type} {pushdowns : Pushdowns} {daft : Expr → ρ → Bool}

/-- Daft's filter keeps a row. -/
def keeps (pushdowns : Pushdowns) (daft : Expr → ρ → Bool) (row : ρ) : Bool :=
  pushdowns.filters.all fun e => daft e row

/-- On the rows of the table, the database evaluates what the filter is compiled to as
Daft evaluates the filter. -/
def Agrees (pushdowns : Pushdowns) (truth : Predicate → ρ → Truth) (daft : Expr → ρ → Bool)
    (table : Multiset ρ) : Prop :=
  ∀ p, compileFilter pushdowns.filters = .ok (some p) →
    ∀ row ∈ table, (truth p row = .true ↔ pushdowns.keeps daft row = true)

variable {τ : Type} {truth : Predicate → ρ → Truth} {table result : Multiset ρ} {tasks : List τ}
  {bound : τ → Option Nat} {selects : τ → ρ → Bool} {base : ρ → Bool}
  {readings : List (Scan.Reading τ ρ)} {predicate : Option Predicate}

/-- The tasks match what Daft's filter keeps when the filter was compiled, and else all
that the trusted fragment keeps. -/
theorem keeps_of_compiled (hpredicate : compileFilter pushdowns.filters = .ok predicate)
    (hagrees : pushdowns.Agrees truth daft table)
    (hpushed : pushdowns.filters = none ∨ predicate ≠ none) {row : ρ} (hrow : row ∈ table) :
    (predicate.all fun p => decide (truth p row = .true)) = pushdowns.keeps daft row := by
  cases hp : predicate with
  | none =>
    have hfilters : pushdowns.filters = none := hpushed.resolve_right fun h => h hp
    rw [keeps, hfilters]
    rfl
  | some p =>
    rw [hp] at hpredicate
    rw [Option.all_some, Bool.eq_iff_iff, decide_eq_true_iff]
    exact hagrees p hpredicate row hrow

/-- What the tasks do not match, Daft does not keep. -/
theorem not_keeps_of_compiled (hpredicate : compileFilter pushdowns.filters = .ok predicate)
    (hagrees : pushdowns.Agrees truth daft table) {row : ρ} (hrow : row ∈ table)
    (h : (base row && predicate.all fun p => decide (truth p row = .true)) = false) :
    (base row && pushdowns.keeps daft row) = false := by
  by_cases hpushed : pushdowns.filters = none ∨ predicate ≠ none
  · rw [← keeps_of_compiled hpredicate hagrees hpushed hrow]
    exact h
  · have hnone : predicate = none := by
      by_contra hsome
      exact hpushed (Or.inr hsome)
    rw [hnone, Option.all_none, Bool.and_true] at h
    rw [h, Bool.false_and]

/-- The limit the tasks are given loses no answer. -/
theorem keeps_of_safeDatabaseLimit (hpredicate : compileFilter pushdowns.filters = .ok predicate)
    (hagrees : pushdowns.Agrees truth daft table)
    (h : Scan.Reads table tasks bound selects pushdowns.limit (pushdowns.keeps daft) readings result)
    (hbound : ∀ t ∈ tasks, bound t = safeDatabaseLimit pushdowns predicate)
    (hselects : ∀ t ∈ tasks, ∀ row ∈ table,
      selects t row = (base row && predicate.all fun p => decide (truth p row = .true))) :
    Scan.Keeps pushdowns.limit (table.filter fun row => base row && pushdowns.keeps daft row)
      result := by
  by_cases hzero : pushdowns.limit = some 0
  · have hresult := h.result_keeps
    rw [hzero] at hresult ⊢
    exact hresult.of_zero
  by_cases hpushed : pushdowns.filters = none ∨ predicate ≠ none
  · have hlimit : safeDatabaseLimit pushdowns predicate = pushdowns.limit := by
      unfold safeDatabaseLimit
      rw [if_pos hpushed, ite_self]
    refine h.keeps_of_pushed (fun t ht => (hbound t ht).trans hlimit) fun t ht row hrow => ?_
    rw [hselects t ht row hrow, keeps_of_compiled hpredicate hagrees hpushed hrow]
  · have hlimit : safeDatabaseLimit pushdowns predicate = none := by
      unfold safeDatabaseLimit
      rw [if_neg hpushed]
      split
      · next h => exact h.resolve_right hzero
      · rfl
    have hnone : predicate = none := by
      by_contra hsome
      exact hpushed (Or.inr hsome)
    refine h.keeps_of_residual (fun t ht => (hbound t ht).trans hlimit) fun t ht row hrow => ?_
    rw [hselects t ht row hrow, hnone]
    exact Bool.and_true _

end Pushdowns

variable {Cell : Type} {pushdowns : Pushdowns}

/-! ## ClickHouse -/

namespace ClickHouse

/-- The limit of the SQL of a task. -/
def Task.limit (t : Task) : Option Nat := t.arguments.statement.limit.map Int.toNat

/-- A task matches a row of its part. -/
def Task.selects (server : Server Cell) (t : Task) (row : Row Cell) : Bool :=
  { t.arguments.statement with partitionIds := none }.keeps server row

namespace DataSource

/-- What is needed of the tasks of a scan. -/
theorem tasks_uniform {source : DataSource}
    {discover : Unit → Except PyException PartitionDiscovery} {tasks : List Task}
    (htasks : source.scanTasks pushdowns discover = .ok tasks) (server : Server Cell) :
    ∃ predicate, compileFilter pushdowns.filters = .ok predicate ∧
      ∀ t ∈ tasks, t.limit = safeDatabaseLimit pushdowns predicate ∧
        ∀ row, t.selects server row = (source.trusts pushdowns server row &&
          predicate.all fun p => decide (source.truth pushdowns server p row = .true)) := by
  obtain ⟨_, predicate, groups, -, -, hpredicate, -, htasks⟩ := scanTasks_eq_ok htasks
  refine ⟨predicate, hpredicate, fun t ht => ?_⟩
  obtain ⟨ids, -, harguments, -⟩ := exists_of_mem_right htasks t ht
  refine ⟨?_, fun row => ?_⟩
  · rw [Task.limit, harguments]
    exact effectiveLimit_nat _
  · rw [Task.selects, harguments]
    exact keeps_select row

end DataSource
end ClickHouse

/-! ## Doris -/

namespace Doris

/-- A task matches a row of its part. -/
def Task.selects (server : Server Cell) (t : Task) (row : Row Cell) : Bool :=
  { t.arguments.statement with tablets := none }.keeps server row

namespace DataSource

/-- A planner that returned no tablets was right that no row meets fragment and predicate. -/
def EmptyPlanIsEmpty (source : DataSource) (pushdowns : Pushdowns)
    (discover : Text × List PyValue → Except PyException (List Int)) (server : Server Cell)
    (table : Multiset (Row Cell)) : Prop :=
  ∀ predicate query, compileFilter pushdowns.filters = .ok predicate →
    (source.scanPlan pushdowns predicate).question? = some query → discover query = .ok [] →
      ∀ row ∈ table, source.meets predicate server row = false

/-- What is needed of the tasks of a scan. -/
theorem tasks_uniform {source : DataSource}
    {discover : Text × List PyValue → Except PyException (List Int)} {tasks : List Task}
    (htasks : source.scanTasks pushdowns discover = .ok tasks) (server : Server Cell) :
    ∃ predicate plan, compileFilter pushdowns.filters = .ok predicate ∧
      (source.scanPlan pushdowns predicate).run discover = .ok plan ∧
      ∀ t ∈ tasks, t.limit = taskLimit pushdowns predicate plan ∧
        ∀ row, t.selects server row = source.meets predicate server row := by
  obtain ⟨predicate, plan, hpredicate, hplan, htasks⟩ := scanTasks_eq_ok htasks
  refine ⟨predicate, plan, hpredicate, hplan, fun t ht => ?_⟩
  obtain ⟨ids, -, harguments⟩ := exists_of_mem_right htasks t ht
  refine ⟨?_, fun row => ?_⟩
  · rw [Task.limit, harguments]
    exact effectiveLimit_nat _
  · rw [Task.selects, harguments]
    exact keeps_scan row

end DataSource
end Doris

/-- Limits lose no answer.  However the tasks of a scan share the table, and whichever
matching rows the database returns within their limits: what Daft keeps of them is as many
of the rows that the trusted fragment and the filter keep as the limit lets through. -/
theorem getTasks_keeps_limit (pushdowns : Pushdowns) (haggregation : pushdowns.aggregation = none) :
    (∀ (source : ClickHouse.DataSource)
      (discover : Unit → Except PyException ClickHouse.PartitionDiscovery)
      (server : ClickHouse.Server Cell) (daft : Expr → ClickHouse.Row Cell → Bool)
      (table : Multiset (ClickHouse.Row Cell)) (tasks : List ClickHouse.Task)
      (readings : List (Scan.Reading ClickHouse.Task (ClickHouse.Row Cell)))
      (result : Multiset (ClickHouse.Row Cell)),
      source.getTasks pushdowns discover = .ok tasks →
      pushdowns.Agrees (source.truth pushdowns server) daft table →
      Scan.Reads table tasks ClickHouse.Task.limit (ClickHouse.Task.selects server)
        pushdowns.limit (pushdowns.keeps daft) readings result →
      Scan.Keeps pushdowns.limit
        (table.filter fun row => source.trusts pushdowns server row && pushdowns.keeps daft row)
        result) ∧
    ∀ (source : Doris.DataSource)
      (discover : Text × List PyValue → Except PyException (List Int))
      (server : Doris.Server Cell) (daft : Expr → Doris.Row Cell → Bool)
      (table : Multiset (Doris.Row Cell)) (tasks : List Doris.Task)
      (readings : List (Scan.Reading Doris.Task (Doris.Row Cell)))
      (result : Multiset (Doris.Row Cell)),
      source.getTasks pushdowns discover = .ok tasks →
      source.EmptyPlanIsEmpty pushdowns discover server table →
      pushdowns.Agrees (Doris.DataSource.truth server) daft table →
      Scan.Reads table tasks Doris.Task.limit (Doris.Task.selects server)
        pushdowns.limit (pushdowns.keeps daft) readings result →
      Scan.Keeps pushdowns.limit
        (table.filter fun row => source.trusts server row && pushdowns.keeps daft row) result := by
  refine ⟨?_, ?_⟩
  · intro source discover server daft table tasks readings result htasks hagrees hreads
    rw [ClickHouse.DataSource.getTasks_eq_scanTasks haggregation] at htasks
    obtain ⟨predicate, hpredicate, huniform⟩ :=
      ClickHouse.DataSource.tasks_uniform htasks server
    exact Pushdowns.keeps_of_safeDatabaseLimit hpredicate hagrees hreads
      (fun t ht => (huniform t ht).1) fun t ht row _ => (huniform t ht).2 row
  · intro source discover server daft table tasks readings result htasks hplanner hagrees hreads
    rw [Doris.DataSource.getTasks_eq_scanTasks haggregation] at htasks
    obtain ⟨predicate, plan, hpredicate, hplan, huniform⟩ :=
      Doris.DataSource.tasks_uniform htasks server
    by_cases hempty : plan.emptyResult = true
    · have hnothing : ∀ row ∈ table, source.meets predicate server row = false := by
        rcases Doris.DataSource.tabletPlan_eq_ok hplan with
          ⟨rfl, -⟩ | ⟨query, ids, hquery, hids, ⟨rfl, -⟩ | ⟨-, rfl⟩⟩
        · cases hempty
        · exact hplanner predicate query hpredicate hquery hids
        · cases hempty
      refine hreads.keeps_of_nothing (fun t ht row hrow => ?_) fun row hrow =>
        Pushdowns.not_keeps_of_compiled hpredicate hagrees hrow (hnothing row hrow)
      rw [(huniform t ht).2 row]
      exact hnothing row hrow
    · have hlimit : Doris.DataSource.taskLimit pushdowns predicate plan =
          safeDatabaseLimit pushdowns predicate := if_neg hempty
      exact Pushdowns.keeps_of_safeDatabaseLimit hpredicate hagrees hreads
        (fun t ht => (huniform t ht).1.trans hlimit) fun t ht row _ => (huniform t ht).2 row

/-- `id = 1`, and at most one row. -/
def firstOne : Pushdowns where
  filters := some (.equal (.col (str "id")) (.lit (.int 1)))
  filterRequiredColumnNames := [str "id"]
  limit := some 1
  filter_columns := by
    intro e he c hc
    rw [← Option.some.inj he] at hc
    exact hc

/-- Daft on such a filter. -/
def equalsLiteral {ρ : Type} (cells : ρ → Text → PyValue) : Expr → ρ → Bool
  | .equal (.col name) (.lit value), row => cells row name == value
  | _, _ => false

/-- Tables with one column, each read by one task. -/
def wholeClickHouse : ClickHouse.DataSource where
  table := exampleTable
  limits := exampleLimits
  schemaPlan := .passthrough exampleFields nodup_exampleFields

def wholeDoris : Doris.DataSource where
  table := exampleTable
  transport := .mysql
  limits := exampleLimits
  arrowSchema := exampleFields
  names_nodup := nodup_exampleFields

/-- Of two rows `id = 1` either connector keeps one. -/
theorem getTasks_keeps_limit_firstOne :
    Scan.Keeps (some 1) ((Multiset.replicate 2 ⟨fun _ => .int 1, []⟩).filter fun row =>
        wholeClickHouse.trusts firstOne .identity row &&
          firstOne.keeps (equalsLiteral ClickHouse.Row.cells) row)
      {⟨fun _ => .int 1, []⟩} ∧
    Scan.Keeps (some 1) ((Multiset.replicate 2 ⟨fun _ => .int 1, 7⟩).filter fun row =>
        wholeDoris.trusts ⟨.identity, fun _ _ => .true⟩ row &&
          firstOne.keeps (equalsLiteral Doris.Row.cells) row)
      {⟨fun _ => .int 1, 7⟩} := by
  obtain ⟨hclickhouse, hdoris⟩ := @getTasks_keeps_limit PyValue firstOne rfl
  have hcompiled : compileFilter firstOne.filters =
      .ok (some (.equalsOne (str "id") (by decide))) := rfl
  have hsub : ∀ {ρ : Type} (row : ρ), {row} ≤ Multiset.replicate 2 row := fun row =>
    Multiset.singleton_le.mpr (Multiset.mem_replicate.mpr ⟨by decide, rfl⟩)
  refine ⟨?_, ?_⟩
  · obtain ⟨t, ht⟩ : ∃ t, wholeClickHouse.getTasks firstOne (fun _ => .ok ⟨true, []⟩) = .ok [t] :=
      ⟨_, rfl⟩
    have hscan := (ClickHouse.DataSource.getTasks_eq_scanTasks rfl).symm.trans ht
    obtain ⟨predicate, hpredicate, huniform⟩ :=
      ClickHouse.DataSource.tasks_uniform hscan ClickHouse.Server.identity
    obtain rfl := Except.ok.inj (hpredicate.symm.trans hcompiled)
    obtain ⟨hlimit, hselects⟩ := huniform t (List.mem_singleton_self t)
    refine hclickhouse wholeClickHouse _ .identity _ _ [t] [⟨t, _, {⟨fun _ => .int 1, []⟩}⟩] _ ht
      (fun p hp row hrow => ?_) (.single (fun row hrow => ?_) (fun row hrow => ?_) (hsub _) ?_ rfl)
    · obtain rfl := Option.some.inj (Except.ok.inj (hp.symm.trans hcompiled))
      rw [Multiset.eq_of_mem_replicate hrow]
      exact iff_of_true rfl rfl
    · rw [hselects, Multiset.eq_of_mem_replicate hrow]
      rfl
    · rw [Multiset.eq_of_mem_replicate hrow]
      rfl
    · rw [hlimit, Multiset.card_replicate]
      rfl
  · obtain ⟨t, ht⟩ : ∃ t, wholeDoris.getTasks firstOne (fun _ => .ok [7]) = .ok [t] := ⟨_, rfl⟩
    have hscan := (Doris.DataSource.getTasks_eq_scanTasks rfl).symm.trans ht
    obtain ⟨predicate, plan, hpredicate, hplan, huniform⟩ :=
      Doris.DataSource.tasks_uniform hscan ⟨CellSemantics.identity, fun _ _ => .true⟩
    obtain rfl := Except.ok.inj (hpredicate.symm.trans hcompiled)
    obtain rfl := Except.ok.inj (hplan.symm.trans rfl)
    obtain ⟨hlimit, hselects⟩ := huniform t (List.mem_singleton_self t)
    refine hdoris wholeDoris _ ⟨.identity, fun _ _ => .true⟩ _ _ [t]
      [⟨t, _, {⟨fun _ => .int 1, 7⟩}⟩] _ ht ?_
      (fun p hp row hrow => ?_) (.single (fun row hrow => ?_) (fun row hrow => ?_) (hsub _) ?_ rfl)
    · intro predicate query hp hquery
      obtain rfl := Except.ok.inj (hp.symm.trans hcompiled)
      cases hquery
    · obtain rfl := Option.some.inj (Except.ok.inj (hp.symm.trans hcompiled))
      rw [Multiset.eq_of_mem_replicate hrow]
      exact iff_of_true rfl rfl
    · rw [hselects, Multiset.eq_of_mem_replicate hrow]
      rfl
    · rw [Multiset.eq_of_mem_replicate hrow]
      rfl
    · rw [hlimit, Multiset.card_replicate]
      rfl

end DaftOlap
