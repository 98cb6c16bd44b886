/-
The Doris data source (`doris/datasource.py`).

Planning asks one question, the planning SQL with its parameters, and the tablet ids
or an exception answer it.  A task keeps, beside its query, the call of `build_select`
the query comes from.
-/
import DaftOlap.Compat.Pushdowns
import DaftOlap.Doris.Statement

namespace DaftOlap
namespace Doris

open Python

/-! ## The source -/

/-- `_TabletPlan`. -/
structure TabletPlan where
  groups : List (Option (List Int))
  emptyResult : Bool := false

/-- `DorisDataSource`. -/
structure DataSource where
  table : QualifiedTable
  transport : ParameterStyle
  limits : ResourceLimits
  split : SplitMode := .single
  discoveryPolicy : DiscoveryPolicy := .single
  unsafeWhereSql : Option Text := none
  queryParameters : QueryParameters := .empty
  arrowSchema : List ArrowField
  names_nodup : (arrowSchema.map ArrowField.name).Nodup
  countPushdownAvailable : Bool := true

namespace DataSource

/-- The names of the Arrow schema. -/
def names (source : DataSource) : List Text := source.arrowSchema.map ArrowField.name

/-- The call of `build_select` for the planning SQL: in MySQL style, without tablets and
without a limit. -/
def planningArguments (source : DataSource) (columns : List Text) (predicate : Option Predicate) :
    SelectArguments where
  table := source.table
  columns := columns
  style := .mysql
  predicate := predicate
  unsafeWhereSql := source.unsafeWhereSql
  queryParameters := source.queryParameters.items

/-- `_tablet_plan`.  The planner is asked at most once. -/
def tabletPlan (source : DataSource) (columns : List Text) (predicate : Option Predicate)
    (limit : Option Nat) :
    Planning (Text × List PyValue) (Except PyException (List Int)) (Except PyException TabletPlan) :=
  if source.split = .single ∨ limit = some 0 then .done (.ok { groups := [none] })
  else
    match buildSelect (source.planningArguments columns predicate) with
    | .error e => .done (.error e)
    | .ok query => .ask query fun
      | .error e =>
        if e.kind? = some .discovery ∧ source.discoveryPolicy ≠ .error then
          .ok { groups := [none] }
        else .error e
      | .ok tabletIds =>
        if tabletIds = [] then .ok { groups := [none], emptyResult := true }
        else
          .ok { groups := (groupAdjacentIds tabletIds source.limits.targetTasks
                  source.limits.maxTasks).map some }

end DataSource

/-! ## Tasks -/

/-- A scan task: its query and the call of `build_select` the query comes from. -/
structure Task where
  arguments : SelectArguments
  spec : QuerySpec
  built : buildSelect arguments = .ok (spec.sql, spec.positionalParameters)

/-- The SQL of a task with its parameters. -/
def Task.query (t : Task) : Text × List PyValue := (t.spec.sql, t.spec.positionalParameters)

/-- The tablets a task reads, unless it reads all of them. -/
def Task.tabletIds (t : Task) : Option (List Int) := t.arguments.statement.tablets

/-- The limit of the SQL of a task. -/
def Task.limit (t : Task) : Option Nat := t.arguments.statement.limit.map Int.toNat

/-- Build the query of a task. -/
def task (a : SelectArguments) (schema : List ArrowField) : Except PyException Task :=
  match hbuilt : buildSelect a with
  | .error e => .error e
  | .ok r =>
    match hspec : QuerySpec.checked
        { sql := r.1, positionalParameters := r.2, arrowSchema := schema } with
    | .error e => .error e
    | .ok spec => .ok ⟨a, spec, by rw [QuerySpec.checked_eq_ok hspec, hbuilt]⟩

theorem task_eq_ok {a : SelectArguments} {schema : List ArrowField} {t : Task}
    (h : task a schema = .ok t) : t.arguments = a := by
  unfold task at h
  split at h
  · cases h
  · split at h
    · cases h
    · rw [← Except.ok.inj h]

namespace DataSource

/-- The call of `build_select` for the task of a count. -/
def countArguments (source : DataSource) (outputName : Text) : SelectArguments where
  table := source.table
  columns := [outputName]
  style := source.transport
  unsafeWhereSql := source.unsafeWhereSql
  queryParameters := source.queryParameters.items
  countOutputName := some outputName

/-- The call of `build_select` for one task of a scan. -/
def scanArguments (source : DataSource) (columns : List Text) (predicate : Option Predicate)
    (limit : Option Nat) (tabletIds : Option (List Int)) : SelectArguments where
  table := source.table
  columns := columns
  style := source.transport
  predicate := predicate
  unsafeWhereSql := source.unsafeWhereSql
  queryParameters := source.queryParameters.items
  tabletIds := tabletIds.map fun ids => ids.map PyValue.int
  limit := limit.map fun n : Nat => .int n

/-- The columns of a scan: those asked for and those the filter needs, in the order of
the schema. -/
def columns (source : DataSource) (pushdowns : Pushdowns) : List Text :=
  source.names.filter (· ∈ pushdowns.requested source.names)

/-- The trusted fragment, as a statement has it. -/
def fragment (source : DataSource) : Option (Template PyValue) :=
  source.unsafeWhereSql.map fun fragment =>
    tokensTemplate source.queryParameters.items (fragmentTokens 0 none none fragment).1

/-- The SELECT of a scan for some tablets: its columns, the fragment, the predicate and a limit. -/
def select (source : DataSource) (pushdowns : Pushdowns) (predicate : Option Predicate)
    (tablets : Option (List Int)) (limit : Option Nat) : Statement where
  projection := .columns (source.columns pushdowns)
  table := source.table
  tablets := tablets
  fragment := source.fragment
  predicate := predicate
  limit := limit.map fun n : Nat => (n : Int)

/-- A scan binds no value: neither the caller nor the predicate has one. -/
def BindsNothing (source : DataSource) (predicate : Option Predicate) : Prop :=
  source.queryParameters.items = [] ∧ ∀ p ∈ predicate, p.literals = []

/-- The call of `build_select` for a scan that is not split. -/
def unsplit (source : DataSource) (pushdowns : Pushdowns) (predicate : Option Predicate) :
    SelectArguments :=
  source.scanArguments (source.columns pushdowns) predicate (safeDatabaseLimit pushdowns predicate)
    none

/-- The limit of the tasks: zero when the plan says that the result is empty. -/
def taskLimit (pushdowns : Pushdowns) (predicate : Option Predicate) (plan : TabletPlan) :
    Option Nat :=
  if plan.emptyResult then some 0 else safeDatabaseLimit pushdowns predicate

/-- The tasks of a scan. -/
def scanTasks (source : DataSource) (pushdowns : Pushdowns)
    (discover : Text × List PyValue → Except PyException (List Int)) :
    Except PyException (List Task) := do
  let columns ← requiredScanColumns pushdowns source.names
  if columns = [] then
    .error (compatibilityError "an empty non-count Doris projection is not supported")
  else
    let schema ← projectSchema source.arrowSchema columns
    let predicate ← compileFilter pushdowns.filters
    let plan ← (source.tabletPlan columns predicate (safeDatabaseLimit pushdowns predicate)).run
      discover
    plan.groups.mapM fun tabletIds =>
      task (source.scanArguments columns predicate (taskLimit pushdowns predicate plan) tabletIds)
        schema

/-- `get_tasks`. -/
def getTasks (source : DataSource) (pushdowns : Pushdowns)
    (discover : Text × List PyValue → Except PyException (List Int)) :
    Except PyException (List Task) := do
  match ← countPushdown source.countPushdownAvailable pushdowns with
  | some outputName =>
    if pushdowns.limit ≠ none then
      .error (compatibilityError "count pushdown with a limit is not supported")
    else do
      let t ← task (source.countArguments outputName) [⟨outputName, str "uint64"⟩]
      return [t]
  | none => source.scanTasks pushdowns discover

/-! ## What the tasks are -/

theorem statement_tablets {source : DataSource} {columns : List Text} {predicate : Option Predicate}
    {limit : Option Nat} {ids : List Int} (h : ∀ id ∈ ids, 0 < id) :
    (source.scanArguments columns predicate limit (some ids)).statement.tablets = some ids := by
  show some ((ids.map PyValue.int).filterMap tabletId?) = some ids
  rw [List.filterMap_map]
  congr 1
  have hsame : ∀ id ∈ ids, (tabletId? ∘ PyValue.int) id = some id :=
    fun id hid => if_pos (h id hid)
  rw [List.filterMap_congr hsame, List.filterMap_some]

/-- A query of a scan is its SELECT for the tablets it is given. -/
theorem statement_scanArguments {source : DataSource} {pushdowns : Pushdowns}
    {predicate : Option Predicate} {limit : Option Nat} {tabletIds : Option (List Int)}
    (h : ∀ ids ∈ tabletIds, ∀ id ∈ ids, 0 < id) :
    (source.scanArguments (source.columns pushdowns) predicate limit tabletIds).statement =
      source.select pushdowns predicate tabletIds limit := by
  have htablets : (source.scanArguments (source.columns pushdowns) predicate limit
      tabletIds).statement.tablets = tabletIds := by
    cases tabletIds with
    | none => rfl
    | some ids => exact statement_tablets (h ids rfl)
  have hlimit : (source.scanArguments (source.columns pushdowns) predicate limit
      tabletIds).statement.limit = limit.map fun n : Nat => (n : Int) := effectiveLimit_natCast limit
  show { source.select pushdowns predicate tabletIds limit with
    tablets := (source.scanArguments (source.columns pushdowns) predicate limit
      tabletIds).statement.tablets
    limit := (source.scanArguments (source.columns pushdowns) predicate limit
      tabletIds).statement.limit } = _
  rw [htablets, hlimit]
  rfl

/-- A query of a scan that is not split is the SELECT of all tablets. -/
theorem statement_unsplit {source : DataSource} {pushdowns : Pushdowns}
    {predicate : Option Predicate} {limit : Option Nat} :
    (source.scanArguments (source.columns pushdowns) predicate limit none).statement =
      source.select pushdowns predicate none limit :=
  statement_scanArguments fun ids hids => by cases hids

/-- The planning SQL is the SELECT of the scan without tablets and without a limit. -/
theorem statement_planning (source : DataSource) (pushdowns : Pushdowns)
    (predicate : Option Predicate) :
    (source.planningArguments (source.columns pushdowns) predicate).statement =
      source.select pushdowns predicate none none := rfl

theorem getTasks_eq_scanTasks {source : DataSource} {pushdowns : Pushdowns}
    {discover : Text × List PyValue → Except PyException (List Int)}
    (h : pushdowns.aggregation = none) :
    source.getTasks pushdowns discover = source.scanTasks pushdowns discover := by
  rw [getTasks, countPushdown_eq_none h]
  rfl

theorem question?_eq_some {source : DataSource} {columns : List Text}
    {predicate : Option Predicate} {limit : Option Nat} {query : Text × List PyValue}
    (h : (source.tabletPlan columns predicate limit).question? = some query) :
    buildSelect (source.planningArguments columns predicate) = .ok query := by
  unfold tabletPlan at h
  split at h
  · cases h
  · split at h
    · cases h
    · next query' hquery =>
      obtain rfl : query' = query := Option.some.inj h
      exact hquery

/-- A plan is one unrestricted group when no ids were returned, one group that is known
to be empty when the returned list is, and otherwise the groups of the returned ids. -/
theorem tabletPlan_eq_ok {source : DataSource} {columns : List Text}
    {predicate : Option Predicate} {limit : Option Nat}
    {discover : Text × List PyValue → Except PyException (List Int)} {plan : TabletPlan}
    (h : (source.tabletPlan columns predicate limit).run discover = .ok plan) :
    (plan = { groups := [none] } ∧ ∀ query ids,
      (source.tabletPlan columns predicate limit).question? = some query →
        discover query ≠ .ok ids) ∨
    ∃ query ids, (source.tabletPlan columns predicate limit).question? = some query ∧
      discover query = .ok ids ∧
      (ids = [] ∧ plan = { groups := [none], emptyResult := true } ∨
        ids ≠ [] ∧ plan = { groups :=
          (groupAdjacentIds ids source.limits.targetTasks source.limits.maxTasks).map some }) := by
  unfold tabletPlan at h ⊢
  split at h
  · next hskip =>
    rw [if_pos hskip]
    exact Or.inl ⟨(Except.ok.inj h).symm, fun _ _ hquery => nomatch hquery⟩
  · next hask =>
    rw [if_neg hask]
    split at h
    · cases h
    · next query hquery =>
      simp only [Planning.run] at h
      simp only [Planning.question?, Option.some.injEq]
      split at h
      · next e he =>
        split at h
        · refine Or.inl ⟨(Except.ok.inj h).symm, ?_⟩
          rintro _ ids rfl hids
          cases he.symm.trans hids
        · cases h
      · next ids hids =>
        refine Or.inr ⟨query, ids, rfl, hids, ?_⟩
        split at h
        · next hempty => exact Or.inl ⟨hempty, (Except.ok.inj h).symm⟩
        · next hsome => exact Or.inr ⟨hsome, (Except.ok.inj h).symm⟩

/-- Every task of a scan is the unsplit query for one group of tablets. -/
theorem scanTasks_eq_ok {source : DataSource} {pushdowns : Pushdowns}
    {discover : Text × List PyValue → Except PyException (List Int)} {tasks : List Task}
    (h : source.scanTasks pushdowns discover = .ok tasks) :
    ∃ predicate plan,
      compileFilter pushdowns.filters = .ok predicate ∧
      (source.tabletPlan (source.columns pushdowns) predicate
        (safeDatabaseLimit pushdowns predicate)).run discover = .ok plan ∧
      List.Forall₂ (fun tabletIds t => t.arguments = source.scanArguments (source.columns pushdowns)
        predicate (taskLimit pushdowns predicate plan) tabletIds) plan.groups tasks := by
  obtain ⟨columns, hcolumns, h⟩ := bind_eq_ok.mp h
  obtain rfl : columns = source.columns pushdowns := requiredScanColumns_eq_ok hcolumns
  split at h
  · cases h
  · obtain ⟨schema, -, h⟩ := bind_eq_ok.mp h
    obtain ⟨predicate, hpredicate, h⟩ := bind_eq_ok.mp h
    obtain ⟨plan, hplan, h⟩ := bind_eq_ok.mp h
    exact ⟨predicate, plan, hpredicate, hplan, (mapM_eq_ok.mp h).imp fun _ _ => task_eq_ok⟩

end DataSource

end Doris
end DaftOlap
