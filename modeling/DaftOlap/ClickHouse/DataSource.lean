/-
The ClickHouse data source (`clickhouse/datasource.py`).

`getTasks` lists the tasks the generator of the source yields, or the first error it
raises.  A task keeps, beside its query, the call of `build_select` the query comes
from.
-/
import DaftOlap.ClickHouse.Statement
import DaftOlap.Compat.Pushdowns

namespace DaftOlap
namespace ClickHouse

open Python

/-! ## The source -/

/-- An active MergeTree partition and the bytes it occupies. -/
structure PartitionMetadata where
  partitionId : Text
  bytesOnDisk : Int

/-- Whether partition pruning is valid and the discovered physical units. -/
structure PartitionDiscovery where
  supported : Bool
  partitions : List PartitionMetadata := []

/-- The ids of the discovered partitions. -/
def PartitionDiscovery.ids (d : PartitionDiscovery) : List Text :=
  d.partitions.map PartitionMetadata.partitionId

/-- `ClickHouseDataSource`. -/
structure DataSource where
  table : QualifiedTable
  limits : ResourceLimits
  split : SplitMode := .single
  discoveryPolicy : DiscoveryPolicy := .single
  unsafeWhereSql : Option Text := none
  queryParameters : QueryParameters := .empty
  schemaPlan : ClickHouseSchemaPlan
  countPushdownAvailable : Bool := true

namespace DataSource

/-- `_partition_groups`.  The discoverer is asked at most once. -/
def partitionGroups (source : DataSource) (limit : Option Nat) :
    Planning Unit (Except PyException PartitionDiscovery)
      (Except PyException (List (Option (List Text)))) :=
  if source.split = .single ∨ limit = some 0 then .done (.ok [none])
  else if str "_partition_id" ∈ source.schemaPlan.names then .done (.ok [none])
  else .ask () fun
    | .error e =>
      if e.kind? = some .discovery ∧ source.discoveryPolicy ≠ .error then .ok [none] else .error e
    | .ok discovery =>
      if discovery.supported = false ∨ discovery.partitions = [] then .ok [none]
      else .ok ((groupWeightedItems
        (discovery.partitions.map fun item => (item.partitionId, item.bytesOnDisk))
        source.limits.targetTasks source.limits.maxTasks).map some)

end DataSource

/-- Partition discovery splits a scan: it is asked for, the scan is of some rows, and there are
partitions by which a virtual column splits it. -/
structure DataSource.IsSplit (source : DataSource) (limit : Option Nat)
    (outcome : Except PyException PartitionDiscovery) : Prop where
  auto : source.split ≠ .single
  someRows : limit ≠ some 0
  virtual : str "_partition_id" ∉ source.schemaPlan.names
  discovered : ∃ d, outcome = .ok d ∧ d.supported = true ∧ d.partitions ≠ []

/-! ## Tasks -/

/-- A scan task: its query and the call of `build_select` the query comes from. -/
structure Task where
  arguments : SelectArguments
  spec : QuerySpec
  built : buildSelect arguments = .ok (spec.sql, spec.namedParameters)

/-- The SQL of a task with its parameters. -/
def Task.query (t : Task) : Text × List (Text × PyValue) := (t.spec.sql, t.spec.namedParameters)

/-- The partitions a task reads, unless it reads all of them. -/
def Task.partitionIds (t : Task) : Option (List Text) := t.arguments.partitionIds

/-- Build the query of a task. -/
def task (a : SelectArguments) (schema : List ArrowField) : Except PyException Task :=
  match hbuilt : buildSelect a with
  | .error e => .error e
  | .ok r =>
    match hspec : QuerySpec.checked
        { sql := r.1, namedParameters := r.2, arrowSchema := schema } with
    | .error e => .error e
    | .ok spec => .ok ⟨a, spec, by rw [QuerySpec.checked_eq_ok hspec, hbuilt]⟩

theorem task_eq_ok {a : SelectArguments} {schema : List ArrowField} {t : Task}
    (h : task a schema = .ok t) : t.arguments = a ∧ t.spec.arrowSchema = schema := by
  unfold task at h
  split at h
  · cases h
  · split at h
    · cases h
    · next spec hspec =>
      have hschema : spec.arrowSchema = schema := by rw [QuerySpec.checked_eq_ok hspec]
      rw [← Except.ok.inj h]
      exact ⟨rfl, hschema⟩

namespace DataSource

/-- The call of `build_select` for the tasks of a count. -/
def countArguments (source : DataSource) (outputName : Text) : SelectArguments where
  table := source.table
  columns := [outputName]
  unsafeWhereSql := source.unsafeWhereSql
  queryParameters := source.queryParameters.items
  countOutputName := some outputName

/-- The call of `build_select` for one task of a scan. -/
def scanArguments (source : DataSource) (columns : List Text)
    (projection : List (Text × Option Text)) (predicate : Option Predicate)
    (limit : Option Nat) (partitionIds : Option (List Text)) : SelectArguments where
  table := source.table
  columns := columns
  predicate := predicate
  unsafeWhereSql := source.unsafeWhereSql
  queryParameters := source.queryParameters.items
  partitionIds := partitionIds
  limit := limit.map fun n : Nat => .int n
  projection := some projection

/-- The columns of a scan: those asked for and those the filter needs, in the order of
the schema. -/
def columns (source : DataSource) (pushdowns : Pushdowns) : List Text :=
  source.schemaPlan.names.filter (· ∈ pushdowns.requested source.schemaPlan.names)

/-- The SELECT list of a scan. -/
def projection (source : DataSource) (pushdowns : Pushdowns) : List (Text × Option Text) :=
  (source.columns pushdowns).map fun name => (name, (source.schemaPlan.castOf name).getD none)

/-- The trusted fragment, as a statement has it. -/
def fragment (source : DataSource) : Option (List (SqlPart (Text × PyValue))) :=
  source.unsafeWhereSql.map fun sql => fragmentParts source.queryParameters.items 0 sql

/-- The SELECT a task of a scan is to be: the columns of the scan, the fragment and the
predicate, and the partitions the task reads if the scan is split. -/
def select (source : DataSource) (pushdowns : Pushdowns) (predicate : Option Predicate)
    (partitionIds : Option (List Text)) : Statement where
  projection := .columns (source.projection pushdowns)
  table := source.table
  fragment := source.fragment
  predicate := predicate
  partitionIds := partitionIds
  limit := (safeDatabaseLimit pushdowns predicate).map fun n : Nat => (n : Int)

/-- The call of `build_select` for a scan that is not split. -/
def unsplit (source : DataSource) (pushdowns : Pushdowns) (predicate : Option Predicate) :
    SelectArguments :=
  source.scanArguments (source.columns pushdowns) (source.projection pushdowns) predicate
    (safeDatabaseLimit pushdowns predicate) none

/-- One task of a scan. -/
def scanTask (source : DataSource) (columns : List Text) (schema : List ArrowField)
    (predicate : Option Predicate) (limit : Option Nat) (partitionIds : Option (List Text)) :
    Except PyException Task := do
  let projection ← source.schemaPlan.projectionFor columns
  task (source.scanArguments columns projection predicate limit partitionIds) schema

/-- The tasks of a scan. -/
def scanTasks (source : DataSource) (pushdowns : Pushdowns)
    (discover : Unit → Except PyException PartitionDiscovery) : Except PyException (List Task) := do
  let columns ← requiredScanColumns pushdowns source.schemaPlan.names
  if columns = [] then
    .error (compatibilityError "an empty non-count ClickHouse projection is not supported")
  else
    let schema ← projectSchema source.schemaPlan.arrowSchema columns
    let predicate ← compileFilter pushdowns.filters
    let limit := safeDatabaseLimit pushdowns predicate
    let groups ← (source.partitionGroups limit).run discover
    groups.mapM (source.scanTask columns schema predicate limit)

/-- `get_tasks`. -/
def getTasks (source : DataSource) (pushdowns : Pushdowns)
    (discover : Unit → Except PyException PartitionDiscovery) : Except PyException (List Task) := do
  match ← countPushdown source.countPushdownAvailable pushdowns with
  | some outputName =>
    if pushdowns.limit ≠ none then
      .error (compatibilityError "count pushdown with a limit is not supported")
    else do
      let t ← task (source.countArguments outputName) [⟨outputName, str "uint64"⟩]
      return [t]
  | none => source.scanTasks pushdowns discover

/-! ## What the tasks are -/

/-- The groups of partitions of a scan: one task without a partition clause, or one
task for each group of the discovered partitions. -/
theorem partitionGroups_eq_ok {source : DataSource} {limit : Option Nat}
    {discover : Unit → Except PyException PartitionDiscovery} {groups : List (Option (List Text))}
    (h : (source.partitionGroups limit).run discover = .ok groups) :
    groups = [none] ∨
      str "_partition_id" ∉ source.schemaPlan.names ∧ ∃ discovery, discover () = .ok discovery ∧
        discovery.supported = true ∧ discovery.partitions ≠ [] ∧
        groups = (groupWeightedItems
          (discovery.partitions.map fun item => (item.partitionId, item.bytesOnDisk))
          source.limits.targetTasks source.limits.maxTasks).map some := by
  unfold partitionGroups at h
  split at h
  · exact Or.inl (Except.ok.inj h).symm
  · split at h
    · exact Or.inl (Except.ok.inj h).symm
    · next hphysical =>
      simp only [Planning.run] at h
      split at h
      · split at h
        · exact Or.inl (Except.ok.inj h).symm
        · cases h
      · next discovery hdiscovery =>
        split at h
        · exact Or.inl (Except.ok.inj h).symm
        · next hsupported =>
          rw [not_or, Bool.not_eq_false] at hsupported
          exact Or.inr ⟨hphysical, discovery, hdiscovery, hsupported.1, hsupported.2,
            (Except.ok.inj h).symm⟩

/-- A group is a list of partitions exactly if discovery splits the scan. -/
theorem eq_none_iff_of_mem_partitionGroups {source : DataSource} {limit : Option Nat}
    {discover : Unit → Except PyException PartitionDiscovery} {groups : List (Option (List Text))}
    (h : (source.partitionGroups limit).run discover = .ok groups) {ids : Option (List Text)}
    (hids : ids ∈ groups) : ids = none ↔ ¬ source.IsSplit limit (discover ()) := by
  unfold partitionGroups at h
  split at h
  · next hskip =>
    obtain rfl := Except.ok.inj h
    exact iff_of_true (List.mem_singleton.mp hids)
      fun hsplit => hskip.elim hsplit.auto hsplit.someRows
  · next hask =>
    rw [not_or] at hask
    split at h
    · next hphysical =>
      obtain rfl := Except.ok.inj h
      exact iff_of_true (List.mem_singleton.mp hids) fun hsplit => hsplit.virtual hphysical
    · next hvirtual =>
      simp only [Planning.run] at h
      split at h
      · next e he =>
        split at h
        · obtain rfl := Except.ok.inj h
          refine iff_of_true (List.mem_singleton.mp hids) fun hsplit => ?_
          obtain ⟨d, hd, -⟩ := hsplit.discovered
          cases he.symm.trans hd
        · cases h
      · next discovery hdiscovery =>
        split at h
        · next hnone =>
          obtain rfl := Except.ok.inj h
          refine iff_of_true (List.mem_singleton.mp hids) fun hsplit => ?_
          obtain ⟨d, hd, hsupported, hsome⟩ := hsplit.discovered
          obtain rfl := Except.ok.inj (hdiscovery.symm.trans hd)
          exact hnone.elim (fun hfalse => Bool.false_ne_true (hfalse.symm.trans hsupported)) hsome
        · next hsome =>
          rw [not_or, Bool.not_eq_false] at hsome
          obtain rfl := Except.ok.inj h
          obtain ⟨group, -, rfl⟩ := List.mem_map.mp hids
          exact iff_of_false (Option.some_ne_none group) (not_not.mpr
            ⟨hask.1, hask.2, hvirtual, discovery, hdiscovery, hsome.1, hsome.2⟩)

/-- The groups hold every discovered partition once. -/
theorem flatten_groups_perm (source : DataSource) (discovery : PartitionDiscovery) :
    (groupWeightedItems (discovery.partitions.map fun item => (item.partitionId, item.bytesOnDisk))
      source.limits.targetTasks source.limits.maxTasks).flatten.Perm discovery.ids := by
  have hperm := (groupWeightedItems_spec
    (discovery.partitions.map fun item => (item.partitionId, item.bytesOnDisk))
    source.limits.targetTasks_valid.1 source.limits.maxTasks_valid.1).1
  rwa [List.map_map] at hperm

/-- There is always a task. -/
theorem partitionGroups_ne_nil {source : DataSource} {limit : Option Nat}
    {discover : Unit → Except PyException PartitionDiscovery} {groups : List (Option (List Text))}
    (h : (source.partitionGroups limit).run discover = .ok groups) : groups ≠ [] := by
  rcases partitionGroups_eq_ok h with rfl | ⟨-, discovery, -, -, hsome, rfl⟩
  · exact List.cons_ne_nil _ _
  · intro hnil
    have hperm := flatten_groups_perm source discovery
    rw [List.map_eq_nil_iff.mp hnil, List.flatten_nil, List.nil_perm, PartitionDiscovery.ids,
      List.map_eq_nil_iff] at hperm
    exact hsome hperm

theorem names_projection (source : DataSource) (pushdowns : Pushdowns) :
    (source.projection pushdowns).map Prod.fst = source.columns pushdowns := by
  rw [projection, List.map_map]
  exact List.map_id _

theorem statement_unsplit (source : DataSource) (pushdowns : Pushdowns)
    (predicate : Option Predicate) (partitionIds : Option (List Text)) :
    { source.unsplit pushdowns predicate with partitionIds := partitionIds }.statement =
      source.select pushdowns predicate partitionIds := by
  rw [SelectArguments.statement, select]
  congr 1
  exact effectiveLimit_natCast _

theorem getTasks_eq_scanTasks {source : DataSource} {pushdowns : Pushdowns}
    {discover : Unit → Except PyException PartitionDiscovery} (h : pushdowns.aggregation = none) :
    source.getTasks pushdowns discover = source.scanTasks pushdowns discover := by
  rw [getTasks, countPushdown_eq_none h]
  rfl

/-- Every task of a scan is the unsplit query for one group of partitions. -/
theorem scanTasks_eq_ok {source : DataSource} {pushdowns : Pushdowns}
    {discover : Unit → Except PyException PartitionDiscovery} {tasks : List Task}
    (h : source.scanTasks pushdowns discover = .ok tasks) :
    ∃ schema predicate groups,
      source.columns pushdowns ≠ [] ∧
      projectSchema source.schemaPlan.arrowSchema (source.columns pushdowns) = .ok schema ∧
      compileFilter pushdowns.filters = .ok predicate ∧
      (source.partitionGroups (safeDatabaseLimit pushdowns predicate)).run discover = .ok groups ∧
      List.Forall₂ (fun ids t =>
        t.arguments = { source.unsplit pushdowns predicate with partitionIds := ids } ∧
          t.spec.arrowSchema = schema) groups tasks := by
  obtain ⟨columns, hcolumns, h⟩ := bind_eq_ok.mp h
  obtain rfl : columns = source.columns pushdowns := requiredScanColumns_eq_ok hcolumns
  split at h
  · cases h
  · next hne =>
    obtain ⟨schema, hschema, h⟩ := bind_eq_ok.mp h
    obtain ⟨predicate, hpredicate, h⟩ := bind_eq_ok.mp h
    obtain ⟨groups, hgroups, h⟩ := bind_eq_ok.mp h
    refine ⟨schema, predicate, groups, hne, hschema, hpredicate, hgroups,
      (mapM_eq_ok.mp h).imp fun ids t ht => ?_⟩
    have hprojection : source.schemaPlan.projectionFor (source.columns pushdowns) =
        .ok (source.projection pushdowns) :=
      source.schemaPlan.projectionFor_eq_ok fun c hc => (List.mem_filter.mp hc).1
    rw [scanTask, hprojection] at ht
    exact task_eq_ok ht

end DataSource

end ClickHouse
end DaftOlap
