/-
Planning of ClickHouse scans with a driver (`clickhouse/datasource.py`).

The data source asks partition discovery at most once, in a thread that may be cancelled.  If
the driver answers the catalog statements by what the server stores, the tasks split the rows
that are stored.
-/
import DaftOlap.ClickHouse.Discovery
import DaftOlap.ClickHouse.Split
import DaftOlap.ClickHouse.Transport

namespace DaftOlap
namespace ClickHouse

open Logic Python

variable {Cell V : Type}

namespace DataSource

variable {Event : Type}

/-- The tasks of a scan, with partition discovery as an effect. -/
def scanTasksIn (source : DataSource) (pushdowns : Pushdowns)
    (discover : Failing Event Raised PartitionDiscovery) : Failing Event Raised (List Task) := do
  let columns ← raising (requiredScanColumns pushdowns source.schemaPlan.names)
  if columns = [] then
    raising (.error (compatibilityError
      "an empty non-count ClickHouse projection is not supported"))
  else do
    let schema ← raising (projectSchema source.schemaPlan.arrowSchema columns)
    let predicate ← raising (compileFilter pushdowns.filters)
    let limit := safeDatabaseLimit pushdowns predicate
    let groups ← (source.partitionGroups limit).perform fun _ => discover
    raising (groups.mapM (source.scanTask columns schema predicate limit))

/-- `get_tasks`, with partition discovery as an effect. -/
def getTasksIn (source : DataSource) (pushdowns : Pushdowns)
    (discover : Failing Event Raised PartitionDiscovery) : Failing Event Raised (List Task) := do
  match ← raising (countPushdown source.countPushdownAvailable pushdowns) with
  | some outputName =>
    if pushdowns.limit ≠ none then
      raising (.error (compatibilityError "count pushdown with a limit is not supported"))
    else
      raising do
        let t ← task (source.countArguments outputName) [⟨outputName, str "uint64"⟩]
        return [t]
  | none => source.scanTasksIn pushdowns discover

variable {source : DataSource} {pushdowns : Pushdowns}
  {discover : Failing Event Raised PartitionDiscovery} {log : List Event} {tasks : List Task}

theorem scanTasksIn_eq_ok (h : ((source.scanTasksIn pushdowns discover).run.run log).1 = .ok tasks) :
    ∃ reply, source.scanTasks pushdowns reply = .ok tasks ∧
      ∀ d, reply () = .ok d → (discover.run.run log).1 = .ok d := by
  obtain ⟨columns, hcolumns, h⟩ := raising_bind_eq_ok.mp h
  by_cases hnil : columns = []
  · rw [if_pos hnil] at h
    cases h
  rw [if_neg hnil] at h
  obtain ⟨schema, hschema, h⟩ := raising_bind_eq_ok.mp h
  obtain ⟨predicate, hpredicate, h⟩ := raising_bind_eq_ok.mp h
  obtain ⟨groups, hgroups, htasks⟩ := bind_raising_eq_ok.mp h
  obtain ⟨reply, hreply, hanswer⟩ := Planning.perform_eq_ok hgroups
  refine ⟨reply, bind_eq_ok.mpr ⟨columns, hcolumns, ?_⟩, hanswer ()⟩
  rw [if_neg hnil]
  exact bind_eq_ok.mpr ⟨schema, hschema, bind_eq_ok.mpr ⟨predicate, hpredicate,
    bind_eq_ok.mpr ⟨groups, hreply, htasks⟩⟩⟩

/-- The tasks are those of the plain generator for what the discovery answered. -/
theorem getTasksIn_eq_ok (h : ((source.getTasksIn pushdowns discover).run.run log).1 = .ok tasks) :
    ∃ reply, source.getTasks pushdowns reply = .ok tasks ∧
      ∀ d, reply () = .ok d → (discover.run.run log).1 = .ok d := by
  obtain ⟨count, hcount, h⟩ := raising_bind_eq_ok.mp h
  cases count with
  | none =>
    obtain ⟨reply, htasks, hanswer⟩ := scanTasksIn_eq_ok h
    exact ⟨reply, bind_eq_ok.mpr ⟨none, hcount, htasks⟩, hanswer⟩
  | some outputName =>
    refine ⟨fun _ => .error .valueError, bind_eq_ok.mpr ⟨some outputName, hcount, ?_⟩,
      fun d hd => by cases hd⟩
    by_cases hlimit : pushdowns.limit ≠ none
    · simp only [if_pos hlimit] at h
      cases h
    · simp only [if_neg hlimit] at h ⊢
      exact mapError_eq_ok.mp h

theorem scanTasksIn_of_ok {d : PartitionDiscovery}
    (htasks : source.scanTasks pushdowns (fun _ => .ok d) = .ok tasks)
    (hanswer : (discover.run.run log).1 = .ok d) :
    ((source.scanTasksIn pushdowns discover).run.run log).1 = .ok tasks := by
  obtain ⟨columns, hcolumns, h⟩ := bind_eq_ok.mp htasks
  refine raising_bind_eq_ok.mpr ⟨columns, hcolumns, ?_⟩
  by_cases hnil : columns = []
  · rw [if_pos hnil] at h
    cases h
  rw [if_neg hnil] at h ⊢
  obtain ⟨schema, hschema, h⟩ := bind_eq_ok.mp h
  obtain ⟨predicate, hpredicate, h⟩ := bind_eq_ok.mp h
  obtain ⟨groups, hgroups, h⟩ := bind_eq_ok.mp h
  exact raising_bind_eq_ok.mpr ⟨schema, hschema, raising_bind_eq_ok.mpr ⟨predicate, hpredicate,
    bind_raising_eq_ok.mpr ⟨groups, Planning.perform_of_ok hgroups fun _ _ => hanswer, h⟩⟩⟩

theorem getTasksIn_of_ok {d : PartitionDiscovery} (haggregation : pushdowns.aggregation = none)
    (htasks : source.scanTasks pushdowns (fun _ => .ok d) = .ok tasks)
    (hanswer : (discover.run.run log).1 = .ok d) :
    ((source.getTasksIn pushdowns discover).run.run log).1 = .ok tasks :=
  raising_bind_eq_ok.mpr ⟨none, countPushdown_eq_none haggregation,
    scanTasksIn_of_ok htasks hanswer⟩

end DataSource

/-! ## What a server stores -/

/-- A table as a server stores it.  The rows of a local MergeTree table lie in its active parts,
and its `_partition_id` is virtual unless a column has that name. -/
structure StoredTable (server : Server Cell) where
  engine : Text
  columns : List Text
  activeParts : List (Text × Nat)
  rows : Multiset (Row Cell)
  covered : engine ∈ localMergeTreeEngines →
    ∀ row ∈ rows, row.partition ∈ activeParts.map Prod.fst
  partition_cell : engine ∈ localMergeTreeEngines → str "_partition_id" ∉ columns →
    ∀ row ∈ rows, row.cells (str "_partition_id") = server.cells.literal (.str row.partition)

namespace StoredTable

variable {server : Server Cell}

/-- The bytes of the active parts of a partition. -/
def bytesOnDisk (stored : StoredTable server) (partitionId : Text) : Nat :=
  ((stored.activeParts.filter (·.1 = partitionId)).map Prod.snd).sum

/-- The partitions that have active parts, in order. -/
def partitionIds (stored : StoredTable server) : List Text :=
  Text.sorted (stored.activeParts.map Prod.fst).dedup

theorem nodup_partitionIds (stored : StoredTable server) : stored.partitionIds.Nodup :=
  (List.mergeSort_perm _ _).nodup_iff.mpr (List.nodup_dedup _)

theorem mem_partitionIds {stored : StoredTable server} {id : Text} :
    id ∈ stored.partitionIds ↔ id ∈ stored.activeParts.map Prod.fst := by
  rw [partitionIds, Text.sorted, (List.mergeSort_perm _ _).mem_iff, List.mem_dedup]

end StoredTable

/-- The driver answers the statements of partition discovery by what is stored. -/
structure Truthful {server : Server Cell} (partner : Driver V) (table : QualifiedTable)
    (stored : StoredTable server) : Prop where
  engine : ∀ rows, Answers partner (tableParameters table) engineSql rows →
    rows = [[.str stored.engine]]
  partitionColumn : ∀ rows, Answers partner (tableParameters table) partitionColumnSql rows →
    rows = if str "_partition_id" ∈ stored.columns then [[.str (str "_partition_id")]] else []
  activeParts : ∀ rows, Answers partner (tableParameters table) activePartsSql rows →
    rows = stored.partitionIds.map fun id => [.str id, .int (stored.bytesOnDisk id)]

section Truthful

variable {server : Server Cell} {stored : StoredTable server} {partner : Driver V}
  {table : QualifiedTable} {d : PartitionDiscovery}

/-- What is found of a stored table: its partitions, unless it must not be split. -/
theorem Truthful.found (htruthful : Truthful partner table stored)
    (h : Found (Answers partner (tableParameters table)) d) (hsupported : d.supported = true) :
    stored.engine ∈ localMergeTreeEngines ∧ str "_partition_id" ∉ stored.columns ∧
      d.ids = stored.partitionIds := by
  cases h with
  | otherEngine h hengine => cases hsupported
  | physicalColumn h hengine hcolumn => cases hsupported
  | @partitions engine partitions h hengine hcolumn hparts hvalid hnodup =>
    have hlocal : stored.engine ∈ localMergeTreeEngines := by
      have heq := htruthful.engine _ h
      simp only [List.cons.injEq, PyValue.str.injEq, and_true] at heq
      rwa [← heq]
    have hvirtual : str "_partition_id" ∉ stored.columns := by
      intro hmem
      have heq := htruthful.partitionColumn _ hcolumn
      rw [if_pos hmem] at heq
      cases heq
    refine ⟨hlocal, hvirtual, ?_⟩
    have hrows := congrArg (List.map List.head?) (htruthful.activeParts _ hparts)
    rw [List.map_map, List.map_map] at hrows
    have hstr : Function.Injective fun id : Text => (some (PyValue.str id)) := by
      intro a b hab
      exact PyValue.str.inj (Option.some.inj hab)
    refine List.map_injective_iff.mpr hstr ?_
    rw [PartitionDiscovery.ids, List.map_map]
    exact hrows

end Truthful

namespace DataSource

variable {source : DataSource} {pushdowns : Pushdowns}

theorem preserves_getTasksIn {P : List (Turn (@Call.Reply V) Raised) → Prop}
    {discover : Failing (Turn (@Call.Reply V) Raised) Raised PartitionDiscovery}
    (h : Preserves P discover) : Preserves P (source.getTasksIn pushdowns discover) := by
  refine (preserves_raising _).bind fun count => ?_
  cases count with
  | some outputName =>
    by_cases hlimit : pushdowns.limit ≠ none
    · simp only [if_pos hlimit]
      exact preserves_raising _
    · simp only [if_neg hlimit]
      exact preserves_raising _
  | none =>
    refine (preserves_raising _).bind fun columns => ?_
    by_cases hnil : columns = []
    · rw [if_pos hnil]
      exact preserves_raising _
    · rw [if_neg hnil]
      exact (preserves_raising _).bind fun schema => (preserves_raising _).bind fun predicate =>
        (Planning.preserves_perform fun _ _ => h).bind fun groups => preserves_raising _

/-- What partition discovery finds of a stored table is an outcome that a split relies on. -/
theorem outcome_of_found {server : Server Cell} {stored : StoredTable server} {partner : Driver V}
    (htruthful : Truthful partner source.table stored) {d : PartitionDiscovery}
    (h : Found (Answers partner (tableParameters source.table)) d) :
    Outcome source stored.rows (.ok d) := by
  cases hsupported : d.supported with
  | false => exact .unsupported hsupported
  | true =>
    obtain ⟨hlocal, -, hids⟩ := htruthful.found h hsupported
    refine .partitions hsupported ?_ fun row hrow => ?_
    · rw [hids]
      exact stored.nodup_partitionIds
    · rw [hids, StoredTable.mem_partitionIds]
      exact stored.covered hlocal row hrow

/-- The groups of a scan split the stored rows. -/
theorem splits_of_found {server : Server Cell} {stored : StoredTable server} {partner : Driver V}
    (htruthful : Truthful partner source.table stored) (predicate : Option Predicate)
    {limit : Option Nat} {reply : Unit → Except PyException PartitionDiscovery}
    (hfound : ∀ d, reply () = .ok d → Found (Answers partner (tableParameters source.table)) d)
    {groups : List (Option (List Text))}
    (hgroups : (source.partitionGroups limit).run reply = .ok groups) :
    (1 ≤ groups.length ∧ groups.length ≤ min source.limits.targetTasks source.limits.maxTasks) ∧
      Scan.Splits stored.rows groups
        (fun ids row => (source.select pushdowns predicate ids).keeps server row)
        (source.meets pushdowns predicate server) := by
  rcases partitionGroups_eq_ok hgroups with rfl | ⟨hphysical, d, hd, hsupported, -, -⟩
  · have htarget := source.limits.targetTasks_valid.1
    have hmax := source.limits.maxTasks_valid.1
    refine ⟨⟨le_rfl, ?_⟩, Scan.Splits.single fun row _ => keeps_select row⟩
    show 1 ≤ min source.limits.targetTasks source.limits.maxTasks
    omega
  · obtain ⟨hlocal, hvirtual, -⟩ := htruthful.found (hfound d hd) hsupported
    refine splits_of_partitionGroups predicate hgroups
      (fun _ => stored.partition_cell hlocal hvirtual) ?_
    rw [hd]
    exact outcome_of_found htruthful (hfound d hd)

end DataSource

variable [Fintype V] [DecidableEq V]

section Discovered

variable {u : CaseData} {g : ObjectGraph V} {pickle : g.Pickle} {partner : Driver V}
  {connection : ClickHouseConnection V} {table : QualifiedTable} {timeouts : Timeouts}
  {log : List (Turn (@Call.Reply V) Raised)}

theorem found_of_discoverPartitions {d : PartitionDiscovery}
    (h : ((discoverPartitions u g pickle partner connection table timeouts).run.run log).1 = .ok d) :
    Found (Answers partner (tableParameters table)) d := by
  obtain ⟨turns, closing, -, hran⟩ :=
    (conversed (publicHandlers_partitions u table)
      (@discovers_askPartitions _ _ _ g pickle partner connection table timeouts) log).ran
  exact (hran.returned d h).2.1

theorem tidy_discoverPartitions :
    Preserves (Tidy (clients V) Raised.isOrdinary)
      (discoverPartitions u g pickle partner connection table timeouts) := fun log =>
  (conversed (publicHandlers_partitions u table)
    (@discovers_askPartitions _ _ _ g pickle partner connection table timeouts) log).tidy

end Discovered

namespace DataSource

/-- The tasks that are planned are the scan of the rows that are stored, split, as far as binding
is exact. -/
theorem planned_of_getTasksIn {server : Server Cell} {u : CaseData} {g : ObjectGraph V}
    {pickle : g.Pickle} {partner : Driver V} {connection : ClickHouseConnection V}
    {timeouts : Timeouts} {cancelled : List (Turn (@Call.Reply V) Raised) → Option Cancelled}
    {source : DataSource} {pushdowns : Pushdowns} {stored : StoredTable server}
    {log : List (Turn (@Call.Reply V) Raised)} {tasks : List Task}
    (haggregation : pushdowns.aggregation = none)
    (htruthful : Truthful partner source.table stored)
    (htasks : ((source.getTasksIn pushdowns (toThread cancelled (discoverPartitions u g pickle
      partner connection source.table timeouts))).run.run log).1 = .ok tasks) :
    (1 ≤ tasks.length ∧ tasks.length ≤ min source.limits.targetTasks source.limits.maxTasks) ∧
    ∃ predicate, compileFilter pushdowns.filters = .ok predicate ∧
      (SplitScan u.toUnicodeData source pushdowns predicate server stored.rows tasks ↔
        (∀ t ∈ tasks, t.spec.namedParameters = []) ∨
          (source.select pushdowns predicate none).Clean) := by
  obtain ⟨reply, htasks, hanswer⟩ := getTasksIn_eq_ok htasks
  rw [getTasks_eq_scanTasks haggregation] at htasks
  obtain ⟨schema, predicate, groups, -, hschema, hpredicate, hgroups, htasks⟩ :=
    scanTasks_eq_ok htasks
  have hfound : ∀ d, reply () = .ok d →
      Found (Answers partner (tableParameters source.table)) d :=
    fun d hd => found_of_discoverPartitions (run_of_toThread (hanswer d hd))
  have hsplits : (1 ≤ groups.length ∧
        groups.length ≤ min source.limits.targetTasks source.limits.maxTasks) ∧
      Scan.Splits stored.rows groups
        (fun ids row => (source.select pushdowns predicate ids).keeps server row)
        (source.meets pushdowns predicate server) :=
    splits_of_found htruthful predicate hfound hgroups
  exact ⟨htasks.length_eq ▸ hsplits.1, predicate, hpredicate, splitScan_iff hsplits hschema htasks⟩

theorem exists_getTasksIn {server : Server Cell} {u : CaseData} {g : ObjectGraph V}
    {pickle : g.Pickle} {partner : Driver V} {connection : ClickHouseConnection V}
    {timeouts : Timeouts} {cancelled : List (Turn (@Call.Reply V) Raised) → Option Cancelled}
    {source : DataSource} {pushdowns : Pushdowns} {stored : StoredTable server}
    {log : List (Turn (@Call.Reply V) Raised)} {d : PartitionDiscovery}
    (haggregation : pushdowns.aggregation = none)
    (htruthful : Truthful partner source.table stored)
    (hd : ((toThread cancelled (discoverPartitions u g pickle partner connection source.table
      timeouts)).run.run log).1 = .ok d)
    (hknown : ∀ c ∈ pushdowns.requested source.schemaPlan.names, c ∈ source.schemaPlan.names)
    (hcolumns : source.columns pushdowns ≠ [])
    (htrusted : ∃ r, buildSelect (source.trusted pushdowns) = .ok r) :
    ∃ tasks, ((source.getTasksIn pushdowns (toThread cancelled (discoverPartitions u g pickle
      partner connection source.table timeouts))).run.run log).1 = .ok tasks := by
  obtain ⟨r, hr⟩ := htrusted
  have houtcome : Outcome source stored.rows (.ok d) :=
    outcome_of_found htruthful (found_of_discoverPartitions (run_of_toThread hd))
  obtain ⟨tasks, htasks⟩ : ∃ tasks, source.scanTasks pushdowns (fun _ => .ok d) = .ok tasks :=
    exists_scanTasks hknown hcolumns houtcome hr
  exact ⟨tasks, getTasksIn_of_ok haggregation htasks hd⟩

/-- Planning with a driver that tells what is stored.  Whatever was asked before, and wherever
the thread is cancelled, the client of discovery is closed; and the tasks, if there are any,
are no more than the limits allow, and each stored row of which fragment and predicate are true
is selected by exactly one of them and no other row by any, if and only if no task binds a value
or no name that the SELECT quotes and no type it casts to has a percent sign.  There are tasks
if discovery comes to an end and the trusted fragment builds on its own. -/
theorem getTasksIn_splits {server : Server Cell} (u : CaseData) (g : ObjectGraph V)
    (pickle : g.Pickle) (partner : Driver V) (connection : ClickHouseConnection V)
    (timeouts : Timeouts) (cancelled : List (Turn (@Call.Reply V) Raised) → Option Cancelled)
    (source : DataSource) (pushdowns : Pushdowns) (stored : StoredTable server)
    (haggregation : pushdowns.aggregation = none)
    (htruthful : Truthful partner source.table stored)
    (log : List (Turn (@Call.Reply V) Raised)) :
    let run := (source.getTasksIn pushdowns (toThread cancelled
      (discoverPartitions u g pickle partner connection source.table timeouts))).run.run log
    (Tidy (clients V) Raised.isOrdinary log → Tidy (clients V) Raised.isOrdinary run.2) ∧
    (∀ tasks, run.1 = .ok tasks →
      (1 ≤ tasks.length ∧ tasks.length ≤ min source.limits.targetTasks source.limits.maxTasks) ∧
      ∃ predicate, compileFilter pushdowns.filters = .ok predicate ∧
        (SplitScan u.toUnicodeData source pushdowns predicate server stored.rows tasks ↔
          (∀ t ∈ tasks, t.spec.namedParameters = []) ∨
            (source.select pushdowns predicate none).Clean)) ∧
    ((∀ c ∈ pushdowns.requested source.schemaPlan.names, c ∈ source.schemaPlan.names) →
      source.columns pushdowns ≠ [] →
      (∃ d, ((toThread cancelled (discoverPartitions u g pickle partner connection source.table
        timeouts)).run.run log).1 = .ok d) →
      (∃ r, buildSelect (source.trusted pushdowns) = .ok r) →
      ∃ tasks, run.1 = .ok tasks) := by
  refine ⟨preserves_getTasksIn (preserves_toThread tidy_discoverPartitions) log,
    fun tasks htasks => planned_of_getTasksIn haggregation htruthful htasks,
    fun hknown hcolumns hdiscovered htrusted => ?_⟩
  obtain ⟨d, hd⟩ := hdiscovered
  exact exists_getTasksIn haggregation htruthful hd hknown hcolumns htrusted

/-- A local MergeTree table of two partitions. -/
def storedPartitions : StoredTable Server.identity where
  engine := str "MergeTree"
  columns := [str "id"]
  activeParts := [(str "b", 2), (str "a", 1), (str "b", 3)]
  rows := storedList
  covered _ row hrow := by
    rcases List.mem_cons.mp (partition_storedList row hrow).2 with h | h
    · rw [h]
      decide
    · rw [List.mem_singleton.mp h]
      decide
  partition_cell _ _ row hrow := (partition_storedList row hrow).1

/-- The rows of the statements about it. -/
def storedRows (sql : Text) : List (List PyValue) :=
  if sql = engineSql then [[.str (str "MergeTree")]]
  else if sql = partitionColumnSql then []
  else [[.str (str "a"), .int 1], [.str (str "b"), .int 5]]

/-- A driver that answers by these rows. -/
def storedDriver : Driver (Fin 2) := fun _ call =>
  match call with
  | .importDriver => .ok true
  | .environ _ => .ok none
  | .getClient _ => .ok ()
  | .query _ sql _ => .ok (storedRows sql)
  | .queryArrow _ _ _ => .ok (some exampleFields)
  | .serialize _ => .ok true
  | .convert _ => .ok ()
  | .close _ => .ok ()

def exampleConnection : ClickHouseConnection (Fin 2) where
  host := str "h"
  database := str "d"
  username := str "u"
  password := .text []
  port := 8123
  secure := false
  settings := .empty
  clientOptions := .empty
  texts_ne_nil := by decide
  port_valid := by decide

theorem truthful_storedDriver : Truthful storedDriver partitioned.table storedPartitions := by
  have hids : storedPartitions.partitionIds = [str "a", str "b"] := by
    have hdedup : (storedPartitions.activeParts.map Prod.fst).dedup = [str "a", str "b"] := by decide
    rw [StoredTable.partitionIds, hdedup]
    exact List.mergeSort_of_pairwise (by decide)
  refine ⟨fun rows h => ?_, fun rows h => ?_, fun rows h => ?_⟩
  · obtain ⟨log, client, h⟩ := h
    rw [← Except.ok.inj h]
    rfl
  · obtain ⟨log, client, h⟩ := h
    rw [← Except.ok.inj h]
    rfl
  · obtain ⟨log, client, h⟩ := h
    rw [← Except.ok.inj h, hids]
    rfl

/-- Two tasks split the rows of the two partitions. -/
theorem getTasksIn_splits_partitioned :
    let run := (partitioned.getTasksIn firstFive
      (toThread (fun _ => none) (discoverPartitions .superscriptTwo exampleGraph examplePickle storedDriver
        exampleConnection exampleTable exampleTimeouts))).run.run []
    ∃ tasks, run.1 = .ok tasks ∧
      SplitScan CaseData.superscriptTwo.toUnicodeData partitioned firstFive none Server.identity
        storedPartitions.rows tasks := by
  obtain ⟨-, hsound, hbuilds⟩ := getTasksIn_splits .superscriptTwo exampleGraph examplePickle
    storedDriver exampleConnection exampleTimeouts (fun _ => none) partitioned firstFive
    storedPartitions rfl truthful_storedDriver []
  obtain ⟨tasks, htasks⟩ := hbuilds (by decide) (by decide) ⟨_, rfl⟩ ⟨_, rfl⟩
  obtain ⟨-, predicate, hpredicate, hiff⟩ := hsound tasks htasks
  obtain rfl : none = predicate := Except.ok.inj hpredicate
  exact ⟨tasks, htasks, hiff.mpr (Or.inr (by decide))⟩

end DataSource

/-! ## The probe and the scans -/

theorem transportType_of_parseDescribeColumns {rows : List (List PyValue)}
    {columns : List ClickHouseColumn} (h : parseDescribeColumns rows = .ok columns) :
    ∀ column ∈ columns, transportTypeExpression column.declaredType = .ok column.transportType := by
  obtain ⟨parsed, hparsed, h⟩ := bind_eq_ok.mp h
  obtain rfl : parsed = columns := by
    split at h
    · cases h
    · split at h
      · cases h
      · exact Except.ok.inj h
  intro column hcolumn
  obtain ⟨row, -, hrow⟩ := exists_of_mem_right (mapM_eq_ok.mp hparsed) column hcolumn
  unfold describeColumn at hrow
  split at hrow
  · split at hrow
    · cases hrow
    · obtain ⟨t, ht, hrow⟩ := bind_eq_ok.mp hrow
      rw [← Except.ok.inj hrow]
      exact ht
  · cases hrow

/-- The cast of a described column is never refused. -/
theorem valid_castType {column : ClickHouseColumn}
    (h : transportTypeExpression column.declaredType = .ok column.transportType) :
    column.castType.forM validateTypeExpression = .ok () := by
  obtain ⟨t, ht⟩ := exists_rewritten (valid_of_transport h)
  obtain rfl := Except.ok.inj (ht.transported.symm.trans h)
  rw [ClickHouseColumn.castType]
  by_cases hcast : column.transportType ≠ column.declaredType
  · rw [if_pos hcast]
    exact ht.stable.accepted
  · rw [if_neg hcast]
    rfl

theorem find?_name {columns : List ClickHouseColumn}
    (hnodup : (columns.map ClickHouseColumn.name).Nodup) {column : ClickHouseColumn}
    (h : column ∈ columns) : columns.find? (·.name = column.name) = some column := by
  induction columns with
  | nil => cases h
  | cons first columns ih =>
    rw [List.map_cons, List.nodup_cons] at hnodup
    rcases List.mem_cons.mp h with rfl | hrest
    · exact List.find?_cons_of_pos (by simp)
    · have hne : first.name ≠ column.name := by
        intro heq
        rw [heq] at hnodup
        exact hnodup.1 (List.mem_map_of_mem hrest)
      rw [List.find?_cons_of_neg (by simpa using hne)]
      exact ih hnodup.2 hrest

/-- The expression that selects a column. -/
def ClickHouseSchemaPlan.expression (plan : ClickHouseSchemaPlan) (name : Text) : Text :=
  match renderCast name ((plan.castOf name).getD none) with
  | .ok expression => expression
  | .error _ => []

namespace ClickHouseSchemaPlan

variable {plan : ClickHouseSchemaPlan}

theorem castOf_name {column : ClickHouseColumn} (h : column ∈ plan.columns) :
    plan.castOf column.name = some column.castType := by
  have hnodup : (plan.columns.map ClickHouseColumn.name).Nodup := by
    rw [plan.names_eq]
    exact plan.names_nodup
  rw [castOf, find?_name hnodup h, Option.map_some]

/-- The SELECT list of the probe of a discovered plan. -/
theorem renderSchemaProjection_eq {rows : List (List PyValue)} {arrowSchema : List ArrowField}
    (h : discovered rows arrowSchema = .ok plan) :
    (∀ column ∈ plan.columns,
      renderCast column.name column.castType = .ok (plan.expression column.name)) ∧
    renderSchemaProjection plan.columns =
      .ok (Text.join (str ", ") (plan.names.map plan.expression)) := by
  have hrender : ∃ projection, renderSchemaProjection plan.columns = .ok projection := by
    unfold discovered at h
    split at h
    · cases h
    · obtain ⟨projection, hprojection, h⟩ := bind_eq_ok.mp h
      split at h
      · rw [← Except.ok.inj h]
        exact ⟨projection, hprojection⟩
      · cases h
  obtain ⟨projection, hprojection⟩ := hrender
  obtain ⟨expressions, hexpressions, -⟩ := bind_eq_ok.mp hprojection
  have hcast : ∀ column ∈ plan.columns,
      renderCast column.name column.castType = .ok (plan.expression column.name) := by
    intro column hcolumn
    obtain ⟨rendered, hrendered⟩ := exists_of_mapM_eq_ok hexpressions column hcolumn
    rw [ClickHouseSchemaPlan.expression, castOf_name hcolumn, Option.getD_some, hrendered]
  refine ⟨hcast, bind_eq_ok.mpr ⟨_, mapM_eq_ok_map hcast, ?_⟩⟩
  rw [names, ← plan.names_eq, List.map_map]
  rfl

end ClickHouseSchemaPlan

/-- A schema without a name twice, projected to some of its names in its own order. -/
theorem projectSchema_filter {schema : List ArrowField}
    (hnodup : (schema.map ArrowField.name).Nodup) (p : Text → Bool) :
    projectSchema schema ((schema.map ArrowField.name).filter p) =
      .ok (schema.filter fun field => p field.name) := by
  rw [projectSchema, mapM_eq_ok, List.filter_map, List.forall₂_map_left_iff]
  refine List.forall₂_same.mpr fun field hfield => ?_
  rw [filter_name_eq_singleton hnodup (List.mem_filter.mp hfield).1]

namespace DataSource

/-- The SELECT list of a scan of a discovered table. -/
theorem renderProjection_scan {source : DataSource} {pushdowns : Pushdowns}
    (hcast : ∀ column ∈ source.schemaPlan.columns, renderCast column.name column.castType =
      .ok (source.schemaPlan.expression column.name))
    (hvalid : ∀ column ∈ source.schemaPlan.columns,
      column.castType.forM validateTypeExpression = .ok ()) :
    renderProjection (source.columns pushdowns) none (some (source.projection pushdowns)) =
      .ok (Text.join (str ", ")
        ((source.columns pushdowns).map source.schemaPlan.expression)) := by
  have hnames := names_projection source pushdowns
  unfold renderProjection
  simp only [hnames, ne_eq, not_true_eq_false, if_false]
  refine bind_eq_ok.mpr ⟨(source.projection pushdowns).map fun entry =>
    source.schemaPlan.expression entry.1, mapM_eq_ok_map fun entry hentry => ?_, ?_⟩
  · obtain ⟨name, hname, rfl⟩ := List.mem_map.mp hentry
    have hknown : name ∈ source.schemaPlan.names := (List.mem_filter.mp hname).1
    rw [ClickHouseSchemaPlan.names, ← source.schemaPlan.names_eq] at hknown
    obtain ⟨column, hcolumn, rfl⟩ := List.mem_map.mp hknown
    simp only [ClickHouseSchemaPlan.castOf_name hcolumn, Option.getD_some]
    rw [hcast column hcolumn, ok_bind, hvalid column hcolumn]
    rfl
  · rw [← hnames, List.map_map]
    rfl

/-- The probe and the scans of a discovered table select the same expression for a column, in the
SQL before the driver binds it, and every task has the fields the probe reported for the
expressions it selects. -/
theorem scan_selects_probed {rows : List (List PyValue)} {arrowSchema : List ArrowField}
    {source : DataSource} {pushdowns : Pushdowns}
    {reply : Unit → Except PyException PartitionDiscovery} {tasks : List Task}
    (hplan : ClickHouseSchemaPlan.discovered rows arrowSchema = .ok source.schemaPlan)
    (haggregation : pushdowns.aggregation = none)
    (htasks : source.getTasks pushdowns reply = .ok tasks) :
    buildSchemaProbe source.table source.schemaPlan.columns =
      .ok (str "SELECT " ++ Text.join (str ", ")
          ((arrowSchema.map ArrowField.name).map source.schemaPlan.expression) ++
        str " FROM " ++ source.table.sql ++ str " LIMIT 0") ∧
    ∀ t ∈ tasks,
      (str "SELECT " ++ Text.join (str ", ")
          ((source.columns pushdowns).map source.schemaPlan.expression) ++
        str " FROM " ++ source.table.sql) <+: t.spec.sql ∧
      t.spec.arrowSchema = arrowSchema.filter (·.name ∈ source.columns pushdowns) := by
  obtain ⟨hparse, harrow⟩ := discovered_eq_ok hplan
  obtain ⟨hcast, hprobe⟩ := ClickHouseSchemaPlan.renderSchemaProjection_eq hplan
  have hvalid : ∀ column ∈ source.schemaPlan.columns,
      column.castType.forM validateTypeExpression = .ok () :=
    fun column hcolumn => valid_castType (transportType_of_parseDescribeColumns hparse column hcolumn)
  refine ⟨bind_eq_ok.mpr ⟨_, hprobe, ?_⟩, fun t ht => ?_⟩
  · rw [← harrow]
    rfl
  rw [getTasks_eq_scanTasks haggregation] at htasks
  obtain ⟨schema, predicate, groups, -, hschema, -, -, hall⟩ := scanTasks_eq_ok htasks
  obtain ⟨ids, -, harguments, hspec⟩ := exists_of_mem_right hall t ht
  constructor
  · have hbuilt := t.built
    rw [harguments] at hbuilt
    obtain ⟨_, -, hbuilt⟩ := bind_eq_ok.mp hbuilt
    obtain ⟨projection, hprojection, hbuilt⟩ := bind_eq_ok.mp hbuilt
    obtain ⟨_, -, hbuilt⟩ := bind_eq_ok.mp hbuilt
    obtain ⟨_, -, hbuilt⟩ := bind_eq_ok.mp hbuilt
    obtain ⟨_, -, hbuilt⟩ := bind_eq_ok.mp hbuilt
    obtain ⟨limit, -, hbuilt⟩ := bind_eq_ok.mp hbuilt
    obtain rfl := Except.ok.inj ((renderProjection_scan hcast hvalid).symm.trans hprojection)
    rw [← (Prod.mk.inj (Except.ok.inj hbuilt)).1, List.append_assoc _ (renderWhere _)]
    exact List.prefix_append _ _
  · have hcolumns : source.columns pushdowns = (arrowSchema.map ArrowField.name).filter
        (· ∈ source.columns pushdowns) := by
      rw [columns, ClickHouseSchemaPlan.names, harrow]
      refine List.filter_congr fun name hname => decide_eq_decide.mpr ?_
      rw [List.mem_filter, and_iff_right hname, decide_eq_true_eq]
    have hnodup : (arrowSchema.map ArrowField.name).Nodup := by
      rw [← harrow]
      exact source.schemaPlan.names_nodup
    rw [hspec]
    rw [hcolumns, harrow, projectSchema_filter hnodup] at hschema
    exact (Except.ok.inj hschema).symm

/-- A table with a date column. -/
def dated : DataSource where
  table := exampleTable
  limits := exampleLimits
  schemaPlan :=
    ⟨[⟨str "day", str "date32[day]"⟩], [⟨str "day", str "Date", str "Date32"⟩], rfl, by decide⟩

/-- A date is selected by one expression in the probe and in the task. -/
theorem scan_selects_probed_dated :
    ∃ t : Task, dated.getTasks ⟨none, none, [], none, none, by simp⟩
        (fun _ => .ok ⟨false, []⟩) = .ok [t] ∧
      buildSchemaProbe exampleTable dated.schemaPlan.columns =
        .ok (str "SELECT " ++ Text.join (str ", ") [dated.schemaPlan.expression (str "day")] ++
          str " FROM " ++ exampleTable.sql ++ str " LIMIT 0") ∧
      (str "SELECT " ++ Text.join (str ", ") [dated.schemaPlan.expression (str "day")] ++
        str " FROM " ++ exampleTable.sql) <+: t.spec.sql := by
  have htransport : transportTypeExpression (str "Date") = .ok (simpleTransport (str "Date")) :=
    transport_simple (by decide) (by decide) (by decide)
  have hcolumn : describeColumn [.str (str "day"), .str (str "Date")] =
      .ok ⟨str "day", str "Date", str "Date32"⟩ := by
    show (transportTypeExpression (str "Date") >>= _) = _
    rw [htransport]
    rfl
  have hparse : parseDescribeColumns [[.str (str "day"), .str (str "Date")]] =
      .ok dated.schemaPlan.columns := by
    refine bind_eq_ok.mpr ⟨_, mapM_eq_ok.mpr (.cons hcolumn .nil), by decide⟩
  have hplan : ClickHouseSchemaPlan.discovered [[.str (str "day"), .str (str "Date")]]
      dated.schemaPlan.arrowSchema = .ok dated.schemaPlan := by
    unfold ClickHouseSchemaPlan.discovered
    split
    · next e he => cases he.symm.trans hparse
    · next columns hcolumns =>
      obtain rfl := Except.ok.inj (hcolumns.symm.trans hparse)
      rfl
  have htrusted : ∃ r, buildSelect
      (dated.trusted ⟨none, none, [], none, none, by simp⟩) = .ok r := by
    obtain ⟨hcast, -⟩ := ClickHouseSchemaPlan.renderSchemaProjection_eq hplan
    have hvalid : ∀ column ∈ dated.schemaPlan.columns,
        column.castType.forM validateTypeExpression = .ok () :=
      fun column hcolumn =>
        valid_castType (transportType_of_parseDescribeColumns hparse column hcolumn)
    exact ⟨_, bind_eq_ok.mpr ⟨(), rfl, bind_eq_ok.mpr ⟨_, renderProjection_scan hcast hvalid, rfl⟩⟩⟩
  obtain ⟨r, hr⟩ := htrusted
  have houtcome : Outcome dated (0 : Multiset (Row PyValue)) (.ok ⟨false, []⟩) := .unsupported rfl
  obtain ⟨tasks, htasks⟩ : ∃ tasks, dated.scanTasks ⟨none, none, [], none, none, by simp⟩
      (fun _ => .ok ⟨false, []⟩) = .ok tasks := exists_scanTasks (by decide) (by decide) houtcome hr
  obtain ⟨schema, predicate, groups, -, -, -, hgroups, hall⟩ := scanTasks_eq_ok htasks
  obtain rfl : [none] = groups := Except.ok.inj hgroups
  cases hall with
  | @cons _ t _ _ ht hrest =>
    cases hrest
    have htasks := (getTasks_eq_scanTasks rfl).trans htasks
    obtain ⟨hprobe, hselects⟩ := scan_selects_probed hplan rfl htasks
    exact ⟨t, htasks, hprobe, (hselects t List.mem_cons_self).1⟩

end DataSource

end ClickHouse
end DaftOlap
