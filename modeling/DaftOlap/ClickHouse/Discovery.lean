/-
Driver-side ClickHouse schema and MergeTree partition discovery (`clickhouse/discovery.py`).

Both are sessions with the driver, the environment of the process and the Arrow and Daft
libraries: each creates one client, asks its questions and closes the client.
-/
import DaftOlap.ClickHouse.Connection
import DaftOlap.ClickHouse.DataSource
import DaftOlap.ClickHouse.Errors

namespace DaftOlap
namespace ClickHouse

open Logic Python

variable {V : Type} [Fintype V] [DecidableEq V]

/-! ## Calls -/

/-- What discovery asks.  A client is named by the number of turns before its own. -/
inductive Call (V : Type)
  /-- `import clickhouse_connect`. -/
  | importDriver
  | environ (name : Text)
  | getClient (kwargs : Dict Text (Kwarg V))
  | query (client : Nat) (sql : Text) (parameters : Dict Text Text)
  | queryArrow (client : Nat) (sql : Text) (settings : Dict Text V)
  | serialize (field : ArrowField)
  | convert (field : ArrowField)
  | close (client : Nat)

/-- The answers: whether there is a driver, the value of a variable that is set, the rows of a
result, the schema of an Arrow table, whether Arrow can serialize a field. -/
def Call.Reply : Call V → Type
  | importDriver => Bool
  | environ _ => Option Text
  | getClient _ => Unit
  | query _ _ _ => List (List PyValue)
  | queryArrow _ _ _ => Option (List ArrowField)
  | serialize _ => Bool
  | convert _ => Unit
  | close _ => Unit

/-- The resources of discovery are its clients. -/
def clients (V : Type) : Resources (Call V) Nat where
  opens
    | .getClient _ => some id
    | _ => none
  close := .close
  closes
    | .close client => some client
    | _ => none
  number := id
  number_opens call resource h n := by
    cases call with
    | getClient kwargs => rw [← Option.some.inj h]; rfl
    | importDriver | environ | query | queryArrow | serialize | convert | close => cases h
  closes_close _ := rfl
  opens_of_closes call r h := by
    cases call with
    | close client => rfl
    | importDriver | environ | getClient | query | queryArrow | serialize | convert => cases h

abbrev Driver (V : Type) := Partner (@Call.Reply V) Raised

abbrev Talk (V α : Type) := Session (@Call.Reply V) Raised Nat α

/-- `_driver`. -/
def driver (partner : Driver V) : Talk V Unit := do
  let installed : Bool ← ask partner .importDriver
  if installed then pure ()
  else throw (.daftOlap .dependency ("ClickHouse support is not installed; " ++
    "install \"daft-olap-connectors[clickhouse]\"" : String))

/-- The client both kinds of discovery create. -/
def createClient (g : ObjectGraph V) (pickle : g.Pickle) (partner : Driver V)
    (connection : ClickHouseConnection V) (timeouts : Timeouts) : Talk V Nat := do
  driver partner
  let password ← resolveSecret (fun name => ask partner (.environ name)) connection.password
  let kwargs ← check (connection.clientKwargs g pickle timeouts password)
  acquire partner (.getClient kwargs) id

/-! ## Partitions -/

def localMergeTreeEngines : List Text :=
  ["AggregatingMergeTree", "CollapsingMergeTree", "GraphiteMergeTree", "MergeTree",
    "ReplacingMergeTree", "SummingMergeTree", "VersionedCollapsingMergeTree"].map str

/-- `_table_engine`. -/
def tableEngine : List (List PyValue) → Except PyException Text
  | [] => .error (.daftOlap .databaseObjectNotFound
      "ClickHouse table was not found during partition discovery")
  | [[.str engine]] => .ok engine
  | [_] => .error (discoveryError "ClickHouse system.tables returned malformed metadata")
  | _ => .error (discoveryError "ClickHouse system.tables returned duplicate table metadata")

/-- `_has_physical_partition_column`. -/
def hasPhysicalPartitionColumn : List (List PyValue) → Except PyException Bool
  | [] => .ok false
  | [row] =>
    if row = [.str (str "_partition_id")] then .ok true
    else .error (discoveryError "ClickHouse system.columns returned malformed metadata")
  | _ => .error (discoveryError "ClickHouse system.columns returned duplicate column metadata")

/-- One row of the active parts. -/
def partitionMetadata : List PyValue → Except PyException PartitionMetadata
  | [.str partitionId, .int bytesOnDisk] =>
    if partitionId = [] ∨ bytesOnDisk < 0 then
      .error (discoveryError "ClickHouse system.parts returned malformed metadata")
    else .ok ⟨partitionId, bytesOnDisk⟩
  | _ => .error (discoveryError "ClickHouse system.parts returned malformed metadata")

/-- The rows of the active parts. -/
def activePartitions (rows : List (List PyValue)) : Except PyException PartitionDiscovery := do
  let partitions ← rows.mapM partitionMetadata
  if (partitions.map PartitionMetadata.partitionId).Nodup then return ⟨true, partitions⟩
  else .error (discoveryError "ClickHouse system.parts returned duplicate partition IDs")

def engineSql : Text :=
  str "SELECT engine FROM system.tables WHERE database = %(database)s AND name = %(table)s"

def partitionColumnSql : Text :=
  str "SELECT name FROM system.columns " ++
    str "WHERE database = %(database)s AND table = %(table)s " ++
    str "AND name = '_partition_id'"

def activePartsSql : Text :=
  str "SELECT partition_id, sum(bytes_on_disk) AS bytes_on_disk " ++
    str "FROM system.parts " ++
    str "WHERE active AND database = %(database)s AND table = %(table)s " ++
    str "GROUP BY partition_id ORDER BY partition_id"

/-- The values of the statements about a table. -/
def tableParameters (table : QualifiedTable) : Dict Text Text :=
  [(str "database", table.database), (str "table", table.table)]

/-- The session of `discover_partitions`. -/
def askPartitions (g : ObjectGraph V) (pickle : g.Pickle) (partner : Driver V)
    (connection : ClickHouseConnection V) (table : QualifiedTable) (timeouts : Timeouts) :
    Talk V PartitionDiscovery := do
  let client ← createClient g pickle partner connection timeouts
  let engineRows ← ask partner (.query client engineSql (tableParameters table))
  let engine ← check (tableEngine engineRows)
  if engine ∉ localMergeTreeEngines then pure ⟨false, []⟩
  else do
    let columnRows ← ask partner (.query client partitionColumnSql (tableParameters table))
    let physical ← check (hasPhysicalPartitionColumn columnRows)
    if physical then pure ⟨false, []⟩
    else do
      let rows ← ask partner (.query client activePartsSql (tableParameters table))
      check (activePartitions rows)

/-- A table in a message, `{table.database!r}.{table.table!r}`. -/
def tableMessage (before : String) (table : QualifiedTable) : Message :=
  [.text before, .repr table.database, .text ".", .repr table.table]

/-- The handlers of `discover_partitions`: every connector error is kept. -/
def partitionHandlers (u : CaseData) (table : QualifiedTable) : Handlers Raised where
  ordinary := Raised.isOrdinary
  handle := handled (fun _ => true)
    (fun error => translateClickHouseError u error "partition discovery")
    (.daftOlap .discovery (tableMessage "failed to discover ClickHouse partitions for " table))
  closeFailed := .daftOlap .discovery "failed to close the ClickHouse partition discovery client"

/-- Return active MergeTree partition IDs, or mark the table unsafe for parallel splitting. -/
def discoverPartitions (u : CaseData) (g : ObjectGraph V) (pickle : g.Pickle) (partner : Driver V)
    (connection : ClickHouseConnection V) (table : QualifiedTable) (timeouts : Timeouts) :
    Failing (Turn (@Call.Reply V) Raised) Raised PartitionDiscovery :=
  runSession (clients V) partner (partitionHandlers u table)
    (askPartitions g pickle partner connection table timeouts)

/-! ## Schema -/

/-- `canonical_schema`, after the two schemas were compared. -/
def serializable (partner : Driver V) (arrowSchema : List ArrowField) : Talk V Unit :=
  arrowSchema.forM fun field => do
    let serialized : Bool ← ask partner (.serialize field)
    if serialized then pure ()
    else throw (.daftOlap .schema
      [.text "unsupported Arrow type for ClickHouse column ", .repr field.name])

/-- The session of `discover_schema`. -/
def askSchema (g : ObjectGraph V) (pickle : g.Pickle) (partner : Driver V)
    (connection : ClickHouseConnection V) (table : QualifiedTable) (timeouts : Timeouts) :
    Talk V ClickHouseSchemaPlan := do
  let client ← createClient g pickle partner connection timeouts
  let describeRows ← ask partner (.query client (buildDescribe table) [])
  let columns ← check (parseDescribeColumns describeRows)
  let sql ← check (buildSchemaProbe table columns)
  let settings ← check (connection.settingsKwargs g pickle)
  let probe ← ask partner (.queryArrow client sql settings)
  match probe with
  | none => throw (.daftOlap .schema "clickhouse-connect returned a non-Arrow schema probe")
  | some arrowSchema => do
    let plan ← check (ClickHouseSchemaPlan.discovered describeRows arrowSchema)
    serializable partner arrowSchema
    validateDaftArrowSchema (fun field => ask partner (.convert field)) arrowSchema
    pure plan

/-- The connector errors `discover_schema` does not replace. -/
def keptBySchema (kind : ErrorKind) : Bool :=
  kind = .compatibility ∨ kind = .dependency ∨ kind = .schema

def schemaHandlers (u : CaseData) (table : QualifiedTable) : Handlers Raised where
  ordinary := Raised.isOrdinary
  handle := handled keptBySchema
    (fun error => translateClickHouseError u error "schema discovery")
    (.daftOlap .schema (tableMessage "failed to discover ClickHouse schema for " table))
  closeFailed := .daftOlap .schema "failed to close the ClickHouse schema discovery client"

/-- Combine DESCRIBE declarations with a zero-row Arrow transport schema. -/
def discoverSchema (u : CaseData) (g : ObjectGraph V) (pickle : g.Pickle) (partner : Driver V)
    (connection : ClickHouseConnection V) (table : QualifiedTable) (timeouts : Timeouts) :
    Failing (Turn (@Call.Reply V) Raised) Raised ClickHouseSchemaPlan :=
  runSession (clients V) partner (schemaHandlers u table)
    (askSchema g pickle partner connection table timeouts)

/-! ## What discovery asks -/

section Asks

variable {g : ObjectGraph V} {pickle : g.Pickle} {partner : Driver V}
  {connection : ClickHouseConnection V} {table : QualifiedTable} {timeouts : Timeouts}

/-- The password of a connection, in the environment a driver answers for. -/
def Resolved (partner : Driver V) (connection : ClickHouseConnection V) : Text → Prop :=
  connection.password.Resolves fun name value => ∃ log, partner log (.environ name) = .ok value

/-- The questions of a discovery that sends the statements `queries` and the probes `probes`:
its client gets the arguments of the connection and its password, and only the variable that
holds the password is looked up. -/
inductive Asked (g : ObjectGraph V) (pickle : g.Pickle) (partner : Driver V)
    (connection : ClickHouseConnection V) (timeouts : Timeouts)
    (queries : Text → Dict Text Text → Prop) (probes : Text → Prop) : Call V → Prop
  | importDriver : Asked g pickle partner connection timeouts queries probes .importDriver
  | environ {ref : SecretRef} (h : connection.password = .reference ref) :
      Asked g pickle partner connection timeouts queries probes (.environ ref.environmentVariable)
  | getClient {password : Text} {kwargs : Dict Text (Kwarg V)}
      (hpassword : Resolved partner connection password)
      (h : connection.clientKwargs g pickle timeouts password = .ok kwargs) :
      Asked g pickle partner connection timeouts queries probes (.getClient kwargs)
  | query {client : Nat} {sql : Text} {parameters : Dict Text Text} (h : queries sql parameters) :
      Asked g pickle partner connection timeouts queries probes (.query client sql parameters)
  | queryArrow {client : Nat} {sql : Text} {settings : Dict Text V} (hsql : probes sql)
      (h : connection.settingsKwargs g pickle = .ok settings) :
      Asked g pickle partner connection timeouts queries probes (.queryArrow client sql settings)
  | serialize {field : ArrowField} :
      Asked g pickle partner connection timeouts queries probes (.serialize field)
  | convert {field : ArrowField} :
      Asked g pickle partner connection timeouts queries probes (.convert field)

/-- A part of a discovery: what it asks, and what it returns. -/
abbrev Discovers (g : ObjectGraph V) (pickle : g.Pickle) (partner : Driver V)
    (connection : ClickHouseConnection V) (timeouts : Timeouts)
    (queries : Text → Dict Text Text → Prop) (probes : Text → Prop)
    {α : Type} (returns : α → Prop) (talk : Talk V α) : Prop :=
  Orderly (clients V) (fun turn => Asked g pickle partner connection timeouts queries probes turn.call)
    returns talk

variable {queries : Text → Dict Text Text → Prop} {probes : Text → Prop}

theorem discovers_driver :
    Discovers g pickle partner connection timeouts queries probes (fun _ => True) (driver partner) := by
  refine (Orderly.ask rfl rfl (fun _ => .importDriver) fun _ _ _ => trivial).bind
    fun installed _ => ?_
  cases installed with
  | true => exact Orderly.pure trivial
  | false => exact Orderly.throw _

theorem discovers_createClient :
    Discovers g pickle partner connection timeouts queries probes (fun _ => True)
      (createClient g pickle partner connection timeouts) := by
  have hpassword : Discovers g pickle partner connection timeouts queries probes
      (Resolved partner connection)
      (resolveSecret (fun name => ask partner (.environ name)) connection.password) :=
    orderly_resolveSecret fun _ href =>
      Orderly.ask rfl rfl (fun _ => .environ href) fun log _ h => ⟨log, h⟩
  have hkwargs : ∀ password, Discovers g pickle partner connection timeouts queries probes
      (fun kwargs => connection.clientKwargs g pickle timeouts password = .ok kwargs)
      (check (connection.clientKwargs g pickle timeouts password)) :=
    fun password => orderly_check fun kwargs h => h
  exact discovers_driver.bind fun _ _ => hpassword.bind fun password hresolved =>
    (hkwargs password).bind fun kwargs h =>
      Orderly.acquire rfl (fun _ => .getClient hresolved h) fun _ => trivial

/-! ## Partition discovery -/

/-- The rows a driver answers to a statement. -/
def Answers (partner : Driver V) (parameters : Dict Text Text) (sql : Text)
    (rows : List (List PyValue)) : Prop :=
  ∃ log client, partner log (.query client sql parameters) = .ok rows

/-- The row of a partition. -/
def PartitionMetadata.row (partition : PartitionMetadata) : List PyValue :=
  [.str partition.partitionId, .int partition.bytesOnDisk]

/-- What partition discovery finds in the rows of its statements. -/
inductive Found (answers : Text → List (List PyValue) → Prop) : PartitionDiscovery → Prop
  | otherEngine {engine : Text} (h : answers engineSql [[.str engine]])
      (hengine : engine ∉ localMergeTreeEngines) : Found answers ⟨false, []⟩
  | physicalColumn {engine : Text} (h : answers engineSql [[.str engine]])
      (hengine : engine ∈ localMergeTreeEngines)
      (hcolumn : answers partitionColumnSql [[.str (str "_partition_id")]]) :
      Found answers ⟨false, []⟩
  | partitions {engine : Text} {partitions : List PartitionMetadata}
      (h : answers engineSql [[.str engine]]) (hengine : engine ∈ localMergeTreeEngines)
      (hcolumn : answers partitionColumnSql [])
      (hparts : answers activePartsSql (partitions.map PartitionMetadata.row))
      (hvalid : ∀ partition ∈ partitions, partition.partitionId ≠ [] ∧ 0 ≤ partition.bytesOnDisk)
      (hnodup : (partitions.map PartitionMetadata.partitionId).Nodup) :
      Found answers ⟨true, partitions⟩

theorem tableEngine_eq_ok {rows : List (List PyValue)} {engine : Text}
    (h : tableEngine rows = .ok engine) : rows = [[.str engine]] := by
  unfold tableEngine at h
  split at h
  · cases h
  · rw [Except.ok.inj h]
  · cases h
  · cases h

theorem hasPhysicalPartitionColumn_eq_ok {rows : List (List PyValue)} {physical : Bool}
    (h : hasPhysicalPartitionColumn rows = .ok physical) :
    rows = if physical then [[.str (str "_partition_id")]] else [] := by
  unfold hasPhysicalPartitionColumn at h
  split at h
  · rw [← Except.ok.inj h]
    rfl
  · split at h
    · next hrow =>
      rw [← Except.ok.inj h, hrow]
      rfl
    · cases h
  · cases h

theorem partitionMetadata_eq_ok {row : List PyValue} {partition : PartitionMetadata}
    (h : partitionMetadata row = .ok partition) :
    row = partition.row ∧ partition.partitionId ≠ [] ∧ 0 ≤ partition.bytesOnDisk := by
  unfold partitionMetadata at h
  split at h
  · split at h
    · cases h
    · next hvalid =>
      rw [not_or, not_lt] at hvalid
      rw [← Except.ok.inj h]
      exact ⟨rfl, hvalid⟩
  · cases h

theorem activePartitions_eq_ok {rows : List (List PyValue)} {d : PartitionDiscovery}
    (h : activePartitions rows = .ok d) : ∃ partitions, d = ⟨true, partitions⟩ ∧
      rows = partitions.map PartitionMetadata.row ∧
      (∀ partition ∈ partitions, partition.partitionId ≠ [] ∧ 0 ≤ partition.bytesOnDisk) ∧
      (partitions.map PartitionMetadata.partitionId).Nodup := by
  obtain ⟨partitions, hpartitions, h⟩ := bind_eq_ok.mp h
  have hrows := mapM_eq_ok.mp hpartitions
  split at h
  · next hnodup =>
    refine ⟨partitions, (Except.ok.inj h).symm, ?_, fun partition hpartition => ?_, hnodup⟩
    · have heq : List.Forall₂ (fun row (partition : PartitionMetadata) => row = partition.row)
          rows partitions := hrows.imp fun row partition hrow => (partitionMetadata_eq_ok hrow).1
      rwa [← List.forall₂_map_right_iff, List.forall₂_eq_eq_eq] at heq
    · obtain ⟨row, -, hrow⟩ := exists_of_mem_right hrows partition hpartition
      exact (partitionMetadata_eq_ok hrow).2
  · cases h

/-- The statements of partition discovery. -/
def partitionQueries (table : QualifiedTable) (sql : Text) (parameters : Dict Text Text) : Prop :=
  sql ∈ [engineSql, partitionColumnSql, activePartsSql] ∧ parameters = tableParameters table

theorem discovers_query {sql : Text} (h : sql ∈ [engineSql, partitionColumnSql, activePartsSql])
    (client : Nat) :
    Discovers g pickle partner connection timeouts (partitionQueries table) (fun _ => False)
      (Answers partner (tableParameters table) sql)
      (ask partner (.query client sql (tableParameters table))) :=
  Orderly.ask rfl rfl (fun _ => .query ⟨h, rfl⟩) fun log _ hrows => ⟨log, client, hrows⟩

theorem discovers_askPartitions :
    Discovers g pickle partner connection timeouts (partitionQueries table) (fun _ => False)
      (Found (Answers partner (tableParameters table)))
      (askPartitions g pickle partner connection table timeouts) := by
  refine discovers_createClient.bind fun client _ =>
    (discovers_query (by simp) client).bind fun engineRows hengineRows => ?_
  have hengine : Discovers g pickle partner connection timeouts (partitionQueries table) (fun _ => False)
      (fun engine => Answers partner (tableParameters table) engineSql [[.str engine]])
      (check (tableEngine engineRows)) := by
    refine orderly_check fun engine h => ?_
    rwa [← tableEngine_eq_ok h]
  refine hengine.bind fun engine hengine => ?_
  by_cases hlocal : engine ∉ localMergeTreeEngines
  · rw [if_pos hlocal]
    exact Orderly.pure (.otherEngine hengine hlocal)
  rw [if_neg hlocal]
  refine (discovers_query (by simp) client).bind fun columnRows hcolumnRows => ?_
  have hcolumn : Discovers g pickle partner connection timeouts (partitionQueries table) (fun _ => False)
      (fun physical => Answers partner (tableParameters table) partitionColumnSql
        (if physical then [[.str (str "_partition_id")]] else []))
      (check (hasPhysicalPartitionColumn columnRows)) := by
    refine orderly_check fun physical h => ?_
    rwa [← hasPhysicalPartitionColumn_eq_ok h]
  refine hcolumn.bind fun physical hphysical => ?_
  cases physical with
  | true => exact Orderly.pure (.physicalColumn hengine (not_not.mp hlocal) hphysical)
  | false =>
    refine (discovers_query (by simp) client).bind fun rows hrows => orderly_check fun d h => ?_
    obtain ⟨partitions, rfl, rfl, hvalid, hnodup⟩ := activePartitions_eq_ok h
    exact .partitions hengine (not_not.mp hlocal) hphysical hrows hvalid hnodup

/-! ## Schema discovery -/

/-- The statement of schema discovery. -/
def schemaQueries (table : QualifiedTable) (sql : Text) (parameters : Dict Text Text) : Prop :=
  sql = buildDescribe table ∧ parameters = []

/-- The probe of schema discovery is made of the columns the driver described. -/
def schemaProbes (partner : Driver V) (table : QualifiedTable) (sql : Text) : Prop :=
  ∃ rows columns, Answers partner [] (buildDescribe table) rows ∧
    parseDescribeColumns rows = .ok columns ∧ buildSchemaProbe table columns = .ok sql

/-- What schema discovery finds: the column that each row of DESCRIBE tells of, and the schema of
the probe that selects them. -/
structure Described (partner : Driver V) (table : QualifiedTable) (plan : ClickHouseSchemaPlan) :
    Prop where
  columns : ∃ rows, Answers partner [] (buildDescribe table) rows ∧
    List.Forall₂ Describes rows plan.columns ∧ plan.columns ≠ []
  probe : ∃ sql, buildSchemaProbe table plan.columns = .ok sql ∧ ∃ log client settings,
    partner log (.queryArrow client sql settings) = .ok (some plan.arrowSchema)

theorem discovered_eq_ok {rows : List (List PyValue)} {arrowSchema : List ArrowField}
    {plan : ClickHouseSchemaPlan} (h : ClickHouseSchemaPlan.discovered rows arrowSchema = .ok plan) :
    parseDescribeColumns rows = .ok plan.columns ∧ plan.arrowSchema = arrowSchema := by
  unfold ClickHouseSchemaPlan.discovered at h
  split at h
  · cases h
  · next columns hcolumns =>
    obtain ⟨projection, -, h⟩ := bind_eq_ok.mp h
    split at h
    · rw [← Except.ok.inj h]
      exact ⟨hcolumns, rfl⟩
    · cases h

theorem discovers_askSchema :
    Discovers g pickle partner connection timeouts (schemaQueries table) (schemaProbes partner table)
      (Described partner table) (askSchema g pickle partner connection table timeouts) := by
  have hdescribe : ∀ client, Discovers g pickle partner connection timeouts (schemaQueries table)
      (schemaProbes partner table) (Answers partner [] (buildDescribe table))
      (ask partner (.query client (buildDescribe table) [])) := fun client =>
    Orderly.ask rfl rfl (fun _ => .query ⟨rfl, rfl⟩) fun log _ hrows => ⟨log, client, hrows⟩
  have hcolumns : ∀ rows, Discovers g pickle partner connection timeouts (schemaQueries table)
      (schemaProbes partner table) (fun columns => parseDescribeColumns rows = .ok columns)
      (check (parseDescribeColumns rows)) := fun rows => orderly_check fun _ h => h
  have hsql : ∀ columns, Discovers g pickle partner connection timeouts (schemaQueries table)
      (schemaProbes partner table) (fun sql => buildSchemaProbe table columns = .ok sql)
      (check (buildSchemaProbe table columns)) := fun columns => orderly_check fun _ h => h
  have hsettings : Discovers g pickle partner connection timeouts (schemaQueries table)
      (schemaProbes partner table) (fun settings => connection.settingsKwargs g pickle = .ok settings)
      (check (connection.settingsKwargs g pickle)) := orderly_check fun _ h => h
  refine discovers_createClient.bind fun client _ => (hdescribe client).bind fun rows hrows =>
    (hcolumns rows).bind fun columns hcolumns => (hsql columns).bind fun sql hsql =>
      hsettings.bind fun settings hsettings => ?_
  have hprobe : Discovers g pickle partner connection timeouts (schemaQueries table)
      (schemaProbes partner table)
      (fun probe => ∃ log, partner log (.queryArrow client sql settings) = .ok probe)
      (ask partner (.queryArrow client sql settings)) :=
    Orderly.ask rfl rfl (fun _ => .queryArrow ⟨rows, columns, hrows, hcolumns, hsql⟩ hsettings)
      fun log _ h => ⟨log, h⟩
  refine hprobe.bind fun probe hprobe => ?_
  cases probe with
  | none => exact Orderly.throw _
  | some arrowSchema =>
    have hplan : Discovers g pickle partner connection timeouts (schemaQueries table)
        (schemaProbes partner table) (Described partner table)
        (check (ClickHouseSchemaPlan.discovered rows arrowSchema)) := by
      refine orderly_check fun plan h => ?_
      obtain ⟨hparsed, rfl⟩ := discovered_eq_ok h
      obtain rfl := Except.ok.inj (hcolumns.symm.trans hparsed)
      obtain ⟨log, hlog⟩ := hprobe
      obtain ⟨hdescribes, hne, -⟩ := parseDescribeColumns_eq_ok_iff.mp hparsed
      exact ⟨⟨rows, hrows, hdescribes, hne⟩, sql, hsql, log, client, settings, hlog⟩
    have hserializable : Discovers g pickle partner connection timeouts (schemaQueries table)
        (schemaProbes partner table) (fun _ => True) (serializable partner arrowSchema) := by
      refine Orderly.forM fun field _ =>
        (Orderly.ask rfl rfl (fun _ => .serialize) fun _ _ _ => trivial).bind
          fun serialized _ => ?_
      cases serialized with
      | true => exact Orderly.pure trivial
      | false => exact Orderly.throw _
    have hconsumable : Discovers g pickle partner connection timeouts (schemaQueries table)
        (schemaProbes partner table) (fun _ => True)
        (validateDaftArrowSchema (fun field => ask partner (.convert field)) arrowSchema) :=
      orderly_validateDaftArrowSchema fun field _ =>
        Orderly.ask rfl rfl (fun _ => .convert) fun _ _ _ => trivial
    exact hplan.bind fun plan hplan => hserializable.bind fun _ _ =>
      hconsumable.bind fun _ _ => Orderly.pure hplan

/-! ## Whole runs -/

theorem isPublic_translateClickHouseError {u : CaseData} {error : DriverError} {operation : String}
    {e : Raised} (h : translateClickHouseError u error operation = some e) : e.IsPublic := by
  unfold translateClickHouseError at h
  simp only at h
  split at h
  · rw [← Option.some.inj h]
    exact trivial
  · split at h
    · rw [← Option.some.inj h]
      exact trivial
    · split at h
      · rw [← Option.some.inj h]
        exact trivial
      · cases h

theorem publicHandlers_partitions (u : CaseData) (table : QualifiedTable) :
    PublicHandlers (partitionHandlers u table) :=
  publicHandlers_handled (fun _ _ h => isPublic_translateClickHouseError h) trivial trivial

theorem publicHandlers_schema (u : CaseData) (table : QualifiedTable) :
    PublicHandlers (schemaHandlers u table) :=
  publicHandlers_handled (fun _ _ h => isPublic_translateClickHouseError h) trivial trivial

/-- Both kinds of discovery, with any driver and after any log: nothing is asked but the
statements of the kind, about the one table, of a client with the arguments of the connection;
what is found is what the driver answered; the client is closed on every path, no exception of
the driver gets out, and the first failure is the one reported. -/
theorem discovery_conversed (u : CaseData) (g : ObjectGraph V) (pickle : g.Pickle)
    (partner : Driver V) (connection : ClickHouseConnection V) (table : QualifiedTable)
    (timeouts : Timeouts) (log : List (Turn (@Call.Reply V) Raised)) :
    Conversed (clients V) partner (partitionHandlers u table)
      (fun turn => Asked g pickle partner connection timeouts (partitionQueries table) (fun _ => False)
        turn.call)
      (fun _ => Found (Answers partner (tableParameters table)))
      (askPartitions g pickle partner connection table timeouts) log ∧
    Conversed (clients V) partner (schemaHandlers u table)
      (fun turn => Asked g pickle partner connection timeouts (schemaQueries table)
        (schemaProbes partner table) turn.call)
      (fun _ => Described partner table)
      (askSchema g pickle partner connection table timeouts) log :=
  ⟨conversed (publicHandlers_partitions u table) discovers_askPartitions log,
    conversed (publicHandlers_schema u table) discovers_askSchema log⟩

end Asks

end ClickHouse
end DaftOlap
