/-
The ClickHouse data source from its arguments to its tasks (`clickhouse/datasource.py`).

A data source checks its arguments, asks for the schema, and then plans one scan after another.
All of this is one conversation with the driver.
-/
import DaftOlap.ClickHouse.Planning
import DaftOlap.Common.Construction

namespace DaftOlap
namespace ClickHouse

open Logic Python

variable {V : Type} [Fintype V] [DecidableEq V]

/-! ## Construction -/

/-- The keyword arguments of `ClickHouseDataSource`. -/
structure SourceArguments (V : Type) where
  connection : ConnectionArguments V
  scan : ScanArguments V

/-- What `__init__` keeps of its arguments. -/
structure SourceSettings (V : Type) where
  scan : ScanSettings
  limits : ResourceLimits
  timeouts : Timeouts
  connection : ClickHouseConnection V

/-- The checks of `__init__`, in its order. -/
def checkArguments (g : ObjectGraph V) (pickle : g.Pickle) (arguments : SourceArguments V) :
    Except PyException (SourceSettings V) := do
  let scan ← checkScan "ClickHouse" g pickle arguments.connection.database arguments.scan
  let bounds ← checkLimits arguments.scan
  let connection ← ClickHouseConnection.fromOptions g pickle arguments.connection
  return ⟨scan, bounds.1, bounds.2, connection⟩

/-- The data source of the settings, once its schema is known. -/
def SourceSettings.source (settings : SourceSettings V) (countPushdownAvailable : Bool)
    (schemaPlan : ClickHouseSchemaPlan) : DataSource where
  table := settings.scan.table
  limits := settings.limits
  split := settings.scan.split
  discoveryPolicy := settings.scan.discoveryPolicy
  unsafeWhereSql := settings.scan.unsafeWhereSql
  queryParameters := settings.scan.queryParameters
  schemaPlan := schemaPlan
  countPushdownAvailable := countPushdownAvailable

/-- `__init__`. -/
def construct (u : CaseData) (g : ObjectGraph V) (pickle : g.Pickle) (partner : Driver V)
    (countPushdownAvailable : Bool) (arguments : SourceArguments V) :
    Failing (Turn (@Call.Reply V) Raised) Raised (SourceSettings V × DataSource) := do
  let settings ← raising (checkArguments g pickle arguments)
  let schemaPlan ←
    discoverSchema u g pickle partner settings.connection settings.scan.table settings.timeouts
  return (settings, settings.source countPushdownAvailable schemaPlan)

/-- A call of `get_tasks`, and where its await of partition discovery is cancelled. -/
structure ScanCall (V : Type) where
  pushdowns : Pushdowns
  cancelled : List (Turn (@Call.Reply V) Raised) → Option Cancelled

/-- One call of `get_tasks`; an exception ends this call only. -/
def scanCall (u : CaseData) (g : ObjectGraph V) (pickle : g.Pickle) (partner : Driver V)
    (settings : SourceSettings V) (source : DataSource) (scan : ScanCall V) :
    Failing (Turn (@Call.Reply V) Raised) Raised (Except Raised (List Task)) :=
  attempt (source.getTasksIn scan.pushdowns (toThread scan.cancelled (discoverPartitions u g pickle
    partner settings.connection source.table settings.timeouts)))

/-- A data source from its construction to the last of its scans. -/
def lifetime (u : CaseData) (g : ObjectGraph V) (pickle : g.Pickle) (partner : Driver V)
    (countPushdownAvailable : Bool) (arguments : SourceArguments V) (scans : List (ScanCall V)) :
    Failing (Turn (@Call.Reply V) Raised) Raised (DataSource × List (Except Raised (List Task))) := do
  let built ← construct u g pickle partner countPushdownAvailable arguments
  let outcomes ← scans.mapM (scanCall u g pickle partner built.1 built.2)
  return (built.2, outcomes)

/-! ## What is kept of the arguments -/

section Lifetime

variable {u : CaseData} {g : ObjectGraph V} {pickle : g.Pickle} {partner : Driver V}
  {countPushdownAvailable : Bool} {arguments : SourceArguments V} {settings : SourceSettings V}

/-- The settings were given as these objects. -/
structure SourceSettings.IsOf (g : ObjectGraph V) (pickle : g.Pickle)
    (settings : SourceSettings V) (arguments : SourceArguments V) : Prop where
  connection : settings.connection.IsOf arguments.connection
  scan : settings.scan.IsOf g pickle arguments.connection.database arguments.scan
  bounds : BoundsOf settings.limits settings.timeouts arguments.scan

theorem checkArguments_eq_ok (h : checkArguments g pickle arguments = .ok settings) :
    settings.IsOf g pickle arguments := by
  obtain ⟨scan, hscan, h⟩ := bind_eq_ok.mp h
  obtain ⟨bounds, hbounds, h⟩ := bind_eq_ok.mp h
  obtain ⟨connection, hconnection, h⟩ := bind_eq_ok.mp h
  obtain rfl := Except.ok.inj h
  exact ⟨(fromOptions_eq_ok hconnection).1, checkScan_eq_ok hscan, checkLimits_eq_ok hbounds⟩

theorem rejects_fromOptions {other : PyException → Prop} (arguments : ConnectionArguments V) :
    Rejects other (ClickHouseConnection.fromOptions g pickle arguments) :=
  (rejects_freezeOptions g pickle _ _ _).bind fun _ => (rejects_freezeOptions g pickle _ _ _).bind
    fun _ => (rejects_checkText _ _).bind fun _ => (rejects_checkText _ _).bind
    fun _ => (rejects_checkText _ _).bind fun _ => (rejects_checkBound _ _ _).bind
    fun _ => (rejects_checkBool _ _).bind fun _ => (rejects_validateSecret _).bind fun _ => .ok _

theorem rejects_checkArguments :
    Rejects arguments.scan.Unhashable (checkArguments g pickle arguments) :=
  (rejects_checkScan _ g pickle _ _).bind fun _ => (rejects_checkLimits _).bind fun _ =>
    (rejects_fromOptions _).bind fun _ => .ok _

/-! ## The whole conversation -/

/-- The turns of a data source: the statements of both kinds of discovery about its table, of
clients that get the arguments of its connection. -/
def SourceTurn (g : ObjectGraph V) (pickle : g.Pickle) (partner : Driver V)
    (settings : SourceSettings V) (turn : Turn (@Call.Reply V) Raised) : Prop :=
  Asked g pickle partner settings.connection settings.timeouts
      (fun sql parameters => schemaQueries settings.scan.table sql parameters ∨
        partitionQueries settings.scan.table sql parameters)
      (schemaProbes partner settings.scan.table) turn.call ∨
    ∃ client, turn.call = .close client

/-- The tasks of a scan are no more than the limits allow, and split the rows of any table that
the driver tells the truth about, as far as binding is exact. -/
def SplitsStored (u : UnicodeData) (partner : Driver V) (source : DataSource)
    (pushdowns : Pushdowns) (tasks : List Task) : Prop :=
  ∀ (Cell : Type) (server : Server Cell) (stored : StoredTable server),
    pushdowns.aggregation = none → Truthful partner source.table stored →
    (1 ≤ tasks.length ∧ tasks.length ≤ min source.limits.targetTasks source.limits.maxTasks) ∧
      ∃ predicate, compileFilter pushdowns.filters = .ok predicate ∧
        (DataSource.SplitScan u source pushdowns predicate server stored.rows tasks ↔
          (∀ t ∈ tasks, t.spec.namedParameters = []) ∨
            (source.select pushdowns predicate none).Clean)

theorem Asked.mono {connection : ClickHouseConnection V} {timeouts : Timeouts}
    {queries queries' : Text → Dict Text Text → Prop} {probes probes' : Text → Prop}
    {call : Call V} (h : Asked g pickle partner connection timeouts queries probes call)
    (hqueries : ∀ sql parameters, queries sql parameters → queries' sql parameters)
    (hprobes : ∀ sql, probes sql → probes' sql) :
    Asked g pickle partner connection timeouts queries' probes' call := by
  cases h with
  | importDriver => exact .importDriver
  | environ href => exact .environ href
  | getClient hpassword hkwargs => exact .getClient hpassword hkwargs
  | query hquery => exact .query (hqueries _ _ hquery)
  | queryArrow hsql hsettings => exact .queryArrow (hprobes _ hsql) hsettings
  | serialize => exact .serialize
  | convert => exact .convert

theorem adds_discoverSchema :
    Adds (SourceTurn g pickle partner settings) (Described partner settings.scan.table)
      (discoverSchema u g pickle partner settings.connection settings.scan.table
        settings.timeouts) :=
  (Adds.runSession discovers_askSchema).mono fun _ hturn =>
    hturn.imp_left fun h => h.mono (fun _ _ => Or.inl) fun _ hsql => hsql

theorem adds_discoverPartitions :
    Adds (SourceTurn g pickle partner settings) (fun _ => True)
      (discoverPartitions u g pickle partner settings.connection settings.scan.table
        settings.timeouts) :=
  ((Adds.runSession discovers_askPartitions).mono fun _ hturn =>
    hturn.imp_left fun h => h.mono (fun _ _ => Or.inr) fun _ hsql => hsql.elim).imp fun _ _ => trivial

theorem adds_scanCall {source : DataSource} (htable : source.table = settings.scan.table)
    (scan : ScanCall V) :
    Adds (SourceTurn g pickle partner settings)
      (fun outcome => ∀ tasks, outcome = .ok tasks →
        SplitsStored u.toUnicodeData partner source scan.pushdowns tasks)
      (scanCall u g pickle partner settings source scan) := by
  refine Adds.attempt (Adds.of_preserves (fun start => ?_) fun log tasks htasks => ?_)
  · rw [htable]
    exact DataSource.preserves_getTasksIn (preserves_toThread (adds_discoverPartitions.preserves start))
  · intro Cell server stored haggregation htruthful
    exact DataSource.planned_of_getTasksIn haggregation htruthful htasks

/-- What comes of a data source: it was constructed from its arguments and the schema that was
described, and every scan that succeeds splits the stored rows as far as binding is exact. -/
structure Lived (u : UnicodeData) (g : ObjectGraph V) (pickle : g.Pickle) (partner : Driver V)
    (countPushdownAvailable : Bool) (arguments : SourceArguments V) (scans : List (ScanCall V))
    (settings : SourceSettings V) (source : DataSource)
    (outcomes : List (Except Raised (List Task))) : Prop where
  checked : checkArguments g pickle arguments = .ok settings
  isOf : settings.IsOf g pickle arguments
  made : source = settings.source countPushdownAvailable source.schemaPlan
  described : Described partner settings.scan.table source.schemaPlan
  splits : List.Forall₂ (fun (scan : ScanCall V) outcome => ∀ tasks, outcome = .ok tasks →
    SplitsStored u partner source scan.pushdowns tasks) scans outcomes

/-- A data source over its whole life, with any driver and after any log.  Nothing is asked before
all arguments were checked, and then nothing but the statements of discovery about its one table,
of clients that get the checked arguments; every client is closed once.  Its construction fails
with a connector error or control flow only, unless an argument cannot be hashed; and however many
scans fail or are cancelled, each one that succeeds splits the stored rows if and only if none of
its tasks binds a value or no name that it quotes and no type it casts to has a percent sign. -/
theorem clickHouseDataSource_lives (u : CaseData) (g : ObjectGraph V) (pickle : g.Pickle)
    (partner : Driver V) (countPushdownAvailable : Bool) (arguments : SourceArguments V)
    (scans : List (ScanCall V)) (log : List (Turn (@Call.Reply V) Raised)) :
    let run := (lifetime u g pickle partner countPushdownAvailable arguments scans).run.run log
    (∃ turns, run.2 = log ++ turns ∧ ∀ turn ∈ turns, ∃ settings,
      checkArguments g pickle arguments = .ok settings ∧ settings.IsOf g pickle arguments ∧
        SourceTurn g pickle partner settings turn) ∧
    (Tidy (clients V) Raised.isOrdinary log → Tidy (clients V) Raised.isOrdinary run.2) ∧
    (∀ e, run.1 = .error e →
      e.IsPublic ∨ ∃ e', arguments.scan.Unhashable e' ∧ e = e'.raised) ∧
    ∀ source outcomes, run.1 = .ok (source, outcomes) → ∃ settings,
      Lived u.toUnicodeData g pickle partner countPushdownAvailable arguments scans settings source outcomes := by
  have hadds : Adds (fun turn => ∃ settings, checkArguments g pickle arguments = .ok settings ∧
        settings.IsOf g pickle arguments ∧ SourceTurn g pickle partner settings turn)
      (fun result => ∃ settings,
        Lived u.toUnicodeData g pickle partner countPushdownAvailable arguments scans settings result.1 result.2)
      (lifetime u g pickle partner countPushdownAvailable arguments scans) := by
    have hbuilt : Adds (fun turn => ∃ settings, checkArguments g pickle arguments = .ok settings ∧
          settings.IsOf g pickle arguments ∧ SourceTurn g pickle partner settings turn)
        (fun built => checkArguments g pickle arguments = .ok built.1 ∧
          ∃ plan, Described partner built.1.scan.table plan ∧
            built.2 = built.1.source countPushdownAvailable plan)
        (construct u g pickle partner countPushdownAvailable arguments) :=
      (adds_raising fun settings h => h).bind fun settings h =>
        (adds_discoverSchema.mono fun turn hturn =>
          ⟨settings, h, checkArguments_eq_ok h, hturn⟩).bind fun plan hplan =>
            Adds.pure ⟨h, plan, hplan, rfl⟩
    refine hbuilt.bind fun built h => ?_
    obtain ⟨hchecked, plan, hdescribed, hmade⟩ := h
    have hscan : ∀ scan, Adds (fun turn => ∃ settings, checkArguments g pickle arguments =
          .ok settings ∧ settings.IsOf g pickle arguments ∧ SourceTurn g pickle partner settings turn)
        (fun outcome => ∀ tasks, outcome = .ok tasks →
          SplitsStored u.toUnicodeData partner built.2 scan.pushdowns tasks)
        (scanCall u g pickle partner built.1 built.2 scan) := fun scan =>
      (adds_scanCall (congrArg DataSource.table hmade) scan).mono fun turn hturn =>
        ⟨built.1, hchecked, checkArguments_eq_ok hchecked, hturn⟩
    have hscans := Adds.mapM fun scan (_ : scan ∈ scans) => hscan scan
    refine hscans.bind fun outcomes houtcomes => Adds.pure ⟨built.1, ?_⟩
    obtain ⟨settings, source⟩ := built
    obtain rfl : source = settings.source countPushdownAvailable plan := hmade
    exact ⟨hchecked, checkArguments_eq_ok hchecked, rfl, hdescribed, houtcomes⟩
  have htidy : Preserves (Tidy (clients V) Raised.isOrdinary)
      (lifetime u g pickle partner countPushdownAvailable arguments scans) := by
    refine Preserves.bind ?_ fun built => (Preserves.mapM (fun scan => Preserves.attempt
      (DataSource.preserves_getTasksIn (preserves_toThread tidy_discoverPartitions))) scans).bind
        fun outcomes => Preserves.except (.ok (built.2, outcomes))
    exact (preserves_raising _).bind fun settings => Preserves.bind
      (fun log hlog => (conversed (publicHandlers_schema u _) discovers_askSchema log).tidy hlog)
      fun plan => Preserves.except (.ok (settings, settings.source countPushdownAvailable plan))
  have hthrows : Throws (fun e => e.IsPublic ∨ ∃ e', arguments.scan.Unhashable e' ∧ e = e'.raised)
      (lifetime u g pickle partner countPushdownAvailable arguments scans) := by
    refine Throws.bind ?_ fun built _ _ => Throws.bind (throws_mapM_attempt scans)
      fun outcomes _ _ => fun _ e he => by cases he
    refine Throws.bind (throws_raising fun e he => ?_) fun settings _ _ =>
      Throws.bind (fun log e he => ?_) fun plan _ _ => fun _ e he => by cases he
    · rcases rejects_checkArguments e he with hkind | hhash
      · exact Or.inl (isPublic_raised hkind)
      · exact Or.inr ⟨e, hhash, rfl⟩
    · exact Or.inl ((conversed (publicHandlers_schema u _) discovers_askSchema log).isPublic e he)
  obtain ⟨turns, hlog, hturns, hlived⟩ := hadds log
  exact ⟨⟨turns, hlog, hturns⟩, htidy log, hthrows log, fun source outcomes h => hlived _ h⟩

end Lifetime

end ClickHouse
end DaftOlap
