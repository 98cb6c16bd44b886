/-
The Doris data source from its arguments to its tasks (`doris/datasource.py`).

A data source checks its arguments, asks for the schema, and then plans one scan after another,
for which it may ask the planner.  All of this is one conversation.
-/
import DaftOlap.Common.Construction
import DaftOlap.Doris.Planning

namespace DaftOlap
namespace Doris

open Logic Python

variable {V : Type} [Fintype V] [DecidableEq V]

/-! ## Construction -/

/-- The keyword arguments of `DorisDataSource`; `transport` by what hashing it comes to. -/
structure SourceArguments (V : Type) where
  transport : Except PyException PyValue
  connection : ConnectionArguments V
  scan : ScanArguments V
  planningTimeoutSeconds : PyValue

/-- What `__init__` keeps of its arguments. -/
structure SourceSettings (V : Type) where
  transport : ParameterStyle
  scan : ScanSettings
  planningTimeoutSeconds : TimeoutSeconds
  limits : ResourceLimits
  timeouts : Timeouts
  connection : DorisConnection V

/-- `transport`. -/
def checkTransport (value : PyValue) : Except PyException ParameterStyle :=
  if value = .str (str "mysql") then .ok .mysql
  else if value = .str (str "flight") then .ok .flight
  else .error (configurationError "Doris transport must be explicitly 'mysql' or 'flight'")

/-- The checks of `__init__`, in its order. -/
def checkArguments (g : ObjectGraph V) (pickle : g.Pickle) (arguments : SourceArguments V) :
    Except PyException (SourceSettings V) := do
  let transport ← checkTransport (← arguments.transport)
  let scan ← checkScan "Doris" g pickle arguments.connection.database arguments.scan
  let planningTimeoutSeconds ←
    validateTimeoutSeconds "planning_timeout_seconds" arguments.planningTimeoutSeconds
  let bounds ← checkLimits arguments.scan
  let connection ← DorisConnection.fromOptions g pickle arguments.connection
  return ⟨transport, scan, planningTimeoutSeconds, bounds.1, bounds.2, connection⟩

/-- The fields of a schema whose names are pairwise different. -/
abbrev DistinctFields : Type :=
  { fields : List CanonicalField //
    ((fields.map CanonicalField.arrowField).map ArrowField.name).Nodup }

/-- The data source of the settings, once its schema is known. -/
def SourceSettings.source (settings : SourceSettings V) (countPushdownAvailable : Bool)
    (schema : DistinctFields) : DataSource where
  table := settings.scan.table
  transport := settings.transport
  limits := settings.limits
  split := settings.scan.split
  discoveryPolicy := settings.scan.discoveryPolicy
  unsafeWhereSql := settings.scan.unsafeWhereSql
  queryParameters := settings.scan.queryParameters
  arrowSchema := schema.val.map CanonicalField.arrowField
  names_nodup := schema.property
  countPushdownAvailable := countPushdownAvailable

section Schema

variable {u : CaseData} {g : ObjectGraph V} {pickle : g.Pickle} {partner : SessionDriver V}
  {patience : Nat} {connection : DorisConnection V} {table : QualifiedTable} {timeouts : Timeouts}

omit [Fintype V] [DecidableEq V] in
theorem nodup_of_described {turns : List (Turn (@SessionCall.Reply V) Raised)}
    {fields : List CanonicalField} (h : Described u turns fields) :
    ((fields.map CanonicalField.arrowField).map ArrowField.name).Nodup := by
  obtain ⟨columns, -, -, hnodup, hcanonical⟩ := h.fields
  rwa [names_canonicalSchema hcanonical]

theorem nodup_of_discoverSchema (log : List (Turn (@SessionCall.Reply V) Raised))
    (fields : List CanonicalField)
    (h : ((discoverSchema u g pickle partner patience connection table timeouts).run.run log).1 =
      .ok fields) : ((fields.map CanonicalField.arrowField).map ArrowField.name).Nodup := by
  obtain ⟨turns, -, -, hreturns⟩ := AddsWith.runSession discovers_askSchema log
  obtain ⟨asked, closing, -, hdescribed, -⟩ := hreturns fields h
  exact nodup_of_described hdescribed

end Schema

/-- `__init__`. -/
def construct (u : CaseData) (g : ObjectGraph V) (pickle : g.Pickle) (partner : SessionDriver V)
    (patience : Nat) (countPushdownAvailable : Bool) (arguments : SourceArguments V) :
    Failing (Turn (@SessionCall.Reply V) Raised) Raised (SourceSettings V × DataSource) := do
  let settings ← raising (checkArguments g pickle arguments)
  let schema ← attach (discoverSchema u g pickle partner patience settings.connection
    settings.scan.table settings.timeouts) nodup_of_discoverSchema
  return (settings, settings.source countPushdownAvailable schema)

/-- A call of `get_tasks`, and where its await of tablet discovery is cancelled. -/
structure ScanCall (V : Type) where
  pushdowns : Pushdowns
  cancelled : List (Turn (@SessionCall.Reply V) Raised) → Option Cancelled

/-- One call of `get_tasks`; an exception ends this call only. -/
def scanCall (u : CaseData) (loads : Text → Except JsonFailure Json) (g : ObjectGraph V)
    (pickle : g.Pickle) (partner : SessionDriver V) (settings : SourceSettings V)
    (source : DataSource) (scan : ScanCall V) :
    Failing (Turn (@SessionCall.Reply V) Raised) Raised (Except Raised (List Task)) :=
  attempt (source.getTasksIn scan.pushdowns fun query => toThread scan.cancelled
    (discoverTabletsIn u loads g pickle partner settings.connection source.table settings.timeouts
      settings.planningTimeoutSeconds.val query))

/-- A data source from its construction to the last of its scans. -/
def lifetime (u : CaseData) (loads : Text → Except JsonFailure Json) (g : ObjectGraph V)
    (pickle : g.Pickle) (partner : SessionDriver V) (patience : Nat) (countPushdownAvailable : Bool)
    (arguments : SourceArguments V) (scans : List (ScanCall V)) :
    Failing (Turn (@SessionCall.Reply V) Raised) Raised
      (DataSource × List (Except Raised (List Task))) := do
  let built ← construct u g pickle partner patience countPushdownAvailable arguments
  let outcomes ← scans.mapM fun scan => scanCall u loads g pickle partner built.1 built.2 scan
  return (built.2, outcomes)

/-! ## What is kept of the arguments -/

section Lifetime

variable {u : CaseData} {loads : Text → Except JsonFailure Json} {g : ObjectGraph V}
  {pickle : g.Pickle} {partner : SessionDriver V} {patience : Nat} {countPushdownAvailable : Bool}
  {arguments : SourceArguments V} {settings : SourceSettings V}

def ParameterStyle.text : ParameterStyle → Text
  | .mysql => str "mysql"
  | .flight => str "flight"

/-- The settings were given as these objects. -/
structure SourceSettings.IsOf (g : ObjectGraph V) (pickle : g.Pickle)
    (settings : SourceSettings V) (arguments : SourceArguments V) : Prop where
  transport : arguments.transport = .ok (.str settings.transport.text)
  connection : settings.connection.IsOf arguments.connection
  scan : settings.scan.IsOf g pickle arguments.connection.database arguments.scan
  planning : arguments.planningTimeoutSeconds = settings.planningTimeoutSeconds.val
  bounds : BoundsOf settings.limits settings.timeouts arguments.scan

theorem checkTransport_eq_ok {value : PyValue} {transport : ParameterStyle}
    (h : checkTransport value = .ok transport) : value = .str transport.text := by
  rcases chosen_of_eq_ok h with ⟨hvalue, rfl⟩ | ⟨hvalue, rfl⟩
  · exact hvalue
  · exact hvalue

theorem checkArguments_eq_ok (h : checkArguments g pickle arguments = .ok settings) :
    settings.IsOf g pickle arguments := by
  obtain ⟨value, hvalue, h⟩ := bind_eq_ok.mp h
  obtain ⟨transport, htransport, h⟩ := bind_eq_ok.mp h
  obtain ⟨scan, hscan, h⟩ := bind_eq_ok.mp h
  obtain ⟨planning, hplanning, h⟩ := bind_eq_ok.mp h
  obtain ⟨bounds, hbounds, h⟩ := bind_eq_ok.mp h
  obtain ⟨connection, hconnection, h⟩ := bind_eq_ok.mp h
  obtain rfl := Except.ok.inj h
  rw [checkTransport_eq_ok htransport] at hvalue
  exact ⟨hvalue, (fromOptions_eq_ok hconnection).1, checkScan_eq_ok hscan,
    validateTimeoutSeconds_eq_ok hplanning, checkLimits_eq_ok hbounds⟩

/-- What hashing an argument raises. -/
def SourceArguments.Unhashable (arguments : SourceArguments V) (e : PyException) : Prop :=
  arguments.transport = .error e ∨ arguments.scan.Unhashable e

theorem rejects_fromOptions {other : PyException → Prop} (arguments : ConnectionArguments V) :
    Rejects other (DorisConnection.fromOptions g pickle arguments) := by
  have hoption : ∀ item : Text × V, Rejects other (flightOption g item) := by
    intro item
    unfold flightOption
    split
    · exact .ok _
    · exact .error _
  have hhost : Rejects other (checkHost arguments.host) := by
    unfold checkHost
    split
    · split
      · exact .error _
      · split
        · exact .error _
        · split
          · exact .error _
          · exact .ok _
    · exact .error _
  exact (rejects_freezeOptions g pickle _ _ _).bind fun _ => (Rejects.mapM hoption).bind
    fun _ => (rejects_freezeOptions g pickle _ _ _).bind fun _ => hhost.bind
    fun _ => (rejects_checkText _ _).bind fun _ => (rejects_checkText _ _).bind
    fun _ => (rejects_validateSecret _).bind fun _ => (rejects_checkBool _ _).bind
    fun _ => (rejects_checkBool _ _).bind fun _ => (rejects_checkBound _ _ _).bind
    fun _ => (rejects_checkBound _ _ _).bind fun _ => (rejects_checkBound _ _ _).bind
    fun _ => .ok _

theorem rejects_checkArguments :
    Rejects arguments.Unhashable (checkArguments g pickle arguments) := by
  have hhashed : Rejects arguments.Unhashable arguments.transport := fun e he => Or.inr (Or.inl he)
  have htransport : ∀ value, Rejects arguments.Unhashable (checkTransport value) :=
    fun _ => .ite (.ok _) (.ite (.ok _) (.error _))
  have hscan : Rejects arguments.Unhashable
      (checkScan "Doris" g pickle arguments.connection.database arguments.scan) :=
    (rejects_checkScan _ g pickle _ _).mono fun e he => Or.inr he
  exact hhashed.bind fun _ => (htransport _).bind fun _ => hscan.bind fun _ =>
    (rejects_validateTimeoutSeconds _ _).bind fun _ => (rejects_checkLimits _).bind fun _ =>
      (rejects_fromOptions _).bind fun _ => .ok _

/-! ## The whole conversation -/

/-- The turns of schema discovery for the settings. -/
def SchemaTurn (g : ObjectGraph V) (pickle : g.Pickle) (partner : SessionDriver V)
    (settings : SourceSettings V) (turn : Turn (@SessionCall.Reply V) Raised) : Prop :=
  Asked g pickle partner settings.connection settings.timeouts
      (· = buildDescribe settings.scan.table) (fun _ _ => False) (fun _ => False) turn.call ∨
    ∃ resource, turn.call = .close resource

/-- The turns of a scan: those of tablet discovery for its planning query. -/
def ScanTurn (g : ObjectGraph V) (pickle : g.Pickle) (partner : SessionDriver V)
    (settings : SourceSettings V) (source : DataSource) (pushdowns : Pushdowns)
    (turn : Turn (@SessionCall.Reply V) Raised) : Prop :=
  ∃ predicate query, compileFilter pushdowns.filters = .ok predicate ∧
    buildSelect (source.planningArguments (source.columns pushdowns) predicate) = .ok query ∧
    PlanningTurn g pickle partner settings.connection settings.scan.table settings.timeouts query turn

/-- A source that was constructed from the arguments and the schema that was described in these
turns. -/
structure Made (u : CaseData) (g : ObjectGraph V) (pickle : g.Pickle)
    (countPushdownAvailable : Bool) (arguments : SourceArguments V)
    (asked : List (Turn (@SessionCall.Reply V) Raised)) (settings : SourceSettings V)
    (source : DataSource) : Prop where
  checked : checkArguments g pickle arguments = .ok settings
  isOf : settings.IsOf g pickle arguments
  source_eq : ∃ schema : DistinctFields, Described u asked schema.val ∧
    source = settings.source countPushdownAvailable schema

/-- The tasks of a scan are no more than the limits allow, and split it, by the tablets that were
discovered in these turns, if PyMySQL formats, the planner tells the truth and planning reads the
condition of the tasks. -/
def SplitsPlanned (u : CaseData) (loads : Text → Except JsonFailure Json)
    (partner : SessionDriver V) (settings : SourceSettings V) (source : DataSource)
    (pushdowns : Pushdowns) (turns : List (Turn (@SessionCall.Reply V) Raised))
    (tasks : List Task) : Prop :=
  ∀ (Cell : Type) (literal : PyValue → Text) (reads : Text → Row Cell → Bool)
    (rows : Multiset (Row Cell)), pushdowns.aggregation = none →
    hasEscape settings.connection.host = false → Mogrifies u.toUnicodeData literal partner →
    source.PlansTruthfully pushdowns u.toUnicodeData literal loads partner reads rows →
    ∃ predicate reply, DataSource.Planned u literal loads partner settings.connection source
      pushdowns reads rows turns tasks predicate reply

/-- What comes of a data source: the schema was described in its first turns, the others are of its
scans, and each of those that succeeded splits what the planner is truthful about. -/
structure Lived (u : CaseData) (loads : Text → Except JsonFailure Json) (g : ObjectGraph V)
    (pickle : g.Pickle) (partner : SessionDriver V) (countPushdownAvailable : Bool)
    (arguments : SourceArguments V) (scans : List (ScanCall V))
    (asked later : List (Turn (@SessionCall.Reply V) Raised)) (settings : SourceSettings V)
    (source : DataSource) (outcomes : List (Except Raised (List Task))) : Prop where
  made : Made u g pickle countPushdownAvailable arguments asked settings source
  describes : ∀ turn ∈ asked, SchemaTurn g pickle partner settings turn
  plans : ∀ turn ∈ later, ∃ scan ∈ scans, ScanTurn g pickle partner settings source scan.pushdowns turn
  splits : List.Forall₂ (fun (scan : ScanCall V) outcome => ∃ turns, turns <:+: later ∧
    ∀ tasks, outcome = .ok tasks →
      SplitsPlanned u loads partner settings source scan.pushdowns turns tasks) scans outcomes

theorem adds_scanCall {source : DataSource} (htable : source.table = settings.scan.table)
    (scan : ScanCall V) :
    AddsWith (ScanTurn g pickle partner settings source scan.pushdowns)
      (fun turns outcome => ∀ tasks, outcome = .ok tasks →
        SplitsPlanned u loads partner settings source scan.pushdowns turns tasks)
      (scanCall u loads g pickle partner settings source scan) := by
  have hdiscovers : ∀ predicate query, compileFilter scan.pushdowns.filters = .ok predicate →
      (source.scanPlan scan.pushdowns predicate).question? = some query →
      AddsWith (ScanTurn g pickle partner settings source scan.pushdowns)
        (Discovered u loads partner settings.connection source.table query)
        (toThread scan.cancelled (discoverTabletsIn u loads g pickle partner settings.connection
          source.table settings.timeouts settings.planningTimeoutSeconds.val query)) := by
    intro predicate query hpredicate hquery
    refine addsWith_toThread (adds_discoverTabletsIn.mono fun turn hturn =>
      ⟨predicate, query, hpredicate, DataSource.question?_eq_some hquery, ?_⟩)
    rwa [htable] at hturn
  refine AddsWith.attempt ((DataSource.adds_getTasksIn hdiscovers).imp fun turns tasks h => ?_)
  intro Cell literal reads rows haggregation hhost hmogrifies htruthful
  obtain ⟨reply, htasks, hdiscovered⟩ := h haggregation
  obtain ⟨predicate, hplanned⟩ := DataSource.planned_of_scanTasks haggregation hhost hmogrifies
    htruthful htasks hdiscovered
  exact ⟨predicate, reply, hplanned⟩

end Lifetime

end Doris
end DaftOlap
