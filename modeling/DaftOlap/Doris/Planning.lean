/-
Planning of Doris scans with a driver and a planner (`doris/datasource.py`).

The data source asks for the tablets at most once, in a thread that may be cancelled.  If the
planner answers the request it reads by tablets that hold every row of the WHERE clause in it, and
planning reads the condition of the tasks, the tasks split the rows of the scan.
-/
import DaftOlap.Doris.Sessions
import DaftOlap.Doris.Split

namespace DaftOlap
namespace Doris

open Logic Python

variable {Cell V : Type}

namespace DataSource

variable {Event : Type}

/-- The tasks of a scan, with tablet discovery as an effect. -/
def scanTasksIn (source : DataSource) (pushdowns : Pushdowns)
    (discover : Text × List PyValue → Failing Event Raised (List Int)) :
    Failing Event Raised (List Task) := do
  let columns ← raising (requiredScanColumns pushdowns source.names)
  if columns = [] then
    raising (.error (compatibilityError "an empty non-count Doris projection is not supported"))
  else do
    let schema ← raising (projectSchema source.arrowSchema columns)
    let predicate ← raising (compileFilter pushdowns.filters)
    let limit := safeDatabaseLimit pushdowns predicate
    let plan ← (source.tabletPlan columns predicate limit).perform discover
    raising (plan.groups.mapM fun tabletIds =>
      task (source.scanArguments columns predicate (taskLimit pushdowns predicate plan) tabletIds)
        schema)

/-- `get_tasks`, with tablet discovery as an effect. -/
def getTasksIn (source : DataSource) (pushdowns : Pushdowns)
    (discover : Text × List PyValue → Failing Event Raised (List Int)) :
    Failing Event Raised (List Task) := do
  match ← raising (countPushdown source.countPushdownAvailable pushdowns) with
  | some outputName =>
    if pushdowns.limit ≠ none then
      raising (.error (compatibilityError "count pushdown with a limit is not supported"))
    else
      raising do
        let t ← task (source.countArguments outputName) [⟨outputName, str "uint64"⟩]
        return [t]
  | none => source.scanTasksIn pushdowns discover

variable {source : DataSource} {pushdowns : Pushdowns} {predicate : Option Predicate}
  {discover : Text × List PyValue → Failing Event Raised (List Int)} {log : List Event}
  {tasks : List Task}

/-- The tasks are those of the plain generator for what the discovery answered to the planning
query. -/
theorem adds_scanTasksIn {adds : Event → Prop}
    {heard : Text × List PyValue → List Event → List Int → Prop}
    (h : ∀ predicate query, compileFilter pushdowns.filters = .ok predicate →
      (source.scanPlan pushdowns predicate).question? = some query →
      AddsWith adds (heard query) (discover query)) :
    AddsWith adds (fun events tasks => ∃ reply, source.scanTasks pushdowns reply = .ok tasks ∧
      ∀ predicate query ids, compileFilter pushdowns.filters = .ok predicate →
        (source.scanPlan pushdowns predicate).question? = some query → reply query = .ok ids →
          heard query events ids) (source.scanTasksIn pushdowns discover) := by
  refine addsWith_raising_bind fun columns hcolumns => ?_
  obtain rfl : columns = source.columns pushdowns := requiredScanColumns_eq_ok hcolumns
  by_cases hnil : source.columns pushdowns = []
  · rw [if_pos hnil]
    exact addsWith_raising fun tasks htasks => by cases htasks
  rw [if_neg hnil]
  refine addsWith_raising_bind fun schema hschema => addsWith_raising_bind fun predicate hpredicate =>
    AddsWith.bind (addsWith_perform fun query => h predicate query hpredicate)
      fun events plan hplan => addsWith_raising fun tasks htasks => ?_
  obtain ⟨reply, hreply, hheard⟩ := hplan
  refine ⟨reply, bind_eq_ok.mpr ⟨_, hcolumns, ?_⟩, fun predicate' query ids hpredicate' hquery hids => ?_⟩
  · rw [if_neg hnil]
    exact bind_eq_ok.mpr ⟨schema, hschema, bind_eq_ok.mpr ⟨predicate, hpredicate,
      bind_eq_ok.mpr ⟨plan, hreply, htasks⟩⟩⟩
  · obtain rfl := Except.ok.inj (hpredicate.symm.trans hpredicate')
    rw [List.append_nil]
    exact hheard query ids hquery hids

/-- Only a scan that counts nothing asks for tablets. -/
theorem adds_getTasksIn {adds : Event → Prop}
    {heard : Text × List PyValue → List Event → List Int → Prop}
    (h : ∀ predicate query, compileFilter pushdowns.filters = .ok predicate →
      (source.scanPlan pushdowns predicate).question? = some query →
      AddsWith adds (heard query) (discover query)) :
    AddsWith adds (fun events tasks => pushdowns.aggregation = none →
      ∃ reply, source.scanTasks pushdowns reply = .ok tasks ∧
        ∀ predicate query ids, compileFilter pushdowns.filters = .ok predicate →
          (source.scanPlan pushdowns predicate).question? = some query → reply query = .ok ids →
            heard query events ids) (source.getTasksIn pushdowns discover) := by
  refine addsWith_raising_bind fun count hcount => ?_
  cases count with
  | none => exact (adds_scanTasksIn h).imp fun _ _ htasks _ => htasks
  | some outputName =>
    have hno : ∀ x : Except PyException (List Task),
        AddsWith adds (fun events tasks => pushdowns.aggregation = none →
          ∃ reply, source.scanTasks pushdowns reply = .ok tasks ∧
            ∀ predicate query ids, compileFilter pushdowns.filters = .ok predicate →
              (source.scanPlan pushdowns predicate).question? = some query → reply query = .ok ids →
                heard query events ids) (raising x) := fun x =>
      addsWith_raising fun tasks _ haggregation => by
        rw [countPushdown_eq_none haggregation] at hcount
        cases hcount
    by_cases hlimit : pushdowns.limit ≠ none
    · simp only [if_pos hlimit]
      exact hno _
    · simp only [if_neg hlimit]
      exact hno _

theorem getTasksIn_eq_scanTasksIn (h : pushdowns.aggregation = none) :
    (source.getTasksIn pushdowns discover).run.run log =
      (source.scanTasksIn pushdowns discover).run.run log := by
  rw [getTasksIn, countPushdown_eq_none h]
  rfl

theorem scanTasksIn_of_ok {ids : List Int}
    (htasks : source.scanTasks pushdowns (fun _ => .ok ids) = .ok tasks)
    (hanswer : ∀ predicate query, compileFilter pushdowns.filters = .ok predicate →
      (source.scanPlan pushdowns predicate).question? = some query →
      ((discover query).run.run log).1 = .ok ids) :
    ((source.scanTasksIn pushdowns discover).run.run log).1 = .ok tasks := by
  obtain ⟨columns, hcolumns, h⟩ := bind_eq_ok.mp htasks
  refine raising_bind_eq_ok.mpr ⟨columns, hcolumns, ?_⟩
  obtain rfl : columns = source.columns pushdowns := requiredScanColumns_eq_ok hcolumns
  by_cases hnil : source.columns pushdowns = []
  · rw [if_pos hnil] at h
    cases h
  rw [if_neg hnil] at h ⊢
  obtain ⟨schema, hschema, h⟩ := bind_eq_ok.mp h
  obtain ⟨predicate, hpredicate, h⟩ := bind_eq_ok.mp h
  obtain ⟨plan, hplan, h⟩ := bind_eq_ok.mp h
  have hperform := Planning.perform_of_ok hplan fun query hquery =>
    hanswer predicate query hpredicate hquery
  exact raising_bind_eq_ok.mpr ⟨schema, hschema, raising_bind_eq_ok.mpr ⟨predicate, hpredicate,
    bind_raising_eq_ok.mpr ⟨plan, hperform, h⟩⟩⟩

theorem preserves_getTasksIn {P : List (Turn (@SessionCall.Reply V) Raised) → Prop}
    {discover : Text × List PyValue → Failing (Turn (@SessionCall.Reply V) Raised) Raised (List Int)}
    (h : ∀ predicate query, compileFilter pushdowns.filters = .ok predicate →
      (source.scanPlan pushdowns predicate).question? = some query → Preserves P (discover query)) :
    Preserves P (source.getTasksIn pushdowns discover) := by
  refine (preserves_raising _).bind fun count => ?_
  cases count with
  | some outputName =>
    by_cases hlimit : pushdowns.limit ≠ none
    · simp only [if_pos hlimit]
      exact preserves_raising _
    · simp only [if_neg hlimit]
      exact preserves_raising _
  | none =>
    refine preserves_raising_bind fun columns hcolumns => ?_
    obtain rfl : columns = source.columns pushdowns := requiredScanColumns_eq_ok hcolumns
    by_cases hnil : source.columns pushdowns = []
    · rw [if_pos hnil]
      exact preserves_raising _
    · rw [if_neg hnil]
      exact (preserves_raising _).bind fun schema =>
        preserves_raising_bind fun predicate hpredicate =>
          (Planning.preserves_perform fun query => h predicate query hpredicate).bind
            fun plan => preserves_raising _

/-- An answer that made a plan is an outcome that a split relies on, if ids are. -/
theorem outcome_of_scanPlan {reads : Text → Row Cell → Bool} {rows : Multiset (Row Cell)}
    {planned : Option SentParts} {reply : Text × List PyValue → Except PyException (List Int)}
    {plan : TabletPlan} (hplan : (source.scanPlan pushdowns predicate).run reply = .ok plan)
    (hok : ∀ query ids, (source.scanPlan pushdowns predicate).question? = some query →
      reply query = .ok ids → Outcome source reads rows planned (.ok ids))
    {query : Text × List PyValue}
    (hquery : (source.scanPlan pushdowns predicate).question? = some query) :
    Outcome source reads rows planned (reply query) := by
  cases hreply : reply query with
  | ok ids => exact hok query ids hquery hreply
  | error e =>
    unfold scanPlan tabletPlan at hplan hquery
    split at hquery
    · cases hquery
    · next hask =>
      rw [if_neg hask] at hplan
      split at hquery
      · cases hquery
      · next query' hbuilt =>
        obtain rfl : query' = query := Option.some.inj hquery
        simp only [hbuilt, Planning.run, hreply] at hplan
        split at hplan
        · next hforgiven =>
          have hpolicy : source.discoveryPolicy = .single := by
            cases hp : source.discoveryPolicy with
            | single => rfl
            | error => exact absurd hp hforgiven.2
          cases e with
          | daftOlap kind message =>
            obtain rfl : kind = .discovery := Option.some.inj hforgiven.1
            exact .failed message hpolicy
          | valueError | keyError | http | json => cases hforgiven.1
        · cases hplan

end DataSource

/-! ## What a planner answers -/

/-- PyMySQL's `mogrify` formats a statement with its literals, where it returns at all. -/
def Mogrifies (u : UnicodeData) (literal : PyValue → Text) (partner : SessionDriver V) : Prop :=
  ∀ log cursor sql parameters rendered t,
    partner log (.mogrify cursor sql parameters) = .ok rendered → rendered.read = .ok t →
    (percentFormat u sql (parameters.map literal)).toOption = some t

/-- The planner answers a request in which it reads these parts, about the table, by tablets that
hold every row of the WHERE clause. -/
def Truthful (u : UnicodeData) (loads : Text → Except JsonFailure Json)
    (partner : SessionDriver V) (table : QualifiedTable) (reads : Text → Row Cell → Bool)
    (rows : Multiset (Row Cell)) (parts : SentParts) : Prop :=
  ∀ log request timeout question exchange ids,
    partner log (.exchange request timeout) = .ok exchange →
    readRequest request = some question → question.database = table.database →
    question.table = table.table → question.sql = joinPairs (parts.text none none) →
    exchange.Plans u loads ids →
    ∀ row ∈ rows, reads parts.condition row = true → row.tablet ∈ ids

namespace DataSource

/-- The planner is truthful about the planning SQL of a scan, as it arrives. -/
def PlansTruthfully (source : DataSource) (pushdowns : Pushdowns) (u : UnicodeData)
    (literal : PyValue → Text) (loads : Text → Except JsonFailure Json) (partner : SessionDriver V)
    (reads : Text → Row Cell → Bool) (rows : Multiset (Row Cell)) : Prop :=
  ∀ predicate parts, compileFilter pushdowns.filters = .ok predicate →
    source.parts u literal .mysql pushdowns predicate = some parts →
    Truthful u loads partner source.table reads rows parts

variable {source : DataSource} {pushdowns : Pushdowns} {predicate : Option Predicate}
  {literal : PyValue → Text} {reads : Text → Row Cell → Bool} {rows : Multiset (Row Cell)}

/-- The text that is planned is what is sent for the planning query. -/
theorem sent_of_materialized {u : UnicodeData} {partner : SessionDriver V}
    {query : Text × List PyValue} {turns : List (Turn (@SessionCall.Reply V) Raised)} {sql : Text}
    (hmogrifies : Mogrifies u literal partner)
    (h : Materialized partner query.1 query.2 turns sql) : sent u literal query = some sql := by
  unfold sent
  cases h with
  | plain hnone => rw [if_pos hnone]
  | rendered hsome hrendered hread =>
    obtain ⟨cursor, -, log, hanswer⟩ := hrendered
    rw [if_neg hsome]
    exact hmogrifies log cursor _ _ _ _ hanswer hread

/-- Tablets that were discovered are an outcome that a split relies on. -/
theorem outcome_of_discovered {u : CaseData} {loads : Text → Except JsonFailure Json}
    {partner : SessionDriver V} {connection : DorisConnection V}
    {query : Text × List PyValue} {turns : List (Turn (@SessionCall.Reply V) Raised)}
    {ids : List Int} (hhost : hasEscape connection.host = false)
    (hmogrifies : Mogrifies u.toUnicodeData literal partner)
    (htruthful : source.PlansTruthfully pushdowns u.toUnicodeData literal loads partner reads rows)
    (hpredicate : compileFilter pushdowns.filters = .ok predicate)
    (hquery : buildSelect (source.planningArguments (source.columns pushdowns) predicate) = .ok query)
    (h : Discovered u loads partner connection source.table query turns ids) :
    Outcome source reads rows (source.parts u.toUnicodeData literal .mysql pushdowns predicate)
      (.ok ids) := by
  obtain ⟨sql, exchange, hsql, hexchange, hids⟩ := h
  obtain ⟨partitions, -, htablets⟩ := id hids
  have hsent := (sent_planning hquery).symm.trans (sent_of_materialized hmogrifies hsql)
  obtain ⟨parts, hparts, rfl⟩ := Option.map_eq_some_iff.mp hsent
  obtain ⟨password, request, timeout, -, hrequest, -, log, hanswer⟩ := hexchange
  obtain ⟨question, hquestion, hdatabase, htable, hread⟩ := exists_readRequest hrequest hhost
  exact .tablets hparts (htablets.increasing.imp fun hlt => ne_of_lt hlt) htablets.positive
    (htruthful predicate parts hpredicate hparts log request timeout question exchange ids hanswer
      hquestion hdatabase htable hread hids)

variable [Fintype V] [DecidableEq V]

section Planned

variable {u : CaseData} {loads : Text → Except JsonFailure Json} {g : ObjectGraph V}
  {pickle : g.Pickle} {partner : SessionDriver V} {connection : DorisConnection V} {timeouts : Timeouts}
  {planningTimeoutSeconds : PyValue}
  {cancelled : List (Turn (@SessionCall.Reply V) Raised) → Option Cancelled}
  {log : List (Turn (@SessionCall.Reply V) Raised)}

/-- An outcome holds what rows there are. -/
theorem Outcome.no_rows {planned : Option SentParts} {result : Except PyException (List Int)}
    (h : Outcome source reads rows planned result) : Outcome source reads 0 planned result := by
  cases h with
  | tablets hplanned hnodup hpositive _ =>
    exact .tablets hplanned hnodup hpositive fun row hrow => absurd hrow (Multiset.notMem_zero row)
  | failed message hpolicy => exact .failed message hpolicy

/-- How the tasks of a scan come from what was discovered in its turns: they are no more than the
limits allow, and split the scan if planning reads the condition of the tasks. -/
structure Planned (u : CaseData) (literal : PyValue → Text)
    (loads : Text → Except JsonFailure Json) (partner : SessionDriver V)
    (connection : DorisConnection V) (source : DataSource) (pushdowns : Pushdowns)
    (reads : Text → Row Cell → Bool) (rows : Multiset (Row Cell))
    (turns : List (Turn (@SessionCall.Reply V) Raised)) (tasks : List Task)
    (predicate : Option Predicate) (reply : Text × List PyValue → Except PyException (List Int)) :
    Prop where
  compiled : compileFilter pushdowns.filters = .ok predicate
  discovered : ∀ query ids, (source.scanPlan pushdowns predicate).question? = some query →
    reply query = .ok ids → Discovered u loads partner connection source.table query turns ids
  length : 1 ≤ tasks.length ∧ tasks.length ≤ min source.limits.targetTasks source.limits.maxTasks
  splits : PlansAlike u.toUnicodeData source pushdowns predicate →
    SameLiterals source pushdowns predicate literal reads rows →
    SplitScan u.toUnicodeData literal source pushdowns predicate reply reads rows tasks

omit [Fintype V] [DecidableEq V] in
theorem planned_of_scanTasks {turns : List (Turn (@SessionCall.Reply V) Raised)}
    {reply : Text × List PyValue → Except PyException (List Int)} {tasks : List Task}
    (haggregation : pushdowns.aggregation = none) (hhost : hasEscape connection.host = false)
    (hmogrifies : Mogrifies u.toUnicodeData literal partner)
    (htruthful : source.PlansTruthfully pushdowns u.toUnicodeData literal loads partner reads rows)
    (htasks : source.scanTasks pushdowns reply = .ok tasks)
    (hdiscovered : ∀ predicate query ids, compileFilter pushdowns.filters = .ok predicate →
      (source.scanPlan pushdowns predicate).question? = some query → reply query = .ok ids →
        Discovered u loads partner connection source.table query turns ids) :
    ∃ predicate, Planned u literal loads partner connection source pushdowns reads rows turns tasks
      predicate reply := by
  obtain ⟨predicate, plan, hpredicate, hplan, hmade⟩ := scanTasks_eq_ok htasks
  have houtcome : ∀ query, (source.scanPlan pushdowns predicate).question? = some query →
      Outcome source reads rows (source.parts u.toUnicodeData literal .mysql pushdowns predicate)
        (reply query) :=
    fun query hquery => outcome_of_scanPlan hplan (fun query ids hquery hids =>
      outcome_of_discovered hhost hmogrifies htruthful hpredicate (question?_eq_some hquery)
        (hdiscovered predicate query ids hpredicate hquery hids)) hquery
  -- of no rows, whatever planning reads
  have hlength : SplitScan u.toUnicodeData literal source pushdowns predicate reply reads 0 tasks :=
    splitScan_of_scanTasks (fun _ _ _ _ _ row hrow => absurd hrow (Multiset.notMem_zero row))
      (fun query hquery => (houtcome query hquery).no_rows) hplan hmade
  rw [← getTasks_eq_scanTasks haggregation] at htasks
  exact ⟨predicate, hpredicate, fun query ids => hdiscovered predicate query ids hpredicate,
    ⟨hlength.length_pos, hlength.length_le⟩, fun halike hliterals =>
      splits_of_plansAlike haggregation hpredicate halike hliterals houtcome htasks⟩

/-- What a planning with tablet discovery as an effect comes to. -/
theorem planned_getTasksIn (haggregation : pushdowns.aggregation = none)
    (hhost : hasEscape connection.host = false)
    (hmogrifies : Mogrifies u.toUnicodeData literal partner)
    (htruthful : source.PlansTruthfully pushdowns u.toUnicodeData literal loads partner reads rows) :
    AddsWith (fun turn => ∃ predicate query, compileFilter pushdowns.filters = .ok predicate ∧
        buildSelect (source.planningArguments (source.columns pushdowns) predicate) = .ok query ∧
        PlanningTurn g pickle partner connection source.table timeouts query turn)
      (fun turns tasks => ∃ predicate reply, Planned u literal loads partner connection source
        pushdowns reads rows turns tasks predicate reply)
      (source.getTasksIn pushdowns fun query => toThread cancelled (discoverTabletsIn u loads g
        pickle partner connection source.table timeouts planningTimeoutSeconds query)) := by
  refine (adds_getTasksIn fun predicate query hpredicate hquery => addsWith_toThread
    (adds_discoverTabletsIn.mono fun turn hturn =>
      ⟨predicate, query, hpredicate, question?_eq_some hquery, hturn⟩)).imp fun turns tasks h => ?_
  obtain ⟨reply, htasks, hdiscovered⟩ := h haggregation
  obtain ⟨predicate, hplanned⟩ :=
    planned_of_scanTasks haggregation hhost hmogrifies htruthful htasks hdiscovered
  exact ⟨predicate, reply, hplanned⟩

theorem planned_of_getTasksIn {tasks : List Task} (haggregation : pushdowns.aggregation = none)
    (hhost : hasEscape connection.host = false)
    (hmogrifies : Mogrifies u.toUnicodeData literal partner)
    (htruthful : source.PlansTruthfully pushdowns u.toUnicodeData literal loads partner reads rows)
    (htasks : ((source.getTasksIn pushdowns fun query => toThread cancelled (discoverTabletsIn u
      loads g pickle partner connection source.table timeouts planningTimeoutSeconds
      query)).run.run log).1 = .ok tasks) :
    ∃ turns predicate reply, Planned u literal loads partner connection source pushdowns reads rows
      turns tasks predicate reply := by
  obtain ⟨turns, -, -, hplans⟩ := @planned_getTasksIn _ _ source pushdowns literal reads rows _ _ u
    loads g pickle partner connection timeouts planningTimeoutSeconds cancelled haggregation hhost
    hmogrifies htruthful log
  exact ⟨turns, hplans tasks htasks⟩

theorem exists_getTasksIn (haggregation : pushdowns.aggregation = none)
    (hhost : hasEscape connection.host = false)
    (hmogrifies : Mogrifies u.toUnicodeData literal partner)
    (htruthful : source.PlansTruthfully pushdowns u.toUnicodeData literal loads partner reads rows)
    (hknown : ∀ c ∈ pushdowns.requested source.names, c ∈ source.names)
    (hcolumns : source.columns pushdowns ≠ []) {ids : List Int}
    (hpredicate : compileFilter pushdowns.filters = .ok predicate)
    (hids : ∀ query, (source.scanPlan pushdowns predicate).question? = some query →
      ((toThread cancelled (discoverTabletsIn u loads g pickle partner connection source.table
        timeouts planningTimeoutSeconds query)).run.run log).1 = .ok ids)
    (hshort : ∀ id ∈ ids, id.natAbs < 10 ^ maxStrDigits)
    (hunsplit : ∃ r, buildSelect (source.unsplit pushdowns predicate) = .ok r) :
    ∃ tasks, source.scanTasks pushdowns (fun _ => .ok ids) = .ok tasks ∧
      ((source.getTasksIn pushdowns fun query => toThread cancelled (discoverTabletsIn u
        loads g pickle partner connection source.table timeouts planningTimeoutSeconds
        query)).run.run log).1 = .ok tasks := by
  obtain ⟨r, hr⟩ := hunsplit
  have houtcome : ∀ query, (source.scanPlan pushdowns predicate).question? = some query →
      Outcome source reads rows (source.parts u.toUnicodeData literal .mysql pushdowns predicate)
        ((fun _ => .ok ids) query) := by
    intro query hquery
    obtain ⟨turns, -, -, hdiscovered⟩ := @adds_discoverTabletsIn _ _ _ u g pickle partner
      connection source.table timeouts loads query planningTimeoutSeconds log
    exact outcome_of_discovered hhost hmogrifies htruthful hpredicate (question?_eq_some hquery)
      (hdiscovered ids (run_of_toThread (hids query hquery)))
  obtain ⟨tasks, htasks⟩ : ∃ tasks, source.scanTasks pushdowns (fun _ => .ok ids) = .ok tasks := by
    refine exists_scanTasks hknown hcolumns hpredicate houtcome hr (fun plan _ => ?_)
      fun query ids' _ hids' => ?_
    · unfold taskLimit
      split
      · exact Or.inr rfl
      · exact Or.inl rfl
    · rw [← Except.ok.inj hids']
      exact hshort
  rw [getTasksIn_eq_scanTasksIn haggregation]
  refine ⟨tasks, htasks, scanTasksIn_of_ok htasks fun predicate' query hpredicate' hquery => ?_⟩
  obtain rfl := Except.ok.inj (hpredicate'.symm.trans hpredicate)
  exact hids query hquery

end Planned

/-- Planning with PyMySQL and a planner that is truthful about the request it reads.  Whatever was
asked before, and wherever the thread is cancelled, the connection and the cursor of the binding are
closed; nothing is asked but the binding of the planning query and requests for its text; and the
tasks, if there are any, are no more than the limits allow, and split the scan, by the tablets that
were answered, if planning reads the condition of the tasks.  There are tasks if discovery returns
ids that are not too long and the unsplit query builds. -/
theorem getTasksIn_covers (u : CaseData) (literal : PyValue → Text)
    (loads : Text → Except JsonFailure Json) (g : ObjectGraph V) (pickle : g.Pickle)
    (partner : SessionDriver V) (connection : DorisConnection V) (timeouts : Timeouts)
    (planningTimeoutSeconds : PyValue)
    (cancelled : List (Turn (@SessionCall.Reply V) Raised) → Option Cancelled) (source : DataSource)
    (pushdowns : Pushdowns) (reads : Text → Row Cell → Bool) (rows : Multiset (Row Cell))
    (haggregation : pushdowns.aggregation = none) (hhost : hasEscape connection.host = false)
    (hmogrifies : Mogrifies u.toUnicodeData literal partner)
    (htruthful : source.PlansTruthfully pushdowns u.toUnicodeData literal loads partner reads rows)
    (log : List (Turn (@SessionCall.Reply V) Raised)) :
    let discover := fun query => toThread cancelled (discoverTabletsIn u loads g pickle partner
      connection source.table timeouts planningTimeoutSeconds query)
    let run := (source.getTasksIn pushdowns discover).run.run log
    (Tidy (handles V) Raised.isOrdinary log → Tidy (handles V) Raised.isOrdinary run.2) ∧
    (∃ turns, run.2 = log ++ turns ∧
      (∀ turn ∈ turns, ∃ predicate query, compileFilter pushdowns.filters = .ok predicate ∧
        buildSelect (source.planningArguments (source.columns pushdowns) predicate) = .ok query ∧
        PlanningTurn g pickle partner connection source.table timeouts query turn) ∧
      ∀ tasks, run.1 = .ok tasks → ∃ predicate reply, Planned u literal loads partner connection
        source pushdowns reads rows turns tasks predicate reply) ∧
    ((∀ c ∈ pushdowns.requested source.names, c ∈ source.names) → source.columns pushdowns ≠ [] →
      ∀ predicate ids, compileFilter pushdowns.filters = .ok predicate →
      (∀ query, (source.scanPlan pushdowns predicate).question? = some query →
        ((discover query).run.run log).1 = .ok ids) →
      (∀ id ∈ ids, id.natAbs < 10 ^ maxStrDigits) →
      (∃ r, buildSelect (source.unsplit pushdowns predicate) = .ok r) →
      ∃ tasks, run.1 = .ok tasks) :=
  ⟨preserves_getTasksIn (fun _ _ _ _ => preserves_toThread tidy_discoverTabletsIn) log,
    planned_getTasksIn haggregation hhost hmogrifies htruthful log,
    fun hknown hcolumns _ _ hpredicate hids hshort hunsplit => (exists_getTasksIn haggregation hhost
      hmogrifies htruthful hknown hcolumns hpredicate hids hshort hunsplit).imp fun _ => And.right⟩

/-- The body of an answer with two tablets. -/
def plannedText : List Char :=
  ("\x7b\"code\": 0, \"data\": \x7b\"status\": 200, \"partitions\": " ++
    "\x7b\"3\": \x7b\x7d, \"9\": \x7b\x7d\x7d\x7d\x7d" : String).toList

/-- What `json.loads` makes of it. -/
def plannedPayload : Json :=
  .object [(str "code", .int 0 (Nat.pow_pos (by decide))), (str "data", .object
    [(str "status", .int 200 (lt_of_lt_of_le (by decide : 200 < 10 ^ 3)
        (Nat.pow_le_pow_right (by decide) (by decide)))),
      (str "partitions", .object [(str "3", .object []), (str "9", .object [])])])]

def plannedLoads (t : Text) : Except JsonFailure Json :=
  if t = plannedText.map PyChar.scalar then .ok plannedPayload else .error .jsonDecodeError

def plannedExchange : Exchange := .ok ⟨200, .ok (plannedText.flatMap String.utf8EncodeChar)⟩

/-- Formatting, with the literals of Flight. -/
def plannedMogrify (sql : Text) (parameters : List PyValue) : Except Raised Rendered :=
  match percentFormat CaseData.superscriptTwo.toUnicodeData sql (parameters.map flightText) with
  | .ok t => .ok (.text t)
  | .error _ => .error (.driver {})

/-- A planner that answers so, behind a driver that formats. -/
def plannedDriver : SessionDriver (Fin 2) := fun _ call =>
  match call with
  | .importDriver => .ok true
  | .environ _ => .ok none
  | .connect _ => .ok ()
  | .cursor _ => .ok ()
  | .execute _ _ => .ok ()
  | .fetchMany _ _ => .ok []
  | .mogrify _ sql parameters => plannedMogrify sql parameters
  | .convert _ => .ok ()
  | .exchange _ _ => .ok plannedExchange
  | .close _ => .ok ()

theorem discoverTablets_planned :
    discoverTablets CaseData.superscriptTwo.toUnicodeData plannedLoads plannedExchange =
      .ok [3, 9] := by
  have hencoded : Text.encodeUtf8? (plannedText.map PyChar.scalar) =
      some (plannedText.flatMap String.utf8EncodeChar) := by
    rw [Text.encodeUtf8?, scalars?_map_scalar]
    rfl
  have htext : plannedExchange.text? = some (plannedText.map PyChar.scalar) := by
    have hshort : (plannedText.flatMap String.utf8EncodeChar).length ≤ maxQueryPlanResponseBytes := by
      decide
    rw [plannedExchange, Exchange.text?, if_pos rfl]
    simp only [if_pos hshort]
    exact Text.decodeUtf8?_of_encodeUtf8? hencoded
  have hsorted : sortInts [3, 9] = [3, 9] := List.mergeSort_of_pairwise (by decide)
  rw [discoverTablets_of_text _ _ htext, parseText, plannedLoads, if_pos rfl]
  have hids : [(str "3", Json.object []), (str "9", .object [])].mapM
      (fun entry => readTabletId CaseData.superscriptTwo.toUnicodeData entry.1) = .ok [3, 9] := rfl
  show readTabletIds _ _ = _
  rw [readTabletIds, hids, ok_bind, if_neg (by decide), hsorted]
  rfl

theorem discoverTabletsIn_planned {query : Text × List PyValue} (h : query.2 = []) :
    ((discoverTabletsIn .superscriptTwo plannedLoads exampleGraph examplePickle plannedDriver
      exampleConnection exampleTable exampleTimeouts (.int 10) query).run.run []).1 =
        .ok [3, 9] := by
  refine raising_bind_eq_ok.mpr ⟨⟨.int 10, by decide⟩, rfl, ?_⟩
  rw [materializePlanSql, if_pos h, pure_bind]
  exact bind_raising_eq_ok.mpr ⟨plannedExchange, rfl, discoverTablets_planned⟩

def plannedList : List (Row PyValue) := [⟨fun _ => .int 1, 3⟩, ⟨fun _ => .int 2, 9⟩]

/-- Rows of the two tablets. -/
def plannedRows : Multiset (Row PyValue) := plannedList

theorem mogrifies_planned :
    Mogrifies CaseData.superscriptTwo.toUnicodeData flightText plannedDriver := by
  intro log cursor sql parameters rendered t hanswer hread
  have hanswer : plannedMogrify sql parameters = .ok rendered := hanswer
  unfold plannedMogrify at hanswer
  split at hanswer
  · next text hformat =>
    rw [← Except.ok.inj hanswer, Rendered.read] at hread
    rw [hformat, ← Except.ok.inj hread]
    rfl
  · cases hanswer

theorem plansTruthfully_planned (pushdowns : Pushdowns) (reads : Text → Row PyValue → Bool) :
    distributed.PlansTruthfully pushdowns CaseData.superscriptTwo.toUnicodeData flightText
      plannedLoads plannedDriver reads plannedRows := by
  intro predicate parts _ _ log request timeout question exchange ids hanswer _ _ _ _ hids row hrow _
  obtain rfl : plannedExchange = exchange := Except.ok.inj hanswer
  obtain rfl := Except.ok.inj
    (discoverTablets_planned.symm.trans (discoverTablets_eq_ok_iff.mpr hids))
  simp only [plannedRows, plannedList, Multiset.mem_coe, List.mem_cons, List.not_mem_nil,
    or_false] at hrow
  rcases hrow with rfl | rfl <;> decide

theorem short_planned : ∀ id ∈ [(3 : Int), 9], id.natAbs < 10 ^ maxStrDigits := by
  have hten : 10 ≤ 10 ^ maxStrDigits := Nat.le_self_pow (by decide) 10
  intro id hid
  rw [List.mem_cons, List.mem_singleton] at hid
  rcases hid with rfl | rfl <;> omega

/-- A scan that Daft pushed no filter into binds nothing. -/
theorem plansAlike_distributed (pushdowns : Pushdowns) :
    PlansAlike CaseData.superscriptTwo.toUnicodeData distributed pushdowns none :=
  .unbound ⟨rfl, fun _ hnone => nomatch hnone⟩

/-- Two tablets make tasks that split the rows of the table. -/
theorem getTasksIn_covers_tablets :
    let discover := fun query => toThread (fun _ => none) (discoverTabletsIn .superscriptTwo
      plannedLoads exampleGraph examplePickle plannedDriver exampleConnection exampleTable
      exampleTimeouts (.int 10) query)
    ∃ tasks reply, ((distributed.getTasksIn fiveRows discover).run.run []).1 = .ok tasks ∧
      SplitScan CaseData.superscriptTwo.toUnicodeData flightText distributed fiveRows none reply
        readsAll plannedRows tasks := by
  obtain ⟨-, ⟨turns, -, -, hsplits⟩, hbuilds⟩ := getTasksIn_covers .superscriptTwo flightText plannedLoads
    exampleGraph examplePickle plannedDriver exampleConnection exampleTimeouts (.int 10)
    (fun _ => none) distributed fiveRows readsAll plannedRows rfl (by decide) mogrifies_planned
    (plansTruthfully_planned _ _) []
  obtain ⟨tasks, htasks⟩ := hbuilds (by decide) (by decide) none [3, 9] rfl (fun query hquery => by
    have hbuilt := question?_eq_some hquery
    exact discoverTabletsIn_planned (congrArg Prod.snd (Except.ok.inj hbuilt)).symm)
    short_planned ⟨_, rfl⟩
  obtain ⟨predicate, reply, hplanned⟩ := hsplits tasks htasks
  obtain rfl : none = predicate := Except.ok.inj hplanned.compiled
  exact ⟨tasks, reply, htasks, hplanned.splits (plansAlike_distributed _) fun _ _ => rfl⟩

end DataSource

end Doris
end DaftOlap
