/-
Delivery of Doris scans (`doris/task.py`).

A task reads over the transport of its source and no other.  If that driver carries what the
database answers to the text that the task sends, the tasks of a scan deliver together the rows of
its WHERE clause, whichever the transport.
-/
import DaftOlap.Compat.LimitPushdown
import DaftOlap.Doris.Flight
import DaftOlap.Doris.MySql
import DaftOlap.Doris.Planning
import DaftOlap.Scan.Delivery

namespace DaftOlap
namespace Doris

open Logic Python

variable {Cell V : Type}

/-! ## One task -/

/-- What the drivers of both transports and the consumer would do. -/
structure ReadRun (V : Type) where
  mysql : MySqlRun
  flight : Flight.FlightRun (List V)

structure ReadStream (V : Type) where
  yielded : List (RecordBatch (List V))
  leaves : Option Raised

/-- The columns of a task. -/
def Task.fields (t : Task) : List (MySqlField Text) :=
  t.spec.arrowSchema.map fun field => ⟨field.name, field.type⟩

/-- `DorisTask.read`. -/
def Task.read (u : CaseData) (arrow : Arrow Text V) (limits : ResourceLimits) (t : Task)
    (run : ReadRun V) : ReadStream V :=
  match t.arguments.style with
  | .mysql =>
    let stream := streamQuery arrow limits run.mysql t.fields
    ⟨stream.yielded, streamQueryLeaves u run.mysql stream⟩
  | .flight =>
    let stream := Flight.streamQuery limits t.spec run.flight
    ⟨stream.yielded, Flight.streamQueryLeaves u run.flight stream⟩

/-- The values in what the drivers return, which every conversion that succeeds keeps. -/
structure Values (arrow : Arrow Text V) where
  mysql : List (MySqlField Text) → List PyValue → List V
  flight : ClickHouse.DriverItem (List V) → List (List V)
  fits : ∀ schema row values, Fits arrow schema row values → values = mysql schema row
  casts : ∀ names item batch, ClickHouse.CastsTo names item batch → batch.rows = flight item

/-- The rows that the database returns for a task whose SELECT arrives in these parts, as the
SELECT list makes values of them. -/
def Task.result (reads : Text → Row Cell → Bool) (encode : Text → Row Cell → List V)
    (rows : Multiset (Row Cell)) (parts : SentParts) (t : Task) : Multiset (List V) :=
  (rows.filter fun row => reads parts.condition row &&
    t.tabletIds.all fun ids => decide (row.tablet ∈ ids)).map (encode parts.head)

/-- If what a task sends is a SELECT of these parts for its tablets and with its limit, its driver
carries an answer to it, or the beginning of one if the driver fails. -/
def Answered {arrow : Arrow Text V} (values : Values arrow) (u : UnicodeData)
    (literal : PyValue → Text) (reads : Text → Row Cell → Bool)
    (encode : Text → Row Cell → List V) (rows : Multiset (Row Cell)) (parts : SentParts) (t : Task)
    (run : ReadRun V) : Prop :=
  sent u literal t.query = some (parts.text t.tabletIds t.limit) →
  match t.arguments.style with
  | .mysql => Scan.Keeps t.limit (t.result reads encode rows parts)
      ↑(run.mysql.rows.map (values.mysql t.fields))
  | .flight => ∃ later, (run.flight.stopped = none → later = []) ∧
      Scan.Keeps t.limit (t.result reads encode rows parts)
        ↑((run.flight.items ++ later).flatMap values.flight)

section Read

variable {arrow : Arrow Text V} {values : Values arrow} {limits : ResourceLimits}

theorem eq_map_of_fits {schema : List (MySqlField Text)} {rows : List (List PyValue)}
    {delivered : List (List V)} (h : List.Forall₂ (Fits arrow schema) rows delivered) :
    delivered = rows.map (values.mysql schema) := by
  induction h with
  | nil => rfl
  | cons hfits _ ih => rw [List.map_cons, ← values.fits _ _ _ hfits, ih]

theorem rowsOf_casts {names : List Text} {items : List (ClickHouse.DriverItem (List V))}
    {batches : List (RecordBatch (List V))}
    (h : List.Forall₂ (ClickHouse.CastsTo names) items batches) :
    rowsOf batches = items.flatMap values.flight := by
  induction h with
  | nil => rfl
  | cons hcast _ ih =>
    rw [rowsOf, List.flatMap_cons, List.flatMap_cons, values.casts _ _ _ hcast, ← ih]
    rfl

theorem mysql_first (run : MySqlRun) (schema : List (MySqlField Text)) :
    rowsOf (streamQuery arrow limits run schema).yielded <+: run.rows.map (values.mysql schema) := by
  unfold streamQuery
  split
  · exact List.nil_prefix
  · next names hopened =>
    obtain ⟨n, hfits⟩ := @pullBatches_take _ _ arrow schema limits run names
      (run.names_ne_nil names hopened) limits.batchRows 0 0 run.rows
    have hrows : _ = (run.rows.take n).map (values.mysql schema) := eq_map_of_fits hfits
    rw [rowsOf, hrows, List.map_take]
    exact List.take_prefix _ _

theorem mysql_complete {run : MySqlRun} {schema : List (MySqlField Text)}
    (h : (streamQuery arrow limits run schema).failure = none) :
    rowsOf (streamQuery arrow limits run schema).yielded = run.rows.map (values.mysql schema) := by
  unfold streamQuery at h ⊢
  split at h
  · cases h
  · next names hopened =>
    exact eq_map_of_fits
      (pullBatches_complete (run.names_ne_nil names hopened) limits.batchRows_valid.1 h).1

theorem flight_first (run : Flight.FlightRun (List V)) (spec : QuerySpec)
    (later : List (ClickHouse.DriverItem (List V))) :
    rowsOf (Flight.streamQuery limits spec run).yielded <+:
      (run.items ++ later).flatMap values.flight := by
  cases hstart : Flight.startFailure spec run with
  | some e =>
    unfold Flight.streamQuery
    rw [hstart]
    exact List.nil_prefix
  | none =>
    obtain ⟨n, batches, hcasts, hfirst⟩ := (Flight.streamQuery_started hstart).first
    have hrows : _ = (run.items.take n).flatMap values.flight :=
      rowsOf_casts (Flight.casts_iff.mp hcasts)
    rw [hrows] at hfirst
    rw [List.flatMap_append]
    exact (hfirst.trans ((List.take_prefix n run.items).flatMap _)).trans (List.prefix_append _ _)

theorem flight_complete {run : Flight.FlightRun (List V)} {spec : QuerySpec}
    (h : (Flight.streamQuery limits spec run).failure = none) :
    run.stopped = none ∧
      rowsOf (Flight.streamQuery limits spec run).yielded = run.items.flatMap values.flight := by
  cases hstart : Flight.startFailure spec run with
  | some e =>
    unfold Flight.streamQuery at h
    rw [hstart] at h
    cases h
  | none =>
    obtain ⟨hstopped, ⟨batches, hcasts, hrows⟩, -⟩ := (Flight.streamQuery_started hstart).complete h
    exact ⟨hstopped, hrows.trans (rowsOf_casts (Flight.casts_iff.mp hcasts))⟩

variable {u : CaseData} {literal : PyValue → Text} {reads : Text → Row Cell → Bool}
  {encode : Text → Row Cell → List V} {rows : Multiset (Row Cell)} {parts : SentParts} {t : Task}
  {run : ReadRun V}

/-- What a task delivers of the answer. -/
theorem answers_read
    (hsent : sent u.toUnicodeData literal t.query = some (parts.text t.tabletIds t.limit))
    (h : Answered values u.toUnicodeData literal reads encode rows parts t run) :
    ∃ answer, Scan.Answers t.limit (t.result reads encode rows parts) answer
      ((t.read u arrow limits run).leaves ≠ none)
      ↑(rowsOf (t.read u arrow limits run).yielded) := by
  have h := h hsent
  unfold Task.read
  cases hstyle : t.arguments.style with
  | mysql =>
    rw [hstyle] at h
    refine ⟨_, h, ?_, fun hok => ?_⟩
    · exact (mysql_first run.mysql t.fields).sublist.subperm
    · have hfailure := (leaves_eq_none_iff.mp (not_not.mp hok)).1
      exact congrArg _ (mysql_complete hfailure)
  | flight =>
    rw [hstyle] at h
    obtain ⟨later, hlater, hkeeps⟩ := h
    refine ⟨_, hkeeps, ?_, fun hok => ?_⟩
    · exact (flight_first run.flight t.spec later).sublist.subperm
    · have hfailure := (leaves_eq_none_iff.mp (not_not.mp hok)).1
      have hcomplete : run.flight.stopped = none ∧
          rowsOf (Flight.streamQuery limits t.spec run.flight).yielded =
            run.flight.items.flatMap values.flight := flight_complete hfailure
      rw [hlater hcomplete.1, List.append_nil]
      exact congrArg _ hcomplete.2

end Read

/-! ## All tasks of a scan -/

namespace DataSource

variable {G : Type} [Fintype G] [DecidableEq G]

/-- If one task of a split scan does not have the pushed limit, no row meets the condition. -/
theorem SplitScan.nothing_of_limit {u : UnicodeData} {literal : PyValue → Text}
    {source : DataSource} {pushdowns : Pushdowns} {predicate : Option Predicate}
    {reply : Text × List PyValue → Except PyException (List Int)}
    {reads : Text → Row Cell → Bool} {rows : Multiset (Row Cell)} {tasks : List Task}
    (h : SplitScan u literal source pushdowns predicate reply reads rows tasks) {parts : SentParts}
    (hparts : source.parts u literal source.transport pushdowns predicate = some parts) {t : Task}
    (ht : t ∈ tasks) (hlimit : t.limit ≠ safeDatabaseLimit pushdowns predicate) :
    (rows.filter fun row => reads parts.condition row) = 0 := by
  obtain ⟨query, hquery, hempty⟩ := (h.limits t ht).resolve_left hlimit
  obtain ⟨t', rfl, hzero⟩ := h.empty query hquery hempty
  obtain rfl := List.mem_singleton.mp ht
  rw [← h.rows parts hparts, List.map_singleton, List.sum_singleton]
  refine Multiset.filter_eq_nil.mpr fun row _ => ?_
  have hpushed : safeDatabaseLimit pushdowns predicate ≠ some 0 := fun hpushed =>
    hlimit (hzero.trans hpushed.symm)
  simp [Task.returns, hzero, hpushed]

/-- What the tasks of a split scan deliver, each of them of an answer to what it sends. -/
theorem SplitScan.delivers {u : CaseData} {literal : PyValue → Text} {source : DataSource}
    {pushdowns : Pushdowns} {predicate : Option Predicate}
    {reply : Text × List PyValue → Except PyException (List Int)} {reads : Text → Row Cell → Bool}
    {encode : Text → Row Cell → List V} {rows : Multiset (Row Cell)} {arrow : Arrow Text V}
    {values : Values arrow} {readings : List (Task × ReadRun V)}
    (h : SplitScan u.toUnicodeData literal source pushdowns predicate reply reads rows
      (readings.map Prod.fst)) {parts : SentParts}
    (hparts : source.parts u.toUnicodeData literal source.transport pushdowns predicate = some parts)
    (hanswered : ∀ r ∈ readings,
      Answered values u.toUnicodeData literal reads encode rows parts r.1 r.2) :
    Scan.Delivers (safeDatabaseLimit pushdowns predicate)
      ((rows.filter fun row => reads parts.condition row).map (encode parts.head))
      (∃ r ∈ readings, (r.1.read u arrow source.limits r.2).leaves ≠ none)
      (readings.map fun r =>
        (rowsOf (r.1.read u arrow source.limits r.2).yielded : Multiset (List V))).sum := by
  have hanswers : ∀ r ∈ readings, ∃ answer, Scan.Answers r.1.limit
      (r.1.result reads encode rows parts) answer
      ((r.1.read u arrow source.limits r.2).leaves ≠ none)
      ↑(rowsOf (r.1.read u arrow source.limits r.2).yielded) := by
    intro r hr
    have hsent := h.sends r.1 (List.mem_map_of_mem hr)
    rw [hparts, Option.map_some] at hsent
    exact answers_read hsent (hanswered r hr)
  choose! answer hanswer using hanswers
  by_cases hlimits : ∀ r ∈ readings, r.1.limit = safeDatabaseLimit pushdowns predicate
  · have hrows := h.rows parts hparts
    rw [List.map_map] at hrows
    have hreturns : ∀ r ∈ readings, (rows.filter fun row => r.1.returns
        (safeDatabaseLimit pushdowns predicate) (reads parts.condition) row) =
        rows.filter fun row => reads parts.condition row &&
          r.1.tabletIds.all fun ids => decide (row.tablet ∈ ids) := fun r hr => by
      simp [Task.returns, hlimits r hr]
    rw [← hrows, show (readings.map ((fun t : Task => rows.filter fun row => t.returns
      (safeDatabaseLimit pushdowns predicate) (reads parts.condition) row) ∘ Prod.fst)) = _ from
      List.map_congr_left hreturns, ← Scan.sum_map_encode]
    exact Scan.delivers_sum fun r hr => by
      have hanswer := hanswer r hr
      rwa [hlimits r hr] at hanswer
  · obtain ⟨r, hr, hlimit⟩ : ∃ r ∈ readings, r.1.limit ≠ safeDatabaseLimit pushdowns predicate := by
      simpa using hlimits
    have hnothing := h.nothing_of_limit hparts (List.mem_map_of_mem hr) hlimit
    have hresult : ∀ r : Task × ReadRun V, r.1.result reads encode rows parts = 0 := by
      intro r
      rw [Task.result, Multiset.filter_eq_nil.mpr fun row hrow => by
        simp [Multiset.filter_eq_nil.mp hnothing row hrow]]
      rfl
    rw [hnothing, Multiset.map_zero]
    have hyielded : ∀ r ∈ readings,
        (rowsOf (r.1.read u arrow source.limits r.2).yielded : Multiset (List V)) = 0 := by
      intro r hr
      have hanswer := hanswer r hr
      rw [hresult r] at hanswer
      exact Multiset.le_zero.mp (hanswer.le.trans hanswer.keeps.1)
    rw [List.sum_eq_zero (List.forall_mem_map.mpr hyielded)]
    exact ⟨le_rfl, fun _ _ hresult => hresult⟩

/-- Daft pushes nothing down. -/
def unfiltered : Pushdowns where
  filter_columns := no_filter_columns

/-- A Flight driver that carries the answer to a task in one batch. -/
def answeringRun (t : Task) : ReadRun PyValue where
  mysql := {
    opened := .error (.control .cancelledError)
    names_ne_nil := fun _ h => nomatch h
    rows := []
    fetchFailure := fun _ => none
    thrown := fun _ => none
    closed := none }
  flight := {
    cancelled := none
    opened := none
    items := [.batch ⟨t.spec.arrowSchema.map ArrowField.name, true, .ok ⟨(plannedList.filter fun row =>
      t.tabletIds.all fun ids => decide (row.tablet ∈ ids)).map fun row => [row.cells (str "id")],
        fun _ length => length⟩, .ok 1, .ok []⟩]
    stopped := none
    thrown := fun _ => none
    closed := none }

end DataSource

end Doris
end DaftOlap
