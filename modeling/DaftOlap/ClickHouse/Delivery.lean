/-
Delivery of ClickHouse scans (`clickhouse/transport.py`, `clickhouse/task.py`).

The stream of a task yields the rows that its driver yields, in batches within the limits, until
something ends it.  If the drivers carry what the server answers to the queries of the tasks, the
tasks of a scan deliver together what the unsplit query selects.
-/
import DaftOlap.ClickHouse.Planning
import DaftOlap.ClickHouse.Stream
import DaftOlap.Common.ArrowStream
import DaftOlap.Compat.LimitPushdown
import DaftOlap.Scan.Delivery

namespace DaftOlap
namespace ClickHouse

open Logic Python

variable {Cell V : Type}

/-! ## One stream -/

/-- An item of the driver under the planned schema. -/
def castItem (schemaNames : List Text) : DriverItem V → Except Raised (RecordBatch V)
  | .batch batch => castBatch batch schemaNames
  | .other => .error (.daftOlap .transport "clickhouse-connect yielded a non-RecordBatch value")

theorem castItem_eq_ok_iff {schemaNames : List Text} {item : DriverItem V} {cast : RecordBatch V} :
    castItem schemaNames item = .ok cast ↔ CastsTo schemaNames item cast := by
  cases item with
  | batch batch =>
    rw [castItem, castBatch_eq_ok_iff]
    constructor
    · intro h
      exact ⟨batch, rfl, h⟩
    · intro h
      obtain ⟨b, hb, h⟩ := h
      obtain rfl := DriverItem.batch.inj hb
      exact h
  | other =>
    refine iff_of_false (fun h => by cases h) fun h => ?_
    obtain ⟨b, hb, -⟩ := h
    cases hb

theorem casts_iff {schemaNames : List Text} {items : List (DriverItem V)}
    {batches : List (RecordBatch V)} :
    Casts (castItem schemaNames) items batches ↔ List.Forall₂ (CastsTo schemaNames) items batches :=
  ⟨fun h => h.imp fun _ _ => castItem_eq_ok_iff.mp, fun h => h.imp fun _ _ => castItem_eq_ok_iff.mpr⟩

section Stream

variable {u : CaseData} {limits : ResourceLimits} {schemaNames : List Text} {run : StreamRun V}

theorem forward_eq (count : Nat) (items : List (DriverItem V)) :
    forward limits schemaNames run count items = forwardItems (castItem schemaNames) limits
      (fun n => (run.thrown n).map Subtype.val) (run.stopped.map Subtype.val) count items := by
  induction items generalizing count with
  | nil => rfl
  | cons item items ih =>
    cases item with
    | other => rfl
    | batch batch =>
      rw [forward, forwardItems, castItem]
      cases castBatch batch schemaNames with
      | error e => rfl
      | ok canonical =>
        simp only
        cases deliver (fun n => (run.thrown n).map Subtype.val) count
          ((iterBatchSlices canonical limits).map canonical.bounded) with
        | mk yielded failure =>
          cases failure with
          | some e => rfl
          | none =>
            simp only
            rw [ih]

theorem forwarded_forward : Forwarded (castItem schemaNames) limits
    (fun n => (run.thrown n).map Subtype.val) (run.stopped.map Subtype.val) run.items
    (forward limits schemaNames run 0 run.items).1 (loopFailure limits schemaNames run) := by
  rw [loopFailure, forward_eq]
  exact forwarded _ _ _ _ _

/-- All rows of the driver were yielded, and nothing was raised on the way. -/
structure Complete (schemaNames : List Text) (run : StreamRun V)
    (yielded : List (RecordBatch V)) : Prop where
  entered : Entered run
  stopped : run.stopped = none
  exit : ∀ e, run.exit ≠ .raised e
  closed : run.closed = none
  thrown : ∀ n < yielded.length, run.thrown n = none
  rows : ∃ batches, List.Forall₂ (CastsTo schemaNames) run.items batches ∧
    rowsOf yielded = rowsOf batches

/-- What holds of a run of `stream_query`. -/
structure Forwards (u : CaseData) (limits : ResourceLimits) (schemaNames : List Text)
    (run : StreamRun V) : Prop where
  bounded : ∀ batch ∈ (streamQuery limits schemaNames run).yielded,
    1 ≤ batch.numRows ∧ batch.numRows ≤ limits.batchRows ∧
      (batch.nbytes ≤ limits.batchBytes ∨ batch.numRows = 1)
  /-- However the run ends, its rows are the first rows of the driver. -/
  first : ∃ n batches, List.Forall₂ (CastsTo schemaNames) (run.items.take n) batches ∧
    rowsOf (streamQuery limits schemaNames run).yielded <+: rowsOf batches
  /-- A stream ends normally only with all rows, unless the exit of the driver's context hides
  what failed. -/
  complete : streamQueryLeaves u limits schemaNames run = none → run.exit ≠ .returned true →
    Complete schemaNames run (streamQuery limits schemaNames run).yielded
  /-- An exit that hides what failed makes any stream end normally. -/
  hidden : Entered run → run.exit = .returned true → run.closed = none →
    streamQueryLeaves u limits schemaNames run = none
  /-- A driver that fails nowhere and yields batches that can be cast is not stopped. -/
  fits : Entered run → run.stopped = none → run.exit = .returned false → run.closed = none →
    (∀ n, run.thrown n = none) →
    (∀ item ∈ run.items, ∃ batch, CastsTo schemaNames item batch) →
    streamQueryLeaves u limits schemaNames run = none

theorem yielded_entered (h : Entered run) : (streamQuery limits schemaNames run).yielded =
    (forward limits schemaNames run 0 run.items).1 := by
  obtain ⟨hcreated, hqueried, hentered⟩ := h
  unfold streamQuery
  rw [hcreated, hqueried, hentered]

theorem yielded_not_entered (h : ¬ Entered run) :
    (streamQuery limits schemaNames run).yielded = [] := by
  unfold streamQuery
  split
  · rfl
  · rfl
  · rfl
  · next hcreated hqueried hentered => exact absurd ⟨hcreated, hqueried, hentered⟩ h

theorem streamQueryLeaves_not_entered (h : ¬ Entered run) :
    streamQueryLeaves u limits schemaNames run ≠ none := by
  unfold streamQueryLeaves streamQuery
  rw [Ne, leaves_eq_none_iff]
  intro hnone
  split at hnone
  · cases hnone.1
  · cases hnone.1
  · cases hnone.1
  · next hcreated hqueried hentered => exact h ⟨hcreated, hqueried, hentered⟩

theorem yielded_bounded : ∀ batch ∈ (streamQuery limits schemaNames run).yielded,
    1 ≤ batch.numRows ∧ batch.numRows ≤ limits.batchRows ∧
      (batch.nbytes ≤ limits.batchBytes ∨ batch.numRows = 1) := by
  by_cases hentered : Entered run
  · rw [yielded_entered hentered]
    exact forwarded_forward.bounded
  · rw [yielded_not_entered hentered]
    exact fun _ hmem => absurd hmem List.not_mem_nil

theorem yielded_first :
    ∃ n batches, List.Forall₂ (CastsTo schemaNames) (run.items.take n) batches ∧
      rowsOf (streamQuery limits schemaNames run).yielded <+: rowsOf batches := by
  by_cases hentered : Entered run
  · rw [yielded_entered hentered]
    obtain ⟨n, batches, hcasts, hrows⟩ := @forwarded_forward _ limits schemaNames run |>.first
    exact ⟨n, batches, casts_iff.mp hcasts, hrows⟩
  · rw [yielded_not_entered hentered]
    exact ⟨0, [], .nil, List.prefix_refl _⟩

theorem complete_of_leaves (hnone : streamQueryLeaves u limits schemaNames run = none)
    (hkept : run.exit ≠ .returned true) :
    Complete schemaNames run (streamQuery limits schemaNames run).yielded := by
  have hentered : Entered run := by
    by_contra h
    exact streamQueryLeaves_not_entered h hnone
  have hyielded := @yielded_entered _ limits schemaNames run hentered
  rw [streamQueryLeaves_entered hentered, leaves_eq_none_iff] at hnone
  obtain ⟨hafter, hclosed⟩ := hnone
  cases hexit : run.exit with
  | raised e =>
    rw [hexit] at hafter
    cases hafter
  | returned suppress =>
    cases suppress with
    | true => exact absurd hexit hkept
    | false =>
      rw [hexit] at hafter
      obtain ⟨hstopped, ⟨batches, hcasts, hrows⟩, hthrown⟩ := forwarded_forward.complete hafter
      rw [← hyielded] at hrows hthrown
      exact {
        entered := hentered
        stopped := Option.map_eq_none_iff.mp hstopped
        exit := fun e he => by rw [hexit] at he; cases he
        closed := Option.map_eq_none_iff.mp hclosed
        thrown := fun n hn => Option.map_eq_none_iff.mp (hthrown n hn)
        rows := ⟨batches, casts_iff.mp hcasts, hrows⟩ }

theorem leaves_of_casts (hentered : Entered run) (hstopped : run.stopped = none)
    (hexit : run.exit = .returned false) (hclosed : run.closed = none)
    (hthrown : ∀ n, run.thrown n = none)
    (hcasts : ∀ item ∈ run.items, ∃ batch, CastsTo schemaNames item batch) :
    streamQueryLeaves u limits schemaNames run = none := by
  have hfailure := (@forwarded_forward _ limits schemaNames run).casts
    (fun item hitem => (hcasts item hitem).imp fun _ => castItem_eq_ok_iff.mpr)
    fun n => by rw [hthrown n]; rfl
  rw [streamQueryLeaves_entered hentered, hexit, hclosed, hfailure, hstopped]
  rfl

/-- The stream of a task yields the rows of its driver in order, each at most once and within the
limits, and ends normally with all of them or with a failure hidden by the driver. -/
theorem streamQuery_forwards (u : CaseData) (limits : ResourceLimits) (schemaNames : List Text)
    (run : StreamRun V) : Forwards u limits schemaNames run where
  bounded := yielded_bounded
  first := yielded_first
  complete := complete_of_leaves
  hidden := fun hentered hexit hclosed => by
    rw [streamQueryLeaves_entered hentered, hexit, hclosed]
    rfl
  fits := leaves_of_casts

end Stream

/-! ## All streams of a scan -/

/-- The names of the columns of a task. -/
def Task.names (t : Task) : List Text := t.spec.arrowSchema.map ArrowField.name

/-- The rows that a statement selects, as its SELECT list makes values of them. -/
def Statement.result (s : Statement) (server : Server Cell) (encode : Projection → Row Cell → V)
    (rows : Multiset (Row Cell)) : Multiset V :=
  (rows.filter fun row => s.keeps server row).map (encode s.projection)

/-- If what a task sends is a statement, the driver of the run carries an answer to it, or the
beginning of it if the driver fails.  `carries` are the values in an item of the driver. -/
def Answered (u : UnicodeData) (server : Server Cell) (encode : Projection → Row Cell → V)
    (carries : DriverItem V → List V) (rows : Multiset (Row Cell)) (s : Statement) (t : Task)
    (run : StreamRun V) : Prop :=
  Sends u t.query s → ∃ later, (run.stopped = none → later = []) ∧
    Scan.Keeps (s.limit.map Int.toNat) (s.result server encode rows)
      ↑((run.items ++ later).flatMap carries)

/-- The stream of a task does not end normally, or hides a failure. -/
def Fails (u : CaseData) (limits : ResourceLimits) (t : Task) (run : StreamRun V) : Prop :=
  streamQueryLeaves u limits t.names run ≠ none ∨ run.exit = .returned true

/-- The rows that the stream of a task yields. -/
def delivered (limits : ResourceLimits) (t : Task) (run : StreamRun V) : List V :=
  rowsOf (streamQuery limits t.names run).yielded

theorem rows_of_casts {schemaNames : List Text} {carries : DriverItem V → List V}
    (hcarries : ∀ item batch, CastsTo schemaNames item batch → batch.rows = carries item)
    {items : List (DriverItem V)} {batches : List (RecordBatch V)}
    (h : List.Forall₂ (CastsTo schemaNames) items batches) :
    rowsOf batches = items.flatMap carries := by
  induction h with
  | nil => rfl
  | cons hcast _ ih =>
    rw [rowsOf, List.flatMap_cons, List.flatMap_cons, hcarries _ _ hcast, ← ih]
    rfl

variable {server : Server Cell} {encode : Projection → Row Cell → V}
  {carries : DriverItem V → List V} {rows : Multiset (Row Cell)} {s : Statement} {t : Task}
  {run : StreamRun V}

/-- What the stream of a task delivers of the answer. -/
theorem answers_delivered {u : CaseData} {limits : ResourceLimits}
    (hcarries : ∀ item batch, CastsTo t.names item batch → batch.rows = carries item)
    (hsends : Sends u.toUnicodeData t.query s)
    (h : Answered u.toUnicodeData server encode carries rows s t run) :
    ∃ answer, Scan.Answers (s.limit.map Int.toNat) (s.result server encode rows) answer
      (Fails u limits t run) ↑(delivered limits t run) := by
  obtain ⟨later, hlater, hkeeps⟩ := h hsends
  refine ⟨_, hkeeps, ?_, fun hok => ?_⟩
  · obtain ⟨n, batches, hcasts, hfirst⟩ := @yielded_first _ limits t.names run
    rw [rows_of_casts hcarries hcasts] at hfirst
    have hitems : (run.items.take n).flatMap carries <+: (run.items ++ later).flatMap carries := by
      rw [List.flatMap_append]
      refine List.IsPrefix.trans ?_ (List.prefix_append _ _)
      exact (List.take_prefix n run.items).flatMap carries
    exact (hfirst.trans hitems).sublist.subperm
  · obtain ⟨hnone, hkept⟩ := not_or.mp hok
    have hcomplete := complete_of_leaves (not_not.mp hnone) hkept
    obtain ⟨batches, hcasts, hrows⟩ := hcomplete.rows
    rw [delivered, hrows, rows_of_casts hcarries hcasts, hlater hcomplete.stopped,
      List.append_nil]

namespace DataSource

variable {G : Type} [Fintype G] [DecidableEq G]

/-- The limit of the SELECT of a scan. -/
theorem limit_select (source : DataSource) (pushdowns : Pushdowns) (predicate : Option Predicate)
    (partitionIds : Option (List Text)) :
    (source.select pushdowns predicate partitionIds).limit.map Int.toNat =
      safeDatabaseLimit pushdowns predicate := by
  rw [select, Option.map_map]
  cases safeDatabaseLimit pushdowns predicate <;> rfl

/-- A whole scan: the tasks that were planned with a driver that tells what is stored, and for
each of them a stream whose driver carries the server's answer to what the task sends.  If no task
binds a value, or no name of the SELECT has a percent sign: whatever fails and wherever the
consumers stop, the rows yielded are some of those of which fragment and predicate are true, none
of them twice; and if no stream fails, as many of them as a reader with the limit of the query
keeps. -/
theorem scan_delivers {server : Server Cell} (u : CaseData) (g : ObjectGraph G) (pickle : g.Pickle)
    (partner : Driver G) (connection : ClickHouseConnection G) (timeouts : Timeouts)
    (cancelled : List (Turn (@Call.Reply G) Raised) → Option Cancelled) (source : DataSource)
    (pushdowns : Pushdowns) (stored : StoredTable server) (encode : Projection → Row Cell → V)
    (carries : DriverItem V → List V) (haggregation : pushdowns.aggregation = none)
    (htruthful : Truthful partner source.table stored)
    (hcarries : ∀ names item batch, CastsTo names item batch → batch.rows = carries item)
    (log : List (Turn (@Call.Reply G) Raised)) (readings : List (Task × StreamRun V))
    (htasks : ((source.getTasksIn pushdowns (toThread cancelled (discoverPartitions u g pickle
      partner connection source.table timeouts))).run.run log).1 = .ok (readings.map Prod.fst))
    {predicate : Option Predicate} (hpredicate : compileFilter pushdowns.filters = .ok predicate)
    (hbound : (∀ r ∈ readings, r.1.spec.namedParameters = []) ∨
      (source.select pushdowns predicate none).Clean)
    (hanswered : ∀ r ∈ readings, Answered u.toUnicodeData server encode carries stored.rows
      (source.select pushdowns predicate r.1.partitionIds) r.1 r.2) :
    Scan.Delivers (safeDatabaseLimit pushdowns predicate)
      ((stored.rows.filter fun row => source.meets pushdowns predicate server row).map
        (encode (.columns (source.projection pushdowns))))
      (∃ r ∈ readings, Fails u source.limits r.1 r.2)
      (readings.map fun r => (delivered source.limits r.1 r.2 : Multiset V)).sum := by
  obtain ⟨-, predicate', hpredicate', hiff⟩ := planned_of_getTasksIn haggregation htruthful htasks
  obtain rfl := Except.ok.inj (hpredicate.symm.trans hpredicate')
  have hsplit : SplitScan u.toUnicodeData source pushdowns predicate server stored.rows
      (readings.map Prod.fst) :=
    hiff.mpr (hbound.imp_left fun hnone => List.forall_mem_map.mpr hnone)
  have hanswers : ∀ r ∈ readings, ∃ answer, Scan.Answers (safeDatabaseLimit pushdowns predicate)
      ((stored.rows.filter fun row =>
          (source.select pushdowns predicate r.1.partitionIds).keeps server row).map
        (encode (.columns (source.projection pushdowns))))
      answer (Fails u source.limits r.1 r.2) ↑(delivered source.limits r.1 r.2) := by
    intro r hr
    obtain ⟨answer, hanswer⟩ : ∃ answer, Scan.Answers
        ((source.select pushdowns predicate r.1.partitionIds).limit.map Int.toNat)
        ((source.select pushdowns predicate r.1.partitionIds).result server encode stored.rows)
        answer (Fails u source.limits r.1 r.2) ↑(delivered source.limits r.1 r.2) :=
      answers_delivered (hcarries _) (hsplit.sends r.1 (List.mem_map_of_mem hr)) (hanswered r hr)
    rw [limit_select] at hanswer
    exact ⟨answer, hanswer⟩
  choose! answer hanswer using hanswers
  exact hsplit.splits.delivers rfl hanswer

/-- Daft pushes nothing down. -/
def unfiltered : Pushdowns where
  filter_columns := no_filter_columns

/-- A run that carries the answer to a task in one batch. -/
def answeringRun (table : List (Row PyValue)) (t : Task) : StreamRun PyValue where
  created := none
  queried := none
  entered := none
  items := [.batch ⟨t.names, true, .ok ⟨(table.filter fun row =>
    (partitioned.select unfiltered none t.partitionIds).keeps Server.identity row).map
      (·.cells (str "id")), fun _ length => length⟩, .ok 1, .ok []⟩]
  stopped := none
  thrown _ := none
  exit := .returned false
  closed := none

/-- The values of an item that can be cast. -/
def carried : DriverItem PyValue → List PyValue
  | .batch batch =>
    match castBatches batch with
    | .ok [cast] => cast.rows
    | _ => []
  | .other => []

theorem rows_of_castsTo {names : List Text} {item : DriverItem PyValue}
    {batch : RecordBatch PyValue} (h : CastsTo names item batch) : batch.rows = carried item := by
  obtain ⟨b, rfl, -, hcast⟩ := h
  simp only [carried, hcast]

/-- The rows of two partitions are delivered by the streams of two tasks. -/
theorem scan_delivers_partitioned :
    ∃ readings : List (Task × StreamRun PyValue),
      ((partitioned.getTasksIn unfiltered (toThread (fun _ => none)
        (discoverPartitions .superscriptTwo exampleGraph examplePickle storedDriver
          exampleConnection exampleTable exampleTimeouts))).run.run []).1 =
        .ok (readings.map Prod.fst) ∧
      (readings.map fun r => (delivered exampleLimits r.1 r.2 : Multiset PyValue)).sum =
        (storedPartitions.rows.filter fun row =>
          partitioned.meets unfiltered none Server.identity row).map (·.cells (str "id")) := by
  have hfound : ((toThread (fun _ => none) (discoverPartitions .superscriptTwo exampleGraph
      examplePickle storedDriver exampleConnection exampleTable exampleTimeouts)).run.run []).1 =
        .ok ⟨true, [⟨str "a", 1⟩, ⟨str "b", 5⟩]⟩ := rfl
  obtain ⟨tasks, htasks⟩ : ∃ tasks, ((partitioned.getTasksIn unfiltered
      (toThread (fun _ => none) (discoverPartitions .superscriptTwo exampleGraph examplePickle
        storedDriver exampleConnection exampleTable exampleTimeouts))).run.run []).1 = .ok tasks :=
    exists_getTasksIn rfl truthful_storedDriver hfound (by decide) (by decide) ⟨_, rfl⟩
  let readings : List (Task × StreamRun PyValue) := tasks.map fun t =>
    (t, answeringRun storedList t)
  have hreadings : readings.map Prod.fst = tasks := by
    rw [List.map_map]
    exact List.map_id tasks
  have hanswered : ∀ r ∈ readings, Answered CaseData.superscriptTwo.toUnicodeData Server.identity
      (fun _ row => row.cells (str "id")) carried storedPartitions.rows
      (partitioned.select unfiltered none r.1.partitionIds) r.1 r.2 := by
    intro r hr _
    obtain ⟨t, ht, rfl⟩ := List.mem_map.mp hr
    have hresult : (partitioned.select unfiltered none t.partitionIds).result Server.identity
        (fun _ row => row.cells (str "id")) storedPartitions.rows =
          ↑(((answeringRun storedList t).items ++ []).flatMap carried) := by
      show Multiset.map _ (Multiset.filter _ (storedList : Multiset (Row PyValue))) = _
      rw [Multiset.filter_coe, Multiset.map_coe]
      simp [answeringRun, carried, castBatches, Except.map]
    refine ⟨[], fun _ => rfl, ?_⟩
    rw [hresult]
    exact ⟨le_rfl, rfl⟩
  have hdelivers := scan_delivers .superscriptTwo exampleGraph examplePickle storedDriver
    exampleConnection exampleTimeouts (fun _ => none) partitioned unfiltered storedPartitions
    (fun _ row => row.cells (str "id")) carried rfl truthful_storedDriver
    (fun _ _ _ => rows_of_castsTo) [] readings (by rw [hreadings]; exact htasks)
    (show compileFilter unfiltered.filters = .ok none from rfl) (Or.inr (by decide)) hanswered
  refine ⟨readings, by rw [hreadings]; exact htasks, hdelivers.eq_of_no_limit ?_⟩
  rintro ⟨r, hr, hfails⟩
  obtain ⟨t, ht, rfl⟩ := List.mem_map.mp hr
  rcases hfails with hleaves | hexit
  · refine hleaves (leaves_of_casts ⟨rfl, rfl, rfl⟩ rfl rfl rfl (fun _ => rfl) fun item hitem => ?_)
    rw [List.mem_singleton.mp hitem]
    exact ⟨_, _, rfl, rfl, rfl⟩
  · cases hexit

end DataSource

end ClickHouse
end DaftOlap
