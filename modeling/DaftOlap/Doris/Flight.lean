/-
Streaming over Flight (`doris/transports/flight.py`).

A run of `stream_query` is given by what the driver and the consumer do.  Before it opens anything
the reader refuses a query with parameters, which no Flight task has.  Batches are cast as those of
ClickHouse are, under messages of their own.
-/
import DaftOlap.ClickHouse.Stream
import DaftOlap.Common.ArrowStream
import DaftOlap.Doris.DataSource
import DaftOlap.Doris.Errors

namespace DaftOlap
namespace Doris

open Python

/-! ## Queries without parameters -/

namespace Flight

open ClickHouse (CastFailure CastsTo DriverBatch DriverItem castBatches)

variable {V : Type}

/-! ## The reader -/

/-- Safely align a Flight batch with the MySQL-discovered canonical schema. -/
def castBatch (batch : DriverBatch V) (schemaNames : List Text) : Except Raised (RecordBatch V) :=
  if batch.names ≠ schemaNames then
    .error (.daftOlap .schema "Doris Flight result columns do not match the planned schema")
  else
    match castBatches batch with
    | .error (.other e) => .error e
    | .error .mismatch =>
      .error (.daftOlap .schema "Doris Flight result does not match the planned schema")
    | .ok [cast] => .ok cast
    | .ok _ => .error (.daftOlap .schema "Doris Flight cast produced an unexpected batch count")

/-- What `_fetch` makes of what the driver yields. -/
def castItem (schemaNames : List Text) : DriverItem V → Except Raised (RecordBatch V)
  | .batch batch => castBatch batch schemaNames
  | .other => .error (.daftOlap .transport "Doris Flight yielded a non-RecordBatch value")

/-- The check of `_open`. -/
def checkMaterialized (spec : QuerySpec) : Option Raised :=
  if spec.positionalParameters ≠ [] ∨ spec.namedParameters ≠ [] then
    some (.daftOlap .transport
      "Doris Flight queries must be fully materialized by the Doris renderer")
  else none

/-- What the driver and the consumer do in a run. -/
structure FlightRun (V : Type) where
  /-- At the await of the opening. -/
  cancelled : Option ControlFlow
  /-- Of the rest of `_open`: the import, the arguments and the calls up to the reader. -/
  opened : Option Raised
  items : List (DriverItem V)
  /-- What the driver raises after these items, or at the await for the next one. -/
  stopped : Option Raised
  thrown : Nat → Option Raised
  closed : Option Raised

structure FlightStream (V : Type) where
  yielded : List (RecordBatch V)
  /-- The first exception. -/
  failure : Option Raised

/-- What the await of `start` raises. -/
def startFailure (spec : QuerySpec) (run : FlightRun V) : Option Raised :=
  (run.cancelled.map .control).or ((checkMaterialized spec).or run.opened)

/-- The body of `stream_query`. -/
def streamQuery (limits : ResourceLimits) (spec : QuerySpec) (run : FlightRun V) :
    FlightStream V :=
  match startFailure spec run with
  | some e => ⟨[], some e⟩
  | none =>
    let (yielded, failure) := forwardItems (castItem (spec.arrowSchema.map ArrowField.name)) limits
      run.thrown run.stopped 0 run.items
    ⟨yielded, failure⟩

def closeError : Raised := .daftOlap .transport "failed to close Doris Flight resources"

/-- What leaves `stream_query`. -/
def streamQueryLeaves (u : CaseData) (run : FlightRun V) (stream : FlightStream V) :
    Option Raised :=
  leaves (convertDorisError u "Flight") closeError stream.failure run.closed

/-! ## What is delivered -/

/-- Flight and ClickHouse batches that are cast are cast alike. -/
theorem castBatch_eq_ok_iff {batch : DriverBatch V} {schemaNames : List Text}
    {cast : RecordBatch V} : castBatch batch schemaNames = .ok cast ↔
      batch.names = schemaNames ∧ castBatches batch = .ok [cast] := by
  unfold castBatch
  by_cases hnames : batch.names = schemaNames
  · rw [if_neg (not_not.mpr hnames), and_iff_right hnames]
    constructor
    · intro h
      split at h
      · cases h
      · cases h
      · next cast' hcast => rw [hcast, Except.ok.inj h]
      · cases h
    · intro h
      rw [h]
  · rw [if_pos hnames]
    exact iff_of_false (fun h => by cases h) fun h => hnames h.1

theorem castItem_eq_ok_iff {schemaNames : List Text} {item : DriverItem V} {cast : RecordBatch V} :
    castItem schemaNames item = .ok cast ↔ CastsTo schemaNames item cast := by
  cases item with
  | batch batch =>
    rw [castItem, castBatch_eq_ok_iff]
    constructor
    · intro h
      exact ⟨batch, rfl, h⟩
    · intro h
      obtain ⟨b, hb, h⟩ := h
      obtain rfl := DriverItem.batch.inj hb
      exact h
  | other =>
    refine iff_of_false (fun h => by cases h) fun h => ?_
    obtain ⟨b, hb, -⟩ := h
    cases hb

theorem casts_iff {schemaNames : List Text} {items : List (DriverItem V)}
    {batches : List (RecordBatch V)} :
    Casts (castItem schemaNames) items batches ↔ List.Forall₂ (CastsTo schemaNames) items batches :=
  ⟨fun h => h.imp fun _ _ => castItem_eq_ok_iff.mp, fun h => h.imp fun _ _ => castItem_eq_ok_iff.mpr⟩

/-- What holds of a run of `stream_query`. -/
structure Delivers (u : CaseData) (limits : ResourceLimits) (spec : QuerySpec) (run : FlightRun V)
    (stream : FlightStream V) : Prop where
  bounded : ∀ batch ∈ stream.yielded, 1 ≤ batch.numRows ∧ batch.numRows ≤ limits.batchRows ∧
    (batch.nbytes ≤ limits.batchBytes ∨ batch.numRows = 1)
  /-- However the run ends, its rows are the first rows of the driver. -/
  first : ∃ n batches,
    List.Forall₂ (CastsTo (spec.arrowSchema.map ArrowField.name)) (run.items.take n) batches ∧
      rowsOf stream.yielded <+: rowsOf batches
  /-- Without an exception the reader was opened and all rows were yielded. -/
  complete : stream.failure = none → startFailure spec run = none ∧ run.stopped = none ∧
    (∃ batches, List.Forall₂ (CastsTo (spec.arrowSchema.map ArrowField.name)) run.items batches ∧
      rowsOf stream.yielded = rowsOf batches) ∧
    ∀ k < stream.yielded.length, run.thrown k = none
  raised : ∀ e, stream.failure = some e → startFailure spec run = some e ∨
    Stopped (castItem (spec.arrowSchema.map ArrowField.name)) run.thrown run.stopped 0 run.items
      stream.yielded e
  fits : startFailure spec run = none → run.stopped = none → (∀ n, run.thrown n = none) →
    (∀ item ∈ run.items, ∃ batch, CastsTo (spec.arrowSchema.map ArrowField.name) item batch) →
    stream.failure = none
  /-- The stream ends normally only if nothing failed. -/
  ends : streamQueryLeaves u run stream = none ↔ stream.failure = none ∧ run.closed = none
  /-- Unless closing is interrupted, an exception leaves as itself or as a connector error. -/
  leaves : (∀ c, run.closed ≠ some (.control c)) → ∀ e, stream.failure = some e →
    ((∀ error, e ≠ .driver error) → streamQueryLeaves u run stream = some e) ∧
    ∀ error, e = .driver error → ∃ kind message,
      streamQueryLeaves u run stream = some (.daftOlap kind message)
  closed : stream.failure = none → ∀ e, run.closed = some e → e.IsException →
    streamQueryLeaves u run stream = some closeError

section Delivers

variable {u : CaseData} {limits : ResourceLimits} {spec : QuerySpec} {run : FlightRun V}

theorem leaves_of_failure {stream : FlightStream V} (hclosed : ∀ c, run.closed ≠ some (.control c))
    {e : Raised} (h : stream.failure = some e) :
    ((∀ error, e ≠ .driver error) → streamQueryLeaves u run stream = some e) ∧
    ∀ error, e = .driver error → ∃ kind message,
      streamQueryLeaves u run stream = some (.daftOlap kind message) := by
  rw [streamQueryLeaves, h, leaves_failure hclosed]
  constructor
  · intro hdriver
    cases e with
    | control c => rfl
    | daftOlap kind message => rfl
    | driver error => exact absurd rfl (hdriver error)
  · intro error herror
    obtain ⟨kind, message, hpublic⟩ := convertDorisError_eq u "Flight" error
    exact ⟨kind, message, by rw [herror, ← hpublic]; rfl⟩

theorem streamQuery_started (h : startFailure spec run = none) :
    Forwarded (castItem (spec.arrowSchema.map ArrowField.name)) limits run.thrown run.stopped
      run.items (streamQuery limits spec run).yielded (streamQuery limits spec run).failure := by
  unfold streamQuery
  rw [h]
  exact forwarded _ _ _ _ _

/-- A stream over Flight yields the rows of its driver in order, each at most once and within the
limits, and ends normally only with all of them.  An exception leaves it as itself or as a
connector error, unless closing is itself interrupted by control flow. -/
theorem flight_delivers (u : CaseData) (limits : ResourceLimits) (spec : QuerySpec)
    (run : FlightRun V) : Delivers u limits spec run (streamQuery limits spec run) := by
  cases hstart : startFailure spec run with
  | some e =>
    have hstream : streamQuery limits spec run = ⟨[], some e⟩ := by
      unfold streamQuery
      rw [hstart]
    rw [hstream]
    exact {
      bounded := by simp
      first := ⟨0, [], .nil, List.prefix_refl _⟩
      complete := fun h => by cases h
      raised := fun e' h => Or.inl (hstart.trans h)
      fits := fun h => by rw [hstart] at h; cases h
      ends := leaves_eq_none_iff
      leaves := fun hclosed e' h => leaves_of_failure hclosed h
      closed := fun h => by cases h }
  | none =>
    have hforwarded := @streamQuery_started _ limits spec run hstart
    exact {
      bounded := hforwarded.bounded
      first := by
        obtain ⟨n, batches, hcasts, hfirst⟩ := hforwarded.first
        exact ⟨n, batches, casts_iff.mp hcasts, hfirst⟩
      complete := fun h => by
        obtain ⟨hstopped, ⟨batches, hcasts, hrows⟩, hthrown⟩ := hforwarded.complete h
        exact ⟨hstart, hstopped, ⟨batches, casts_iff.mp hcasts, hrows⟩, hthrown⟩
      raised := fun e h => Or.inr (hforwarded.raised e h)
      fits := fun _ hstopped hthrown hcasts => by
        have hitems : ∀ item ∈ run.items, ∃ batch,
            castItem (spec.arrowSchema.map ArrowField.name) item = .ok batch := fun item hitem => by
          obtain ⟨batch, hcast⟩ := hcasts item hitem
          exact ⟨batch, castItem_eq_ok_iff.mpr hcast⟩
        rw [hforwarded.casts hitems hthrown, hstopped]
      ends := leaves_eq_none_iff
      leaves := fun hclosed e h => leaves_of_failure hclosed h
      closed := fun h e hclosed hexception => by
        rw [streamQueryLeaves, h, hclosed, leaves_closed hexception] }

end Delivers

end Flight
end Doris
end DaftOlap
