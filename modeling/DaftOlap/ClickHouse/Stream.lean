/-
Streaming from ClickHouse (`clickhouse/transport.py`).

The driver's stream is a context: its exit runs while an exception of the body is in
flight, inside the `try`, and may suppress or replace it before a handler sees it.  The
client is closed after that.
-/
import DaftOlap.ClickHouse.Errors

namespace DaftOlap
namespace ClickHouse

open Python

/-- An exception from outside the connectors: of a driver, or by cancellation. -/
abbrev External := { e : Raised // ¬ e.IsDaftOlapError }

/-! ## Casting batches -/

/-- Why a cast fails: one of the exceptions `cast_batch` expects, or another one. -/
inductive CastFailure
  | mismatch
  | other (exception : External)

/-- A record batch of the driver, with what `pyarrow` makes of it. -/
structure DriverBatch (V : Type) where
  names : List Text
  /-- `batch.schema.equals(schema)`. -/
  equalsSchema : Bool
  /-- The batch under the planned schema. -/
  relabelled : Except CastFailure (RecordBatch V)
  /-- The number of rows of the cast table. -/
  tableRows : Except CastFailure Nat
  /-- The batches of the cast table. -/
  tableBatches : Except CastFailure (List (RecordBatch V))

variable {V : Type}

def emptyBatch : RecordBatch V := ⟨[], fun _ _ => 0⟩

/-- The `try` of `cast_batch`. -/
def castBatches (batch : DriverBatch V) : Except CastFailure (List (RecordBatch V)) :=
  if batch.equalsSchema then batch.relabelled.map fun cast => [cast]
  else do
    let rows ← batch.tableRows
    if rows = 0 then return [emptyBatch] else batch.tableBatches

/-- Validate result names and cast without lossy conversion to the canonical schema. -/
def castBatch (batch : DriverBatch V) (schemaNames : List Text) : Except Raised (RecordBatch V) :=
  if batch.names ≠ schemaNames then
    .error (.daftOlap .schema "ClickHouse result columns do not match the planned schema")
  else
    match castBatches batch with
    | .error (.other e) => .error e
    | .error .mismatch =>
      .error (.daftOlap .schema "ClickHouse result does not match the planned Arrow schema")
    | .ok [cast] => .ok cast
    | .ok _ =>
      .error (.daftOlap .schema "ClickHouse batch cast produced an unexpected batch count")

/-- A batch is cast exactly if it has the planned columns and Arrow makes one batch of it. -/
theorem castBatch_eq_ok_iff {batch : DriverBatch V} {schemaNames : List Text}
    {cast : RecordBatch V} : castBatch batch schemaNames = .ok cast ↔
      batch.names = schemaNames ∧ castBatches batch = .ok [cast] := by
  unfold castBatch
  by_cases hnames : batch.names = schemaNames
  · rw [if_neg (not_not.mpr hnames), and_iff_right hnames]
    constructor
    · intro h
      split at h
      · cases h
      · cases h
      · next cast' hcast => rw [hcast, Except.ok.inj h]
      · cases h
    · intro h
      rw [h]
  · rw [if_pos hnames]
    exact iff_of_false (fun h => by cases h) fun h => hnames h.1

/-! ## The stream -/

inductive ExitOutcome
  | returned (suppress : Bool)
  | raised (e : External)

/-- What the driver yields. -/
inductive DriverItem (V : Type)
  | batch (batch : DriverBatch V)
  | other

/-- An item is a batch of the planned columns, and Arrow makes this one batch of it. -/
def CastsTo (schemaNames : List Text) (item : DriverItem V) (cast : RecordBatch V) : Prop :=
  ∃ batch, item = .batch batch ∧ batch.names = schemaNames ∧ castBatches batch = .ok [cast]

/-- What the driver and the consumer do in a run. -/
structure StreamRun (V : Type) where
  /-- Of the driver's import, the client's arguments and its creation. -/
  created : Option Raised
  /-- Of the settings and the query. -/
  queried : Option External
  /-- Of the entry to the stream context. -/
  entered : Option External
  items : List (DriverItem V)
  /-- What the driver raises after these items, or at the await for the next one. -/
  stopped : Option External
  thrown : Nat → Option External
  exit : ExitOutcome
  closed : Option External

/-- The loop over the driver's items, after `count` yields: what is yielded, and the exception
that ends it. -/
def forward (limits : ResourceLimits) (schemaNames : List Text) (run : StreamRun V) (count : Nat) :
    List (DriverItem V) → List (RecordBatch V) × Option Raised
  | [] => ([], run.stopped.map Subtype.val)
  | .other :: _ =>
    ([], some (.daftOlap .transport "clickhouse-connect yielded a non-RecordBatch value"))
  | .batch batch :: items =>
    match castBatch batch schemaNames with
    | .error e => ([], some e)
    | .ok canonical =>
      match deliver (fun n => (run.thrown n).map Subtype.val) count
          ((iterBatchSlices canonical limits).map canonical.bounded) with
      | (yielded, some e) => (yielded, some e)
      | (yielded, none) =>
        let (later, failure) := forward limits schemaNames run (count + yielded.length) items
        (yielded ++ later, failure)

/-- What is in flight after the exit of the stream context. -/
def afterExit (exit : ExitOutcome) (failure : Option Raised) : Option Raised :=
  match exit with
  | .raised e => some e
  | .returned true => none
  | .returned false => failure

structure ClickHouseStream (V : Type) where
  yielded : List (RecordBatch V)
  /-- The exception that the handlers see. -/
  failure : Option Raised
  /-- The calls of the client's `close`. -/
  closes : Nat

/-- `stream_query`. -/
def streamQuery (limits : ResourceLimits) (schemaNames : List Text) (run : StreamRun V) :
    ClickHouseStream V :=
  match run.created, run.queried, run.entered with
  | some e, _, _ => ⟨[], some e, 0⟩
  | none, some e, _ => ⟨[], some e.val, 1⟩
  | none, none, some e => ⟨[], some e.val, 1⟩
  | none, none, none =>
    let (yielded, inside) := forward limits schemaNames run 0 run.items
    ⟨yielded, afterExit run.exit inside, 1⟩

def closeError : Raised := .daftOlap .transport "failed to close the ClickHouse client"

/-- What leaves `stream_query`. -/
def streamQueryLeaves (u : CaseData) (limits : ResourceLimits) (schemaNames : List Text)
    (run : StreamRun V) : Option Raised :=
  let stream := streamQuery limits schemaNames run
  leaves (convertClickHouseError u) closeError stream.failure (if stream.closes = 0 then none else run.closed.map Subtype.val)

/-! ## The connector's own errors -/

/-- The connector errors that the body raises itself. -/
def bodyErrors : List Raised :=
  [.daftOlap .transport "clickhouse-connect yielded a non-RecordBatch value",
    .daftOlap .schema "ClickHouse result columns do not match the planned schema",
    .daftOlap .schema "ClickHouse result does not match the planned Arrow schema",
    .daftOlap .schema "ClickHouse batch cast produced an unexpected batch count"]

theorem External.not_daftOlap (e : External) (kind : ErrorKind) (message : Message) :
    e.val ≠ .daftOlap kind message := by
  intro h
  apply e.property
  rw [h]
  exact trivial

theorem castBatch_error {batch : DriverBatch V} {schemaNames : List Text} {kind : ErrorKind}
    {message : Message} (h : castBatch batch schemaNames = .error (.daftOlap kind message)) :
    .daftOlap kind message ∈ bodyErrors := by
  unfold castBatch at h
  split at h
  · rw [← Except.error.inj h]
    exact List.mem_cons_of_mem _ List.mem_cons_self
  · split at h
    · next e he => exact absurd (Except.error.inj h) (External.not_daftOlap e kind message)
    · rw [← Except.error.inj h]
      exact List.mem_cons_of_mem _ (List.mem_cons_of_mem _ List.mem_cons_self)
    · cases h
    · rw [← Except.error.inj h]
      exact List.mem_cons_of_mem _ (List.mem_cons_of_mem _
        (List.mem_cons_of_mem _ List.mem_cons_self))

/-- A connector error ends the loop only if the body raised it. -/
theorem forward_daftOlap {limits : ResourceLimits} {schemaNames : List Text} {run : StreamRun V}
    {count : Nat} {items : List (DriverItem V)} {kind : ErrorKind} {message : Message}
    (h : (forward limits schemaNames run count items).2 = some (.daftOlap kind message)) :
    .daftOlap kind message ∈ bodyErrors := by
  induction items generalizing count with
  | nil =>
    obtain ⟨e, -, he⟩ := Option.map_eq_some_iff.mp h
    exact absurd he (External.not_daftOlap e kind message)
  | cons item items ih =>
    cases item with
    | other =>
      rw [← Option.some.inj h]
      exact List.mem_cons_self
    | batch batch =>
      rw [forward] at h
      split at h
      · next e hcast =>
        rw [Option.some.inj h] at hcast
        exact castBatch_error hcast
      · next canonical hcast =>
        split at h
        · next yielded e hdeliver =>
          obtain rfl := Option.some.inj h
          obtain ⟨-, n, -, hn⟩ := interrupted_of_deliver hdeliver
          obtain ⟨e', -, he'⟩ := Option.map_eq_some_iff.mp hn
          exact absurd he' (External.not_daftOlap e' kind message)
        · exact ih h

/-! ## The first failure -/

section First

variable (u : CaseData) (limits : ResourceLimits) (schemaNames : List Text) (run : StreamRun V)

def ExitOutcome.failure : ExitOutcome → Option Raised
  | .raised e => some e
  | .returned _ => none

/-- What ends the loop inside the stream context. -/
def loopFailure : Option Raised := (forward limits schemaNames run 0 run.items).2

/-- The first exception in the body; that of the exit if nothing failed before. -/
def firstFailure : Option Raised :=
  run.created.or ((run.queried.map Subtype.val).or ((run.entered.map Subtype.val).or
    ((loopFailure limits schemaNames run).or run.exit.failure)))

/-- The stream context was entered. -/
def Entered : Prop := run.created = none ∧ run.queried = none ∧ run.entered = none

/-- Nothing but ordinary exceptions. -/
def Ordinary (failure : Option Raised) : Prop := ∀ e, failure = some e → e.IsException

/-- The first failure leaves the stream, control flow at least where the exit and the close
raise no control flow themselves; and a client that was obtained is closed once. -/
structure KeepsFirst : Prop where
  control : ∀ c, firstFailure limits schemaNames run = some (.control c) →
    (Entered run → Ordinary run.exit.failure) →
    (run.created = none → Ordinary (run.closed.map Subtype.val)) →
    streamQueryLeaves u limits schemaNames run = some (.control c)
  daftOlap : ∀ kind message,
    firstFailure limits schemaNames run = some (.daftOlap kind message) →
    streamQueryLeaves u limits schemaNames run = some (.daftOlap kind message)
  driver : ∀ error, firstFailure limits schemaNames run = some (.driver error) →
    ∃ e ∈ convertedErrors, streamQueryLeaves u limits schemaNames run = some e
  closed : firstFailure limits schemaNames run = none → ∀ e, run.closed = some e →
    streamQueryLeaves u limits schemaNames run = some closeError
  closes : (streamQuery limits schemaNames run).closes = if run.created = none then 1 else 0

/-- The exit of the stream context leaves an exception in flight alone, or replaces one of the
driver by another; and no control flow is raised where an ordinary failure, or none, is to be
reported. -/
structure Undisturbed : Prop where
  control : Entered run → ∀ c, loopFailure limits schemaNames run = some (.control c) →
    Ordinary run.exit.failure → Ordinary (run.closed.map Subtype.val) →
    run.exit = .returned false
  daftOlap : Entered run → ∀ kind message,
    loopFailure limits schemaNames run = some (.daftOlap kind message) →
    run.exit = .returned false
  driver : Entered run → ∀ error, loopFailure limits schemaNames run = some (.driver error) →
    run.exit ≠ .returned true ∧ Ordinary run.exit.failure
  closed : run.created = none →
    (∀ c, firstFailure limits schemaNames run ≠ some (.control c)) →
    Ordinary (run.closed.map Subtype.val)

end First

/-! ## When the first failure leaves -/

/-- What is to leave where `first` was the first failure; control flow only where the cleanup
raises none. -/
def Reports (first : Option Raised) (cleanup : Prop) (closed : Option External)
    (out : Option Raised) : Prop :=
  match first with
  | some (.control c) => cleanup → out = some (.control c)
  | some (.daftOlap kind message) => out = some (.daftOlap kind message)
  | some (.driver _) => ∃ e ∈ convertedErrors, out = some e
  | none => closed ≠ none → out = some closeError

section Reports

variable {u : CaseData} {cleanup : Prop} {closed : Option External}

theorem control_not_mem (c : ControlFlow) : Raised.control c ∉ convertedErrors := by
  simp [convertedErrors]

theorem closeError_not_mem : closeError ∉ convertedErrors := by decide

theorem bodyErrors_disjoint : ∀ e ∈ bodyErrors, e ≠ closeError ∧ e ∉ convertedErrors := by decide

theorem exists_control (h : ¬ Ordinary (closed.map Subtype.val)) :
    ∃ c, closed.map Subtype.val = some (.control c) := by
  unfold Ordinary at h
  simp only [not_forall] at h
  obtain ⟨e, he, hexception⟩ := h
  cases e with
  | control c => exact ⟨c, he⟩
  | daftOlap kind message => exact absurd trivial hexception
  | driver error => exact absurd trivial hexception

/-- The handlers see the first failure itself: only a close may come in between. -/
theorem reports_failure (e : Raised) (hcleanup : cleanup → Ordinary (closed.map Subtype.val)) :
    Reports (some e) cleanup closed
      (leaves (convertClickHouseError u) closeError (some e) (closed.map Subtype.val)) ↔
    ((∀ c, e ≠ .control c) → Ordinary (closed.map Subtype.val)) := by
  by_cases hclosed : Ordinary (closed.map Subtype.val)
  · rw [leaves_ordinary hclosed]
    refine iff_of_true ?_ fun _ => hclosed
    cases e with
    | control c => exact fun _ => rfl
    | daftOlap kind message => rfl
    | driver error => exact ⟨_, convertClickHouseError_mem u error, rfl⟩
  · obtain ⟨c, hc⟩ := exists_control hclosed
    cases e with
    | control c' => exact iff_of_true (fun h => absurd (hcleanup h) hclosed) fun h => absurd rfl (h c')
    | daftOlap kind message =>
      refine iff_of_false ?_ fun h => hclosed (h (by simp))
      rw [hc]
      intro h
      cases h
    | driver error =>
      refine iff_of_false ?_ fun h => hclosed (h (by simp))
      rw [hc]
      rintro ⟨e, he, h⟩
      obtain rfl := Option.some.inj h
      exact control_not_mem c he

/-- Nothing failed. -/
theorem reports_none :
    Reports none cleanup closed
      (leaves (convertClickHouseError u) closeError none (closed.map Subtype.val)) ↔
    Ordinary (closed.map Subtype.val) := by
  by_cases hclosed : Ordinary (closed.map Subtype.val)
  · rw [leaves_ordinary hclosed]
    refine iff_of_true ?_ hclosed
    cases closed with
    | none => exact fun h => absurd rfl h
    | some e => exact fun _ => rfl
  · obtain ⟨c, hc⟩ := exists_control hclosed
    refine iff_of_false ?_ hclosed
    rw [hc]
    intro h
    cases closed with
    | none => cases hc
    | some e => cases h (Option.some_ne_none e)

/-- With nothing in flight at most the close is reported. -/
theorem leaves_none_cases (closed : Option External) :
    leaves (convertClickHouseError u) closeError none (closed.map Subtype.val) = none ∨
    leaves (convertClickHouseError u) closeError none (closed.map Subtype.val) = some closeError ∨
    ∃ c, closed.map Subtype.val = some (.control c) ∧
      leaves (convertClickHouseError u) closeError none (closed.map Subtype.val) =
        some (.control c) := by
  by_cases hclosed : Ordinary (closed.map Subtype.val)
  · rw [leaves_ordinary hclosed]
    cases closed with
    | none => exact Or.inl rfl
    | some e => exact Or.inr (Or.inl rfl)
  · obtain ⟨c, hc⟩ := exists_control hclosed
    exact Or.inr (Or.inr ⟨c, hc, by rw [hc]; rfl⟩)

/-- The exit suppressed the first failure. -/
theorem reports_suppressed (e : Raised)
    (hbody : ∀ kind message, e = .daftOlap kind message → e ∈ bodyErrors)
    (hcleanup : cleanup → Ordinary (closed.map Subtype.val)) :
    Reports (some e) cleanup closed
      (leaves (convertClickHouseError u) closeError none (closed.map Subtype.val)) ↔
    ∃ c, e = .control c ∧ ¬ cleanup := by
  have hout := leaves_none_cases (u := u) closed
  constructor
  · intro h
    cases e with
    | control c =>
      refine ⟨c, rfl, fun hc => ?_⟩
      have hordinary := hcleanup hc
      rw [h hc] at hout
      rcases hout with hout | hout | ⟨c', hc', -⟩
      · cases hout
      · cases hout
      · exact hordinary _ hc'
    | daftOlap kind message =>
      have hmem := bodyErrors_disjoint _ (hbody kind message rfl)
      rw [show _ = _ from h] at hout
      rcases hout with hout | hout | ⟨c', -, hout⟩
      · cases hout
      · exact absurd (Option.some.inj hout) hmem.1
      · cases hout
    | driver error =>
      obtain ⟨e, he, h⟩ := h
      rw [h] at hout
      rcases hout with hout | hout | ⟨c', -, hout⟩
      · cases hout
      · rw [Option.some.inj hout] at he
        exact absurd he closeError_not_mem
      · rw [Option.some.inj hout] at he
        exact absurd he (control_not_mem c')
  · intro h
    obtain ⟨c, rfl, hc⟩ := h
    exact fun hc' => absurd hc' hc

/-- An exception from outside leaves converted, unless control flow leaves. -/
theorem leaves_external_cases (x : External) (closed : Option External) :
    (x.val.IsException ∧ Ordinary (closed.map Subtype.val) ∧ ∃ e ∈ convertedErrors,
      leaves (convertClickHouseError u) closeError (some x.val) (closed.map Subtype.val) = some e) ∨
    ¬ (x.val.IsException ∧ Ordinary (closed.map Subtype.val)) ∧ ∃ c,
      leaves (convertClickHouseError u) closeError (some x.val) (closed.map Subtype.val) =
        some (.control c) := by
  obtain ⟨x, hx⟩ := x
  by_cases hclosed : Ordinary (closed.map Subtype.val)
  · rw [leaves_ordinary hclosed]
    cases x with
    | control c => exact Or.inr ⟨fun h => h.1, c, rfl⟩
    | daftOlap kind message => exact absurd trivial hx
    | driver error =>
      exact Or.inl ⟨trivial, hclosed, _, convertClickHouseError_mem u error, rfl⟩
  · obtain ⟨c, hc⟩ := exists_control hclosed
    exact Or.inr ⟨fun h => hclosed h.2, c, by rw [hc]; rfl⟩

/-- The exit replaced the first failure. -/
theorem reports_replaced (e : Raised) (x : External)
    (hbody : ∀ kind message, e = .daftOlap kind message → e ∈ bodyErrors)
    (hcleanup : cleanup → x.val.IsException ∧ Ordinary (closed.map Subtype.val)) :
    Reports (some e) cleanup closed
      (leaves (convertClickHouseError u) closeError (some x.val) (closed.map Subtype.val)) ↔
    (∃ c, e = .control c ∧ ¬ cleanup) ∨
      ∃ error, e = .driver error ∧ x.val.IsException ∧ Ordinary (closed.map Subtype.val) := by
  have hout := leaves_external_cases (u := u) x closed
  constructor
  · intro h
    cases e with
    | control c =>
      refine Or.inl ⟨c, rfl, fun hc => ?_⟩
      rw [h hc] at hout
      rcases hout with ⟨-, -, e, he, hout⟩ | ⟨hnot, -⟩
      · rw [← Option.some.inj hout] at he
        exact control_not_mem c he
      · exact hnot (hcleanup hc)
    | daftOlap kind message =>
      have hmem := bodyErrors_disjoint _ (hbody kind message rfl)
      rw [show _ = _ from h] at hout
      rcases hout with ⟨-, -, e, he, hout⟩ | ⟨-, c, hout⟩
      · rw [← Option.some.inj hout] at he
        exact absurd he hmem.2
      · cases hout
    | driver error =>
      obtain ⟨e, he, h⟩ := h
      rw [h] at hout
      rcases hout with ⟨hexception, hclosed, -⟩ | ⟨-, c, hout⟩
      · exact Or.inr ⟨error, rfl, hexception, hclosed⟩
      · rw [Option.some.inj hout] at he
        exact absurd he (control_not_mem c)
  · intro h
    rcases h with ⟨c, rfl, hc⟩ | ⟨error, rfl, hexception, hclosed⟩
    · exact fun hc' => absurd hc' hc
    · rcases hout with ⟨-, -, hout⟩ | ⟨hnot, -⟩
      · exact hout
      · exact absurd ⟨hexception, hclosed⟩ hnot

end Reports

section Main

variable {u : CaseData} {limits : ResourceLimits} {schemaNames : List Text} {run : StreamRun V}

theorem closes_eq :
    (streamQuery limits schemaNames run).closes = if run.created = none then 1 else 0 := by
  unfold streamQuery
  split
  · next e hcreated => rw [hcreated]; rfl
  · next e hcreated hqueried => rw [hcreated]; rfl
  · next e hcreated hqueried hentered => rw [hcreated]; rfl
  · next hcreated hqueried hentered => rw [hcreated]; rfl

/-- The clauses of `KeepsFirst` as one. -/
theorem keepsFirst_iff_reports : KeepsFirst u limits schemaNames run ↔
    Reports (firstFailure limits schemaNames run)
      ((Entered run → Ordinary run.exit.failure) ∧
        (run.created = none → Ordinary (run.closed.map Subtype.val)))
      run.closed (streamQueryLeaves u limits schemaNames run) := by
  constructor
  · intro h
    cases hfirst : firstFailure limits schemaNames run with
    | none =>
      intro hclosed
      obtain ⟨e, he⟩ := Option.ne_none_iff_exists'.mp hclosed
      exact h.closed hfirst e he
    | some e =>
      cases e with
      | control c => exact fun hcleanup => h.control c hfirst hcleanup.1 hcleanup.2
      | daftOlap kind message => exact h.daftOlap kind message hfirst
      | driver error => exact h.driver error hfirst
  · intro h
    refine ⟨?_, ?_, ?_, ?_, closes_eq⟩
    · intro c hfirst hexit hclosed
      rw [hfirst] at h
      exact h ⟨hexit, hclosed⟩
    · intro kind message hfirst
      rw [hfirst] at h
      exact h
    · intro error hfirst
      rw [hfirst] at h
      exact h
    · intro hfirst e he
      rw [hfirst] at h
      exact h (by rw [he]; exact Option.some_ne_none e)

/-- Without a client there is nothing to clean up. -/
theorem keepsFirst_created {e : Raised} (hcreated : run.created = some e) :
    KeepsFirst u limits schemaNames run := by
  have hfirst : firstFailure limits schemaNames run = some e := by
    rw [firstFailure, hcreated]
    rfl
  have hleaves : streamQueryLeaves u limits schemaNames run =
      some (e.converted (convertClickHouseError u)) := by
    unfold streamQueryLeaves streamQuery
    rw [hcreated]
    rfl
  rw [keepsFirst_iff_reports, hfirst, hleaves]
  cases e with
  | control c => exact fun _ => rfl
  | daftOlap kind message => rfl
  | driver error => exact ⟨_, convertClickHouseError_mem u error, rfl⟩

/-- The query or the entry to its context failed. -/
theorem early_failure (hcreated : run.created = none) (hentered : ¬ Entered run) :
    ∃ e : External, firstFailure limits schemaNames run = some e.val ∧
      streamQueryLeaves u limits schemaNames run =
        leaves (convertClickHouseError u) closeError (some e.val) (run.closed.map Subtype.val) := by
  unfold firstFailure streamQueryLeaves streamQuery
  cases hqueried : run.queried with
  | some e => exact ⟨e, by rw [hcreated]; rfl, by rw [hcreated]; rfl⟩
  | none =>
    cases henter : run.entered with
    | some e => exact ⟨e, by rw [hcreated]; rfl, by rw [hcreated]; rfl⟩
    | none => exact absurd ⟨hcreated, hqueried, henter⟩ hentered

theorem firstFailure_entered (h : Entered run) : firstFailure limits schemaNames run =
    (loopFailure limits schemaNames run).or run.exit.failure := by
  obtain ⟨hcreated, hqueried, hentered⟩ := h
  rw [firstFailure, hcreated, hqueried, hentered]
  rfl

theorem streamQueryLeaves_entered (h : Entered run) : streamQueryLeaves u limits schemaNames run =
    leaves (convertClickHouseError u) closeError
      (afterExit run.exit (loopFailure limits schemaNames run)) (run.closed.map Subtype.val) := by
  obtain ⟨hcreated, hqueried, hentered⟩ := h
  unfold streamQueryLeaves streamQuery
  rw [hcreated, hqueried, hentered]
  rfl

/-- The stream context was entered and nothing failed in it. -/
theorem reports_loop_none (hentered : Entered run)
    (hloop : loopFailure limits schemaNames run = none) :
    KeepsFirst u limits schemaNames run ↔ Undisturbed limits schemaNames run := by
  have hquiet : ∀ e, loopFailure limits schemaNames run ≠ some e := by
    intro e h
    rw [hloop] at h
    cases h
  have hundisturbed : Undisturbed limits schemaNames run ↔
      ((∀ c, firstFailure limits schemaNames run ≠ some (.control c)) →
        Ordinary (run.closed.map Subtype.val)) := by
    constructor
    · exact fun h => h.closed hentered.1
    · intro h
      exact ⟨fun _ c hc => absurd hc (hquiet _), fun _ _ _ hc => absurd hc (hquiet _),
        fun _ _ hc => absurd hc (hquiet _), fun _ => h⟩
  rw [keepsFirst_iff_reports, hundisturbed, streamQueryLeaves_entered hentered,
    firstFailure_entered hentered, hloop]
  cases hexit : run.exit with
  | raised x =>
    show Reports (some x.val) _ _ (leaves _ _ (some x.val) _) ↔ _
    rw [reports_failure x.val fun h => h.2 hentered.1]
    constructor
    · exact fun h hcontrol => h fun c hc => hcontrol c (congrArg some hc)
    · exact fun h hcontrol => h fun c hc => hcontrol c (Option.some.inj hc)
  | returned suppress =>
    cases suppress with
    | false =>
      show Reports none _ _ (leaves _ _ none _) ↔ _
      rw [reports_none]
      exact ⟨fun h _ => h, fun h => h fun c hc => by cases hc⟩
    | true =>
      show Reports none _ _ (leaves _ _ none _) ↔ _
      rw [reports_none]
      exact ⟨fun h _ => h, fun h => h fun c hc => by cases hc⟩

theorem firstFailure_loop (hentered : Entered run) {e : Raised}
    (hloop : loopFailure limits schemaNames run = some e) :
    firstFailure limits schemaNames run = some e := by
  rw [firstFailure_entered hentered, hloop]
  rfl

/-- Control flow in flight is to be left alone by an ordinary cleanup. -/
theorem undisturbed_control (hentered : Entered run) {c : ControlFlow}
    (hloop : loopFailure limits schemaNames run = some (.control c)) :
    Undisturbed limits schemaNames run ↔
      (Ordinary run.exit.failure → Ordinary (run.closed.map Subtype.val) →
        run.exit = .returned false) := by
  constructor
  · exact fun h => h.control hentered c hloop
  · intro h
    refine ⟨fun _ _ _ => h, fun _ _ _ hother => ?_, fun _ _ hother => ?_,
      fun _ hcontrol => absurd (firstFailure_loop hentered hloop) (hcontrol c)⟩
    · rw [hloop] at hother
      cases hother
    · rw [hloop] at hother
      cases hother

/-- What is in flight and no control flow leaves only if the close raises none. -/
theorem Undisturbed.ordinary (h : Undisturbed limits schemaNames run) (hentered : Entered run)
    {e : Raised} (hloop : loopFailure limits schemaNames run = some e)
    (hcontrol : ∀ c, e ≠ .control c) : Ordinary (run.closed.map Subtype.val) := by
  apply h.closed hentered.1
  intro c hc
  rw [firstFailure_loop hentered hloop] at hc
  exact hcontrol c (Option.some.inj hc)

theorem undisturbed_daftOlap (hentered : Entered run) {kind : ErrorKind} {message : Message}
    (hloop : loopFailure limits schemaNames run = some (.daftOlap kind message)) :
    Undisturbed limits schemaNames run ↔
      run.exit = .returned false ∧ Ordinary (run.closed.map Subtype.val) := by
  constructor
  · exact fun h => ⟨h.daftOlap hentered _ _ hloop, h.ordinary hentered hloop (by simp)⟩
  · intro h
    refine ⟨fun _ _ hother => ?_, fun _ _ _ _ => h.1, fun _ _ hother => ?_, fun _ _ => h.2⟩
    · rw [hloop] at hother
      cases hother
    · rw [hloop] at hother
      cases hother

theorem undisturbed_driver (hentered : Entered run) {error : DriverError}
    (hloop : loopFailure limits schemaNames run = some (.driver error)) :
    Undisturbed limits schemaNames run ↔
      (run.exit ≠ .returned true ∧ Ordinary run.exit.failure) ∧
        Ordinary (run.closed.map Subtype.val) := by
  constructor
  · exact fun h => ⟨h.driver hentered _ hloop, h.ordinary hentered hloop (by simp)⟩
  · intro h
    refine ⟨fun _ _ hother => ?_, fun _ _ _ hother => ?_, fun _ _ _ => h.1, fun _ _ => h.2⟩
    · rw [hloop] at hother
      cases hother
    · rw [hloop] at hother
      cases hother

/-- The stream context was entered and `e` is in flight at its exit. -/
theorem reports_loop_some (hentered : Entered run) {e : Raised}
    (hloop : loopFailure limits schemaNames run = some e) :
    KeepsFirst u limits schemaNames run ↔ Undisturbed limits schemaNames run := by
  have hbody : ∀ kind message, e = .daftOlap kind message → e ∈ bodyErrors := by
    intro kind message he
    rw [he]
    exact forward_daftOlap (hloop.trans (congrArg some he))
  rw [keepsFirst_iff_reports, streamQueryLeaves_entered hentered, firstFailure_loop hentered hloop,
    hloop]
  cases hexit : run.exit with
  | raised x =>
    show Reports (some e) _ _ (leaves _ _ (some x.val) _) ↔ _
    rw [reports_replaced e x hbody fun h => ⟨h.1 hentered _ rfl, h.2 hentered.1⟩]
    cases e with
    | control c =>
      rw [undisturbed_control hentered hloop, hexit]
      constructor
      · intro h hordinary hclosed
        rcases h with ⟨_, -, hcleanup⟩ | ⟨_, hother, -⟩
        · exact absurd ⟨fun _ => hordinary, fun _ => hclosed⟩ hcleanup
        · cases hother
      · intro h
        refine Or.inl ⟨c, rfl, fun hcleanup => ?_⟩
        cases h (hcleanup.1 hentered) (hcleanup.2 hentered.1)
    | daftOlap kind message =>
      rw [undisturbed_daftOlap hentered hloop, hexit]
      refine iff_of_false ?_ fun h => by cases h.1
      rintro (⟨_, hother, -⟩ | ⟨_, hother, -⟩)
      · cases hother
      · cases hother
    | driver error =>
      rw [undisturbed_driver hentered hloop, hexit]
      constructor
      · intro h
        rcases h with ⟨_, hother, -⟩ | ⟨_, -, hexception, hclosed⟩
        · cases hother
        · refine ⟨⟨by simp, fun e he => ?_⟩, hclosed⟩
          rw [← Option.some.inj he]
          exact hexception
      · intro h
        exact Or.inr ⟨error, rfl, h.1.2 _ rfl, h.2⟩
  | returned suppress =>
    have hordinary : Ordinary run.exit.failure := by
      rw [hexit]
      intro e he
      cases he
    cases suppress with
    | false =>
      show Reports (some e) _ _ (leaves _ _ (some e) _) ↔ _
      rw [reports_failure e fun h => h.2 hentered.1]
      cases e with
      | control c =>
        rw [undisturbed_control hentered hloop]
        exact iff_of_true (fun h => absurd rfl (h c)) fun _ _ => hexit
      | daftOlap kind message =>
        rw [undisturbed_daftOlap hentered hloop]
        exact ⟨fun h => ⟨hexit, h (by simp)⟩, fun h _ => h.2⟩
      | driver error =>
        have hkept : run.exit ≠ .returned true := by
          rw [hexit]
          simp
        rw [undisturbed_driver hentered hloop]
        exact ⟨fun h => ⟨⟨hkept, hordinary⟩, h (by simp)⟩, fun h _ => h.2⟩
    | true =>
      show Reports (some e) _ _ (leaves _ _ none _) ↔ _
      rw [reports_suppressed e hbody fun h => h.2 hentered.1]
      have hsuppressed : run.exit ≠ .returned false := by
        rw [hexit]
        simp
      cases e with
      | control c =>
        rw [undisturbed_control hentered hloop]
        constructor
        · intro h _ hclosed
          obtain ⟨_, -, hcleanup⟩ := h
          rw [hexit] at hordinary
          exact absurd ⟨fun _ => hordinary, fun _ => hclosed⟩ hcleanup
        · intro h
          refine ⟨c, rfl, fun hcleanup => ?_⟩
          exact hsuppressed (h hordinary (hcleanup.2 hentered.1))
      | daftOlap kind message =>
        rw [undisturbed_daftOlap hentered hloop]
        exact iff_of_false (by simp) fun h => hsuppressed h.1
      | driver error =>
        rw [undisturbed_driver hentered hloop]
        exact iff_of_false (by simp) fun h => h.1.1 hexit

/-- The first failure leaves exactly where the cleanup does not get in its way. -/
theorem keepsFirst_iff (u : CaseData) (limits : ResourceLimits) (schemaNames : List Text)
    (run : StreamRun V) : KeepsFirst u limits schemaNames run ↔
      Undisturbed limits schemaNames run := by
  cases hcreated : run.created with
  | some e =>
    have hnone : run.created ≠ none := by
      rw [hcreated]
      exact Option.some_ne_none e
    refine iff_of_true (keepsFirst_created hcreated) ⟨?_, ?_, ?_, fun h => absurd h hnone⟩
    · exact fun h => absurd h.1 hnone
    · exact fun h => absurd h.1 hnone
    · exact fun h => absurd h.1 hnone
  | none =>
    by_cases hentered : Entered run
    · cases hloop : loopFailure limits schemaNames run with
      | none => exact reports_loop_none hentered hloop
      | some e => exact reports_loop_some hentered hloop
    · obtain ⟨e, hfirst, hleaves⟩ : ∃ e : External, firstFailure limits schemaNames run = some e.val ∧
          streamQueryLeaves u limits schemaNames run = leaves (convertClickHouseError u) closeError
            (some e.val) (run.closed.map Subtype.val) := early_failure hcreated hentered
      rw [keepsFirst_iff_reports, hfirst, hleaves, reports_failure e.val (fun h => h.2 hcreated)]
      constructor
      · intro h
        refine ⟨fun h => absurd h hentered, fun h => absurd h hentered, fun h => absurd h hentered,
          fun _ hcontrol => h fun c hc => hcontrol c ?_⟩
        rw [hfirst, hc]
      · intro h hcontrol
        apply h.closed hcreated
        intro c hc
        rw [hfirst] at hc
        exact hcontrol c (Option.some.inj hc)

end Main

/-- The consumer closes the generator at its first yield, and the exit of the stream context
fails. -/
def closedAtFirstYield : StreamRun Nat where
  created := none
  queried := none
  entered := none
  items := [.batch ⟨[str "id"], true, .ok ⟨[1], fun _ length => length⟩, .ok 1, .ok []⟩]
  stopped := none
  thrown _ := some ⟨.control .generatorExit, id⟩
  exit := .raised ⟨.driver {}, id⟩
  closed := none

theorem loopFailure_closedAtFirstYield :
    loopFailure exampleLimits [str "id"] closedAtFirstYield =
      some (.control .generatorExit) := by
  have hslices : iterBatchSlices ⟨[1], fun _ length => length⟩ exampleLimits = [(0, 1)] := by
    simp [iterBatchSlices, iterBatchSlicesFrom, sliceSize, RecordBatch.numRows, exampleLimits]
  unfold loopFailure closedAtFirstYield forward
  simp [castBatch, castBatches, Except.map, hslices, deliver]

/-- A connector error leaves instead of the `GeneratorExit`. -/
theorem not_keepsFirst_closedAtFirstYield :
    ¬ KeepsFirst .superscriptTwo exampleLimits [str "id"] closedAtFirstYield := by
  intro h
  have hentered : Entered closedAtFirstYield := ⟨rfl, rfl, rfl⟩
  have hleaves := h.control .generatorExit
    (by rw [firstFailure_entered hentered, loopFailure_closedAtFirstYield]; rfl)
    (fun _ e he => by rw [← Option.some.inj he]; exact trivial) (fun _ e he => by cases he)
  rw [streamQueryLeaves_entered hentered] at hleaves
  cases hleaves

end ClickHouse
end DaftOlap
