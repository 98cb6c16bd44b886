/-
Streaming over the MySQL protocol (`doris/transports/mysql.py`).

A run of `stream_query` is given by what the driver and the consumer do: the rows of the
result, what fails and when, and what the consumer throws in at a yield.  The reader asks
for rows until it gets none, so the number it asks for must never become zero.
-/
import DaftOlap.Doris.Errors
import DaftOlap.Python.Value

namespace DaftOlap
namespace Doris

open Python

/-! ## Converting rows -/

/-- Why a value has no Arrow form: one of the exceptions `_array_for_field` expects, or
another one. -/
inductive ConversionFailure
  | mismatch
  | other (exception : Raised)

/-- The planned type of a column; the code asks only whether it is decimal or boolean. -/
structure MySqlField (T : Type) where
  name : Text
  type : T

/-- What the reader uses of `pyarrow` and `decimal`. -/
structure Arrow (T V : Type) where
  isDecimal : T → Bool
  isBoolean : T → Bool
  /-- `Decimal(str(value))`. -/
  decimal : PyValue → Except ConversionFailure PyValue
  /-- What `pa.array(values, type)` makes of one of the values. -/
  value : T → PyValue → Except ConversionFailure V
  /-- `batch.slice(offset, length).nbytes`. -/
  sliceBytes : List (List V) → Nat → Nat → Nat

variable {T V : Type}

/-- `coerce_decimal`. -/
def coerceDecimal (arrow : Arrow T V) : PyValue → Except ConversionFailure PyValue
  | .none => .ok .none
  | .decimal d => .ok (.decimal d)
  | value => arrow.decimal value

def normalizeBoolean : PyValue → Except ConversionFailure PyValue
  | .none => .ok .none
  | .bool b => .ok (.bool b)
  | .int 0 => .ok (.bool false)
  | .int 1 => .ok (.bool true)
  | _ => .error (.other (.daftOlap .schema "Doris returned an invalid BOOLEAN value"))

/-- What `_normalize_values` makes of one value. -/
def normalizeValue (arrow : Arrow T V) (type : T) (value : PyValue) :
    Except ConversionFailure PyValue :=
  if arrow.isDecimal type then coerceDecimal arrow value
  else if arrow.isBoolean type then normalizeBoolean value
  else .ok value

/-- `_array_for_field`. -/
def arrayForField (arrow : Arrow T V) (values : List PyValue) (field : MySqlField T) :
    Except Raised (List V) :=
  match values.mapM (normalizeValue arrow field.type) >>= fun normalized =>
      normalized.mapM (arrow.value field.type) with
  | .ok array => .ok array
  | .error (.other e) => .error e
  | .error .mismatch => .error (.daftOlap .schema
      [.text "Doris column ", .repr field.name, .text " does not match its planned type"])

/-- The rows of `pa.RecordBatch.from_arrays(arrays)`. -/
def fromArrays (arrays : List (List V)) : List (List V) :=
  (List.range (arrays.head?.elim 0 List.length)).map fun n => arrays.filterMap (·[n]?)

/-- Convert one bounded row batch using only the canonical schema. -/
def rowsToBatch (arrow : Arrow T V) (rows : List (List PyValue)) (columnNames : List Text)
    (schema : List (MySqlField T)) : Except Raised (RecordBatch (List V)) := do
  if columnNames ≠ schema.map MySqlField.name then
    throw (.daftOlap .schema "Doris MySQL result columns do not match the planned schema")
  if rows.any (·.length ≠ schema.length) then
    throw (.daftOlap .schema "Doris MySQL returned a row with an unexpected column count")
  let arrays ← schema.zipIdx.mapM fun field =>
    arrayForField arrow (rows.map (·.getD field.2 .none)) field.1
  return ⟨fromArrays arrays, arrow.sliceBytes (fromArrays arrays)⟩

/-! ## The stream -/

/-- What the driver and the consumer do in a run. -/
structure MySqlRun where
  /-- `_open`: the names of the result's columns. -/
  opened : Except Raised (List Text)
  /-- A result has a column. -/
  names_ne_nil : ∀ names, opened = .ok names → names ≠ []
  rows : List (List PyValue)
  /-- What the call number `n` of `next_batch` raises, before or instead of the fetch. -/
  fetchFailure : Nat → Option Raised
  thrown : Nat → Option Raised
  closed : Option Raised

structure MySqlStream (V : Type) where
  /-- The arguments of `fetchmany`. -/
  fetches : List Nat
  yielded : List (RecordBatch (List V))
  /-- The first exception. -/
  failure : Option Raised

/-- The size of the next fetch. -/
def nextFetchRows (batch : RecordBatch (List V)) (limits : ResourceLimits) (fetchRows : Nat) :
    Nat :=
  if limits.batchBytes < batch.nbytes then
    min fetchRows (max 1 (batch.numRows * limits.batchBytes / max batch.nbytes 1))
  else fetchRows

/-- The loop of `stream_query`, with `_fetch`: `fetched` fetches and `count` yields have been
made, and `rows` are still in the cursor. -/
def pullBatches (arrow : Arrow T V) (limits : ResourceLimits) (run : MySqlRun)
    (columnNames : List Text) (schema : List (MySqlField T)) (fetchRows fetched count : Nat)
    (rows : List (List PyValue)) : MySqlStream V :=
  match run.fetchFailure fetched with
  | some e => ⟨[fetchRows], [], some e⟩
  | none =>
    if _h : rows.take fetchRows = [] then ⟨[fetchRows], [], none⟩
    else
      match rowsToBatch arrow (rows.take fetchRows) columnNames schema with
      | .error e => ⟨[fetchRows], [], some e⟩
      | .ok batch =>
        match deliver run.thrown count ((iterBatchSlices batch limits).map batch.bounded) with
        | (yielded, some e) => ⟨[fetchRows], yielded, some e⟩
        | (yielded, none) =>
          let later := pullBatches arrow limits run columnNames schema
            (nextFetchRows batch limits fetchRows) (fetched + 1) (count + yielded.length)
            (rows.drop fetchRows)
          ⟨fetchRows :: later.fetches, yielded ++ later.yielded, later.failure⟩
termination_by rows.length
decreasing_by
  have hfetch : fetchRows ≠ 0 ∧ rows ≠ [] := by
    rwa [List.take_eq_nil_iff, not_or] at _h
  have := List.length_pos_iff.mpr hfetch.2
  rw [List.length_drop]
  omega

/-- The body of `stream_query`. -/
def streamQuery (arrow : Arrow T V) (limits : ResourceLimits) (run : MySqlRun)
    (schema : List (MySqlField T)) : MySqlStream V :=
  match run.opened with
  | .error e => ⟨[], [], some e⟩
  | .ok columnNames =>
    pullBatches arrow limits run columnNames schema limits.batchRows 0 0 run.rows

/-- What leaves `stream_query`. -/
def streamQueryLeaves (u : CaseData) (run : MySqlRun) (stream : MySqlStream V) : Option Raised :=
  leaves (convertDorisError u "MySQL")
    (.daftOlap .transport "failed to close Doris MySQL resources") stream.failure run.closed

/-! ## Rows -/

/-- The Arrow value of a cell. -/
def fieldValue (arrow : Arrow T V) (field : MySqlField T) (cell : PyValue) :
    Except ConversionFailure V :=
  normalizeValue arrow field.type cell >>= arrow.value field.type

/-- A result row fits the planned schema, and these are its Arrow values. -/
def Fits (arrow : Arrow T V) (schema : List (MySqlField T)) (row : List PyValue)
    (values : List V) : Prop :=
  row.length = schema.length ∧
    List.Forall₂ (fun (cell : MySqlField T × PyValue) value =>
      fieldValue arrow cell.1 cell.2 = .ok value) (schema.zip row) values

variable {arrow : Arrow T V} {schema : List (MySqlField T)}

theorem arrayForField_eq_ok {values : List PyValue} {field : MySqlField T} {array : List V} :
    arrayForField arrow values field = .ok array ↔
      List.Forall₂ (fun cell value => fieldValue arrow field cell = .ok value) values array := by
  rw [← mapM_eq_ok]
  unfold fieldValue
  rw [← mapM_bind_mapM_eq_ok]
  unfold arrayForField
  split
  · next array' h => rw [h, Except.ok.injEq, Except.ok.injEq]
  · next e h => simp [h]
  · next h => simp [h]

/-- The cells of a row beside their fields. -/
theorem zip_eq_map_zipIdx {α β : Type} (xs : List α) (ys : List β) (default : β)
    (h : ys.length = xs.length) :
    xs.zip ys = xs.zipIdx.map fun x => (x.1, ys.getD x.2 default) := by
  apply List.ext_getElem
  · simp [h]
  · intro n hn hn'
    have hy : n < ys.length := by
      rw [List.length_zip] at hn
      omega
    simp [hy]

theorem forall₂_filterMap {α β γ : Type} {R : α → γ → Prop} {f : β → Option γ} {xs : List α}
    {ys : List β} (h : List.Forall₂ (fun x y => ∃ z, f y = some z ∧ R x z) xs ys) :
    List.Forall₂ R xs (ys.filterMap f) := by
  induction h with
  | nil => exact .nil
  | cons hxy hrest ih =>
    obtain ⟨z, hz, hR⟩ := hxy
    rw [List.filterMap_cons, hz]
    exact .cons hR ih

/-- Column by column is row by row. -/
theorem forall₂_fits_fromArrays {rows : List (List PyValue)} {arrays : List (List V)}
    (hschema : schema ≠ []) (hlength : ∀ row ∈ rows, row.length = schema.length)
    (hcolumns : List.Forall₂ (fun (field : MySqlField T × Nat) array =>
      arrayForField arrow (rows.map (·.getD field.2 .none)) field.1 = .ok array)
      schema.zipIdx arrays) :
    List.Forall₂ (Fits arrow schema) rows (fromArrays arrays) := by
  have hcount : arrays.head?.elim 0 List.length = rows.length := by
    cases schema with
    | nil => exact absurd rfl hschema
    | cons field fields =>
      rw [List.zipIdx_cons, List.forall₂_cons_left_iff] at hcolumns
      obtain ⟨array, others, hfirst, -, rfl⟩ := hcolumns
      have := (arrayForField_eq_ok.mp hfirst).length_eq
      rw [List.length_map] at this
      exact this.symm
  rw [List.forall₂_iff_get]
  refine ⟨by simp [fromArrays, hcount], ?_⟩
  intro n hn hn'
  have hrow : Fits arrow schema rows[n] (arrays.filterMap (·[n]?)) := by
    have hlen := hlength rows[n] (List.getElem_mem hn)
    refine ⟨hlen, ?_⟩
    rw [zip_eq_map_zipIdx schema rows[n] .none hlen, List.forall₂_map_left_iff]
    apply forall₂_filterMap
    refine hcolumns.imp ?_
    intro field array harray
    have hcells := arrayForField_eq_ok.mp harray
    have hna : n < array.length := by
      have := hcells.length_eq
      rw [List.length_map] at this
      omega
    refine ⟨array[n], List.getElem?_eq_getElem hna, ?_⟩
    have := hcells.get (i := n) (by simpa using hn) hna
    simpa using this
  simpa [fromArrays] using hrow

/-- A batch is made exactly of rows that fit, and has their values. -/
theorem rowsToBatch_eq_ok {rows : List (List PyValue)} {columnNames : List Text}
    {batch : RecordBatch (List V)} (hnames : columnNames ≠ [])
    (h : rowsToBatch arrow rows columnNames schema = .ok batch) :
    columnNames = schema.map MySqlField.name ∧
      List.Forall₂ (Fits arrow schema) rows batch.rows := by
  unfold rowsToBatch at h
  by_cases hmatch : columnNames = schema.map MySqlField.name
  · rw [if_neg (not_not.mpr hmatch)] at h
    by_cases hcount : (rows.any (·.length ≠ schema.length)) = true
    · rw [if_pos hcount] at h
      cases h
    · rw [if_neg hcount] at h
      obtain ⟨arrays, harrays, hbatch⟩ := bind_eq_ok.mp h
      have hlength : ∀ row ∈ rows, row.length = schema.length := by
        intro row hrow
        by_contra hne
        exact hcount (List.any_eq_true.mpr ⟨row, hrow, decide_eq_true hne⟩)
      have hschema : schema ≠ [] := by
        intro hnil
        rw [hnil] at hmatch
        exact hnames hmatch
      refine ⟨hmatch, ?_⟩
      rw [← Except.ok.inj hbatch]
      exact forall₂_fits_fromArrays hschema hlength (mapM_eq_ok.mp harrays)
  · rw [if_pos hmatch] at h
    cases h

section Run

variable {limits : ResourceLimits} {run : MySqlRun} {columnNames : List Text}

theorem nextFetchRows_range (batch : RecordBatch (List V)) {fetchRows : Nat} (h : 1 ≤ fetchRows) :
    1 ≤ nextFetchRows batch limits fetchRows ∧
      nextFetchRows batch limits fetchRows ≤ fetchRows := by
  unfold nextFetchRows
  split
  · omega
  · omega

/-- The rows of what has been yielded are those of the first rows of the result. -/
theorem pullBatches_take (hnames : columnNames ≠ []) {fetchRows fetched count : Nat}
    {rows : List (List PyValue)} :
    ∃ n, List.Forall₂ (Fits arrow schema) (rows.take n)
      ((pullBatches arrow limits run columnNames schema fetchRows fetched count rows).yielded.flatMap
        RecordBatch.rows) := by
  fun_induction pullBatches arrow limits run columnNames schema fetchRows fetched count rows with
  | case1 fetchRows fetched count rows e hfailure => exact ⟨0, .nil⟩
  | case2 fetchRows fetched count rows hfailure hend => exact ⟨0, .nil⟩
  | case3 fetchRows fetched count rows hfailure hmore e hbatch => exact ⟨0, .nil⟩
  | case4 fetchRows fetched count rows hfailure hmore batch hbatch yielded e hdeliver =>
    have hfits := (rowsToBatch_eq_ok hnames hbatch).2
    obtain ⟨⟨others, hothers⟩, -⟩ := interrupted_of_deliver hdeliver
    rw [← flatMap_bounded batch limits, ← hothers, List.flatMap_append] at hfits
    have hfirst := List.forall₂_take_append _ _ _ hfits
    rw [List.take_take] at hfirst
    exact ⟨_, hfirst⟩
  | case5 fetchRows fetched count rows hfailure hmore batch hbatch yielded hdeliver later ih =>
    have hfits := (rowsToBatch_eq_ok hnames hbatch).2
    obtain ⟨hall, -⟩ := delivered_of_deliver hdeliver
    obtain ⟨n, hn⟩ := ih
    refine ⟨fetchRows + n, ?_⟩
    rw [List.take_add, List.flatMap_append, hall, flatMap_bounded]
    exact List.rel_append hfits hn

/-- If nothing is raised the cursor is empty in the end. -/
theorem pullBatches_complete (hnames : columnNames ≠ []) {fetchRows fetched count : Nat}
    {rows : List (List PyValue)} (h : 1 ≤ fetchRows)
    (hdone : (pullBatches arrow limits run columnNames schema fetchRows fetched count
      rows).failure = none) :
    List.Forall₂ (Fits arrow schema) rows
      ((pullBatches arrow limits run columnNames schema fetchRows fetched count rows).yielded.flatMap
        RecordBatch.rows) ∧
    (∀ k < (pullBatches arrow limits run columnNames schema fetchRows fetched count
      rows).fetches.length, run.fetchFailure (fetched + k) = none) ∧
    ∀ k < (pullBatches arrow limits run columnNames schema fetchRows fetched count
      rows).yielded.length, run.thrown (count + k) = none := by
  fun_induction pullBatches arrow limits run columnNames schema fetchRows fetched count rows with
  | case1 fetchRows fetched count rows e hfailure => cases hdone
  | case2 fetchRows fetched count rows hfailure hend =>
    have hrows : rows = [] := by
      rcases List.take_eq_nil_iff.mp hend with hzero | hnil
      · omega
      · exact hnil
    rw [hrows]
    refine ⟨.nil, ?_, fun k hk => absurd hk (Nat.not_lt_zero k)⟩
    intro k hk
    obtain rfl : k = 0 := Nat.lt_one_iff.mp hk
    exact hfailure
  | case3 fetchRows fetched count rows hfailure hmore e hbatch => cases hdone
  | case4 fetchRows fetched count rows hfailure hmore batch hbatch yielded e hdeliver => cases hdone
  | case5 fetchRows fetched count rows hfailure hmore batch hbatch yielded hdeliver later ih =>
    have hfits := (rowsToBatch_eq_ok hnames hbatch).2
    obtain ⟨hall, hquiet⟩ := delivered_of_deliver hdeliver
    obtain ⟨hrest, hfetches, hyields⟩ := ih (nextFetchRows_range batch h).1 hdone
    refine ⟨?_, ?_, ?_⟩
    · rw [← List.take_append_drop fetchRows rows, List.flatMap_append, hall, flatMap_bounded]
      exact List.rel_append hfits hrest
    · intro k hk
      by_cases hzero : k = 0
      · rw [hzero]
        exact hfailure
      · have hlater := hfetches (k - 1)
          (show k - 1 < later.fetches.length by rw [List.length_cons] at hk; omega)
        rwa [show fetched + 1 + (k - 1) = fetched + k by omega] at hlater
    · intro k hk
      by_cases hnow : k < yielded.length
      · exact hquiet k hnow
      · have hlater := hyields (k - yielded.length)
          (show k - yielded.length < later.yielded.length by
            rw [List.length_append] at hk
            omega)
        rwa [show count + yielded.length + (k - yielded.length) = count + k by omega] at hlater

end Run

/-- What holds of a run of `stream_query`. -/
structure Delivers (u : CaseData) (arrow : Arrow T V) (limits : ResourceLimits) (run : MySqlRun)
    (schema : List (MySqlField T)) (stream : MySqlStream V) : Prop where
  batches : ∀ batch ∈ stream.yielded,
    1 ≤ batch.numRows ∧ batch.numRows ≤ limits.batchRows ∧
      (batch.nbytes ≤ limits.batchBytes ∨ batch.numRows = 1)
  fetches : ∀ n ∈ stream.fetches, 1 ≤ n ∧ n ≤ limits.batchRows
  fetches_ge : stream.fetches.Pairwise (· ≥ ·)
  /-- However the run ends, the rows of its batches are the first rows of the result. -/
  take : ∃ n, List.Forall₂ (Fits arrow schema) (run.rows.take n)
    (stream.yielded.flatMap RecordBatch.rows)
  /-- Without an exception the result was opened, no fetch failed, and all rows were yielded. -/
  complete : stream.failure = none → (∃ names, run.opened = .ok names) ∧
    List.Forall₂ (Fits arrow schema) run.rows (stream.yielded.flatMap RecordBatch.rows) ∧
    (∀ n < stream.fetches.length, run.fetchFailure n = none) ∧
    ∀ n < stream.yielded.length, run.thrown n = none
  raised : ∀ e, stream.failure = some e → run.opened = .error e ∨
    (∃ n, n + 1 = stream.fetches.length ∧ run.fetchFailure n = some e) ∨
    (∃ n, n + 1 = stream.yielded.length ∧ run.thrown n = some e) ∨
    ∃ names first n, run.opened = .ok names ∧
      rowsToBatch arrow ((run.rows.drop first).take n) names schema = .error e
  fits : run.opened = .ok (schema.map MySqlField.name) →
    (∀ row ∈ run.rows, ∃ values, Fits arrow schema row values) →
    (∀ n, run.fetchFailure n = none) → (∀ n, run.thrown n = none) → stream.failure = none
  /-- The stream ends normally only if nothing failed. -/
  ends : streamQueryLeaves u run stream = none ↔ stream.failure = none ∧ run.closed = none
  /-- Unless closing is interrupted, an exception leaves as itself or as a connector error. -/
  leaves : (∀ c, run.closed ≠ some (.control c)) → ∀ e, stream.failure = some e →
    ((∀ error, e ≠ .driver error) → streamQueryLeaves u run stream = some e) ∧
    ∀ error, e = .driver error → ∃ kind message,
      streamQueryLeaves u run stream = some (.daftOlap kind message)
  closed : stream.failure = none → ∀ e, run.closed = some e → e.IsException →
    streamQueryLeaves u run stream =
      some (.daftOlap .transport "failed to close Doris MySQL resources")

end Doris
end DaftOlap
