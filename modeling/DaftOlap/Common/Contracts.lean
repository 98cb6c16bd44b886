/-
Cross-database resource and query contracts (`_common/contracts.py`).

`ResourceLimits` and `QueryParameters` carry what their constructors check.  A value
that was frozen is immutable here, so taking a snapshot of it again is the identity.
The timeouts, which no modelled function reads, are left out.
-/
import DaftOlap.Python.Except
import DaftOlap.Python.Value
import DaftOlap.Scan.Group

namespace DaftOlap

open Python

/-- `SplitMode`. -/
inductive SplitMode
  | single
  | auto
deriving DecidableEq, Repr

/-- `DiscoveryPolicy`. -/
inductive DiscoveryPolicy
  | single
  | error
deriving DecidableEq, Repr

/-- A computation that either is done or asks one question first. -/
inductive Planning (Q A R : Type)
  | done (result : R)
  | ask (question : Q) (next : A → R)

/-- The result, given who answers. -/
def Planning.run {Q A R : Type} (answer : Q → A) : Planning Q A R → R
  | done result => result
  | ask question next => next (answer question)

/-- The question it asks, if it asks one. -/
def Planning.question? {Q A R : Type} : Planning Q A R → Option Q
  | done _ => none
  | ask question _ => some question

/-! ## Resource limits -/

def maxBatchRows : Nat := 1000000
def maxBatchBytes : Nat := 1024 * 1024 * 1024
def maxTasks : Nat := 1024

/-- Validated connector bounds applied to every connector invocation. -/
structure ResourceLimits where
  batchRows : Nat
  batchBytes : Nat
  targetTasks : Nat
  maxTasks : Nat
  batchRows_valid : 1 ≤ batchRows ∧ batchRows ≤ maxBatchRows
  batchBytes_valid : 1 ≤ batchBytes ∧ batchBytes ≤ maxBatchBytes
  targetTasks_valid : 1 ≤ targetTasks ∧ targetTasks ≤ DaftOlap.maxTasks
  maxTasks_valid : 1 ≤ maxTasks ∧ maxTasks ≤ DaftOlap.maxTasks
  target_le_max : targetTasks ≤ maxTasks

/-- Batches of 64 KiB and 65536 rows, eight tasks of at most 256. -/
def exampleLimits : ResourceLimits :=
  ⟨65536, 65536, 8, 256, by decide, by decide, by decide, by decide, by decide⟩

/-- An integer that is no `bool`, between 1 and an upper bound. -/
def checkBound (message : String) (upper : Nat) (value : PyValue) :
    Except PyException { n : Nat // 1 ≤ n ∧ n ≤ upper } :=
  match value with
  | .int z =>
    if h : 1 ≤ z.toNat ∧ z.toNat ≤ upper then .ok ⟨z.toNat, h⟩
    else .error (configurationError message)
  | _ => .error (configurationError message)

/-- `ResourceLimits(batch_rows, batch_bytes, target_tasks, max_tasks)`. -/
def resourceLimits (batchRows batchBytes targetTasks maxTasks : PyValue) :
    Except PyException ResourceLimits := do
  let rows ← checkBound "batch_rows must be between 1 and 1,000,000" maxBatchRows batchRows
  let bytes ← checkBound "batch_bytes must be between 1 and 1,073,741,824" maxBatchBytes batchBytes
  let target ← checkBound "target_tasks must be between 1 and 1,024" DaftOlap.maxTasks targetTasks
  let max ← checkBound "max_tasks must be between 1 and 1,024" DaftOlap.maxTasks maxTasks
  if h : target.1 ≤ max.1 then
    .ok ⟨rows.1, bytes.1, target.1, max.1, rows.2, bytes.2, target.2, max.2, h⟩
  else .error (configurationError "target_tasks must not exceed max_tasks")

/-- The defaults of the constructor pass its own checks. -/
example : (resourceLimits (.int 65536) (.int (64 * 1024 * 1024)) (.int 8) (.int 256)).isOk = true :=
  by decide

/-! ## Query parameters -/

/-- The check of `validate_query_parameter_values` on one value that is no container. -/
def checkNaive (value : PyValue) : Except PyException Unit :=
  if value.isTimezoneAware then
    .error (configurationError
      "timezone-aware datetime and time query parameters are not supported")
  else .ok ()

/-- Query parameters in caller-specified order. -/
structure QueryParameters where
  items : List (Text × PyValue)
  names_nonempty : ∀ item ∈ items, item.1 ≠ []
  naive : ∀ item ∈ items, item.2.isTimezoneAware = false

def QueryParameters.empty : QueryParameters := ⟨[], by simp, by simp⟩

/-! ## Schemas -/

/-- A field of an Arrow schema. -/
structure ArrowField where
  name : Text
  type : Text
deriving DecidableEq

/-- One column of integers. -/
def exampleFields : List ArrowField := [⟨str "id", str "int64"⟩]

theorem nodup_exampleFields : (exampleFields.map ArrowField.name).Nodup := List.nodup_singleton _

/-- `project_schema`, which both connectors have: project a canonical schema in
caller-provided order. -/
def projectSchema (schema : List ArrowField) (columns : List Text) :
    Except PyException (List ArrowField) :=
  columns.mapM fun column =>
    match schema.filter (·.name = column) with
    | [field] => .ok field
    | _ => .error .keyError

theorem filter_name_eq_singleton {schema : List ArrowField}
    (hnodup : (schema.map ArrowField.name).Nodup) {field : ArrowField} (h : field ∈ schema) :
    schema.filter (·.name = field.name) = [field] := by
  induction schema with
  | nil => cases h
  | cons f schema ih =>
    rw [List.map_cons, List.nodup_cons] at hnodup
    rcases List.mem_cons.mp h with rfl | h
    · have hrest : schema.filter (·.name = field.name) = [] := by
        refine List.filter_eq_nil_iff.mpr fun g hg hname => hnodup.1 ?_
        rw [← of_decide_eq_true hname]
        exact List.mem_map_of_mem hg
      rw [List.filter_cons_of_pos (by simp), hrest]
    · have hne : f.name ≠ field.name := fun heq => hnodup.1 (heq ▸ List.mem_map_of_mem h)
      rw [List.filter_cons_of_neg (by simpa using hne), ih hnodup.2 h]

/-- A projected schema has the columns asked for. -/
theorem projectSchema_names {schema projected : List ArrowField} {columns : List Text}
    (h : projectSchema schema columns = .ok projected) :
    projected.map ArrowField.name = columns := by
  induction mapM_eq_ok.mp h with
  | nil => rfl
  | @cons column field columns fields hfield hrest ih =>
    have hname : field.name = column := by
      split at hfield
      · next found hfound =>
        obtain rfl := Except.ok.inj hfield
        have hmem : found ∈ schema.filter (·.name = column) := hfound ▸ List.mem_singleton_self _
        exact of_decide_eq_true (List.mem_filter.mp hmem).2
      · cases hfield
    rw [List.map_cons, hname, ih (mapM_eq_ok.mpr hrest)]

/-- A schema without a name twice is projected to any of its names. -/
theorem exists_projectSchema {schema : List ArrowField}
    (hnodup : (schema.map ArrowField.name).Nodup) {columns : List Text}
    (h : ∀ c ∈ columns, c ∈ schema.map ArrowField.name) :
    ∃ projected, projectSchema schema columns = .ok projected := by
  refine exists_mapM_eq_ok fun c hc => ?_
  obtain ⟨field, hfield, rfl⟩ := List.mem_map.mp (h c hc)
  exact ⟨field, by rw [filter_name_eq_singleton hnodup hfield]⟩

/-! ## Queries -/

/-- A picklable SQL statement, bound values, and canonical Arrow result schema. -/
structure QuerySpec where
  sql : Text
  positionalParameters : List PyValue := []
  namedParameters : List (Text × PyValue) := []
  arrowSchema : List ArrowField := []
deriving DecidableEq

/-- `QuerySpec(...)`, which checks its fields. -/
def QuerySpec.checked (spec : QuerySpec) : Except PyException QuerySpec :=
  if spec.sql = [] then .error (configurationError "query SQL must not be empty")
  else if spec.positionalParameters ≠ [] ∧ spec.namedParameters ≠ [] then
    .error (configurationError "a query cannot mix positional and named parameters")
  else do
    spec.positionalParameters.forM checkNaive
    spec.namedParameters.forM fun p => checkNaive p.2
    return spec

theorem QuerySpec.checked_eq_ok {spec result : QuerySpec} (h : spec.checked = .ok result) :
    result = spec := by
  unfold QuerySpec.checked at h
  split at h
  · cases h
  · split at h
    · cases h
    · obtain ⟨_, -, h⟩ := bind_eq_ok.mp h
      obtain ⟨_, -, h⟩ := bind_eq_ok.mp h
      exact (Except.ok.inj h).symm

/-- A query with SQL, one kind of parameters and naive values passes. -/
theorem QuerySpec.checked_of_naive {spec : QuerySpec} (hsql : spec.sql ≠ [])
    (hkind : spec.positionalParameters = [] ∨ spec.namedParameters = [])
    (hpositional : ∀ v ∈ spec.positionalParameters, v.isTimezoneAware = false)
    (hnamed : ∀ p ∈ spec.namedParameters, p.2.isTimezoneAware = false) :
    spec.checked = .ok spec := by
  have hcheck : ∀ v : PyValue, v.isTimezoneAware = false → checkNaive v = .ok () := by
    intro v hv
    rw [checkNaive, hv, if_neg (by decide)]
  have hmixed : ¬ (spec.positionalParameters ≠ [] ∧ spec.namedParameters ≠ []) := by
    rintro ⟨hp, hn⟩
    exact hkind.elim hp hn
  rw [QuerySpec.checked, if_neg hsql, if_neg hmixed,
    forM_eq_ok.mpr fun v hv => hcheck v (hpositional v hv),
    forM_eq_ok.mpr fun p hp => hcheck p.2 (hnamed p hp)]
  rfl

/-! ## Weighted groups -/

/-- A bucket of `group_weighted_items`, whose two lists are kept as one. -/
structure Bucket where
  weight : Int := 0
  names : List Text := []

/-- The first bucket with the least weight. -/
def lightest (buckets : List Bucket) : Nat :=
  buckets.findIdx fun b => buckets.all fun c => b.weight ≤ c.weight

/-- Put one item into the lightest bucket. -/
def addItem (buckets : List Bucket) (item : Text × Int) : List Bucket :=
  buckets.modify (lightest buckets) fun b =>
    { names := b.names ++ [item.1], weight := b.weight + max item.2 0 }

/-- The order in which items are handed out: heavier first, then by name. -/
def itemLe (a b : Text × Int) : Bool := b.2 < a.2 || (a.2 == b.2 && Text.ble a.1 b.1)

/-- Greedily balance deterministic weighted items without exceeding a hard group cap. -/
def groupWeightedItems (items : List (Text × Int)) (targetGroups maxGroups : Nat) :
    List (List Text) :=
  if items = [] then []
  else
    let groupCount := min (min items.length targetGroups) maxGroups
    let buckets := (items.mergeSort itemLe).foldl addItem (List.replicate groupCount {})
    (buckets.filter fun b => b.names ≠ []).map fun b => Text.sorted b.names

theorem lightest_lt {buckets : List Bucket} (h : buckets ≠ []) :
    lightest buckets < buckets.length := by
  rw [lightest, List.findIdx_lt_length]
  obtain ⟨b, hb, hmin⟩ := Scan.exists_minimal h Bucket.weight
  exact ⟨b, hb, by simpa using hmin⟩

/-- The invariant of the loop: it adds the names of its items and no bucket. -/
theorem foldl_addItem {buckets : List Bucket} (h : buckets ≠ []) (items : List (Text × Int)) :
    (items.foldl addItem buckets).length = buckets.length ∧
      ((items.foldl addItem buckets).flatMap Bucket.names).Perm
        (buckets.flatMap Bucket.names ++ items.map Prod.fst) := by
  induction items generalizing buckets with
  | nil => simp
  | cons item items ih =>
    have hlength : (addItem buckets item).length = buckets.length := List.length_modify ..
    have hne : addItem buckets item ≠ [] := by
      rw [← List.length_pos_iff, hlength, List.length_pos_iff]
      exact h
    have hstep : ((addItem buckets item).flatMap Bucket.names).Perm
        (buckets.flatMap Bucket.names ++ [item.1]) :=
      Scan.modify_flatMap_perm (fun _ => rfl) (lightest_lt h)
    obtain ⟨hlen, hperm⟩ := ih hne
    refine ⟨hlen.trans hlength, hperm.trans ?_⟩
    rw [List.map_cons]
    have hmove := hstep.append_right (items.map Prod.fst)
    rwa [List.append_assoc, List.singleton_append] at hmove

/-- The groups have the names of the items, each as often as the items do, and are at
most as many as asked for; no group is empty. -/
theorem groupWeightedItems_spec (items : List (Text × Int)) {targetGroups maxGroups : Nat}
    (htarget : 1 ≤ targetGroups) (hmax : 1 ≤ maxGroups) :
    ((groupWeightedItems items targetGroups maxGroups).flatten).Perm (items.map Prod.fst) ∧
      (groupWeightedItems items targetGroups maxGroups).length ≤ min targetGroups maxGroups ∧
      ∀ g ∈ groupWeightedItems items targetGroups maxGroups, g ≠ [] := by
  unfold groupWeightedItems
  split
  · next h => simp [h]
  · next hitems =>
    have hcount : min (min items.length targetGroups) maxGroups ≠ 0 := by
      have := List.length_pos_iff.mpr hitems
      omega
    have hne : List.replicate (min (min items.length targetGroups) maxGroups) ({} : Bucket) ≠ [] :=
      by simpa [List.replicate_eq_nil_iff] using hcount
    obtain ⟨hlength, hperm⟩ := foldl_addItem hne (items.mergeSort itemLe)
    have hempty : (List.replicate (min (min items.length targetGroups) maxGroups)
        ({} : Bucket)).flatMap Bucket.names = [] := by
      rw [List.flatMap_eq_nil_iff]
      intro b hb
      rw [List.eq_of_mem_replicate hb]
    rw [hempty, List.nil_append] at hperm
    simp only
    generalize (items.mergeSort itemLe).foldl addItem _ = buckets at *
    have hsorted : ∀ bs : List Bucket, ((bs.filter fun b => b.names ≠ []).map fun b =>
        Text.sorted b.names).flatten.Perm (bs.flatMap Bucket.names) := by
      intro bs
      induction bs with
      | nil => exact List.Perm.refl _
      | cons b bs ih =>
        rw [List.flatMap_cons]
        by_cases hb : b.names = []
        · rw [List.filter_cons_of_neg (by simpa using hb), hb]
          exact ih
        · rw [List.filter_cons_of_pos (by simpa using hb), List.map_cons, List.flatten_cons]
          exact (List.mergeSort_perm _ _).append ih
    refine ⟨((hsorted buckets).trans hperm).trans ((List.mergeSort_perm items itemLe).map _), ?_, ?_⟩
    · have hfilter := List.length_filter_le (fun b : Bucket => decide (b.names ≠ [])) buckets
      rw [List.length_map]
      rw [List.length_replicate] at hlength
      omega
    · intro g hg hnil
      obtain ⟨b, hb, rfl⟩ := List.mem_map.mp hg
      have hnames := (List.mem_filter.mp hb).2
      have hlen := (List.mergeSort_perm b.names Text.ble).length_eq
      rw [← Text.sorted, hnil] at hlen
      exact absurd (List.length_eq_zero_iff.mp hlen.symm) (by simpa using hnames)

/-! ## Adjacent groups -/

/-- `sorted` on integers. -/
def sortInts (values : List Int) : List Int := values.mergeSort fun a b => a ≤ b

/-- Group sorted integer identifiers deterministically under the task limit. -/
def groupAdjacentIds (values : List Int) (targetGroups maxGroups : Nat) : List (List Int) :=
  if values = [] then []
  else
    let groupCount := min (min values.length targetGroups) maxGroups
    let groupSize := (values.length + groupCount - 1) / groupCount
    Scan.chunks groupSize (sortInts values)

/-- The groups have the values in ascending order and are at most as many as asked
for; no group is empty. -/
theorem groupAdjacentIds_spec (values : List Int) {targetGroups maxGroups : Nat}
    (htarget : 1 ≤ targetGroups) (hmax : 1 ≤ maxGroups) :
    (groupAdjacentIds values targetGroups maxGroups).flatten = sortInts values ∧
      (groupAdjacentIds values targetGroups maxGroups).length ≤ min targetGroups maxGroups ∧
      ∀ g ∈ groupAdjacentIds values targetGroups maxGroups, g ≠ [] := by
  have hlength : (sortInts values).length = values.length := (List.mergeSort_perm _ _).length_eq
  unfold groupAdjacentIds
  split
  · next h => simp [h, sortInts]
  · next hvalues =>
    have hpos := List.length_pos_iff.mpr hvalues
    have hcount : 0 < min (min values.length targetGroups) maxGroups := by omega
    have hsize : 0 < (values.length + min (min values.length targetGroups) maxGroups - 1) /
        min (min values.length targetGroups) maxGroups := Nat.div_pos (by omega) hcount
    refine ⟨Scan.chunks_flatten hsize _, ?_, fun g hg => Scan.chunks_ne_nil hsize hg⟩
    have hchunks := Scan.length_chunks_le hcount (sortInts values)
    rw [hlength] at hchunks
    exact hchunks.trans (by omega)

end DaftOlap
