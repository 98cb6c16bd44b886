/-
Arguments of the data sources (`clickhouse/datasource.py`, `doris/datasource.py`).

Both constructors check their arguments one after another before they ask a driver anything.
Whatever is wrong with an argument is a configuration error, unless it cannot be hashed.
-/
import DaftOlap.Common.Identifiers
import DaftOlap.Common.Sessions
import DaftOlap.Python.Strip

namespace DaftOlap

open Python

/-! ## Checks -/

/-- `split`. -/
def checkSplit (product : String) (value : PyValue) : Except PyException SplitMode :=
  if value = .str (str "single") then .ok .single
  else if value = .str (str "auto") then .ok .auto
  else .error (configurationError (product ++ " split must be 'single' or 'auto'" : String))

/-- `discovery_policy`. -/
def checkDiscoveryPolicy (value : PyValue) : Except PyException DiscoveryPolicy :=
  if value = .str (str "single") then .ok .single
  else if value = .str (str "error") then .ok .error
  else .error (configurationError "discovery_policy must be 'single' or 'error'")

/-- `unsafe_where_sql`, stripped. -/
def checkUnsafeWhereSql (value : PyValue) : Except PyException (Option Text) :=
  match value with
  | .none => .ok none
  | .str t =>
    if Text.strip t = [] then
      .error (configurationError "unsafe_where_sql must be None or a non-empty SQL fragment")
    else .ok (some (Text.strip t))
  | _ => .error (configurationError "unsafe_where_sql must be None or a non-empty SQL fragment")

/-- `QualifiedTable(database, table)`, on any objects. -/
def checkTable (database table : PyValue) : Except PyException QualifiedTable :=
  match database, table with
  | .str database, .str table => qualifiedTable database table
  | .str database, _ => do
    let _ ← validateIdentifier "database" database
    .error (configurationError "table must be a non-empty string")
  | _, _ => .error (configurationError "database must be a non-empty string")

/-- The arguments that both data sources have, besides those of the connection.  `split` and
`discovery_policy` are looked up in a set: they are given by what hashing them comes to. -/
structure ScanArguments (V : Type) where
  table : PyValue
  split : Except PyException PyValue
  discoveryPolicy : Except PyException PyValue
  batchRows : PyValue
  batchBytes : PyValue
  targetTasks : PyValue
  maxTasks : PyValue
  connectTimeoutSeconds : PyValue
  queryTimeoutSeconds : PyValue
  unsafeWhereSql : PyValue
  queryParameters : Option (Except PyException (List (V × V)))

/-- What is kept of them. -/
structure ScanSettings where
  split : SplitMode
  discoveryPolicy : DiscoveryPolicy
  unsafeWhereSql : Option Text
  queryParameters : QueryParameters
  table : QualifiedTable

/-- `ResourceLimits(...)`. -/
def checkLimits {V : Type} (arguments : ScanArguments V) :
    Except PyException (ResourceLimits × Timeouts) := do
  let limits ← resourceLimits arguments.batchRows arguments.batchBytes arguments.targetTasks
    arguments.maxTasks
  let timeouts ← timeouts arguments.connectTimeoutSeconds arguments.queryTimeoutSeconds
  return (limits, timeouts)

variable {V : Type} [Fintype V] [DecidableEq V]

namespace ObjectGraph

/-- What the renderers see of an object. -/
def pyValue (g : ObjectGraph V) (value : V) : PyValue :=
  match g.shape value with
  | .leaf value => value
  | _ => .other (g.typeName value)

variable {g : ObjectGraph V} {pickle : g.Pickle}

omit [Fintype V] [DecidableEq V] in
theorem isTimezoneAware_pyValue (value : V) : (g.pyValue value).isTimezoneAware = g.isAware value := by
  unfold pyValue isAware
  cases g.shape value with
  | mapping items => rfl
  | sequence elements => rfl
  | leaf value => rfl

omit [Fintype V] [DecidableEq V] in
theorem keyName?_ne_nil {key : V} {name : Text} (h : g.keyName? key = some name) : name ≠ [] := by
  unfold keyName? at h
  split at h
  · split at h
    · cases h
    · next hname =>
      rw [← Option.some.inj h]
      exact hname
  · cases h

omit [Fintype V] [DecidableEq V] in
/-- Parameters that are kept have names, and no value that knows its time zone. -/
theorem Kept.checked {given : Option (Except PyException (List (V × V)))}
    {frozen : List (Text × V)} (h : Kept g pickle given frozen) :
    ∀ item ∈ frozen, item.1 ≠ [] ∧ (g.pyValue item.2).isTimezoneAware = false := by
  match given with
  | none =>
    obtain rfl : frozen = [] := h
    exact fun _ hitem => absurd hitem List.not_mem_nil
  | some (.error e) => exact h.elim
  | some (.ok items) =>
    obtain ⟨hfrozen, haware⟩ := h
    intro entry hentry
    obtain ⟨item, -, hcopy⟩ := exists_of_mem_right hfrozen entry hentry
    refine ⟨keyName?_ne_nil hcopy.key, ?_⟩
    rw [isTimezoneAware_pyValue, Bool.eq_false_iff]
    exact fun h => haware entry hentry ⟨entry.2, .refl, h⟩

/-- The parameters of a data source. -/
def queryParameters (g : ObjectGraph V) (pickle : g.Pickle)
    (given : Option (Except PyException (List (V × V)))) : Except PyException QueryParameters :=
  match h : g.freezeQueryParameters pickle given with
  | .error e => .error e
  | .ok frozen => .ok {
      items := frozen.map fun item => (item.1, g.pyValue item.2)
      names_nonempty := by
        intro item hitem
        obtain ⟨entry, hentry, rfl⟩ := List.mem_map.mp hitem
        exact ((freezeQueryParameters_eq_ok_iff.mp h).checked entry hentry).1
      naive := by
        intro item hitem
        obtain ⟨entry, hentry, rfl⟩ := List.mem_map.mp hitem
        exact ((freezeQueryParameters_eq_ok_iff.mp h).checked entry hentry).2 }

omit [Fintype V] [DecidableEq V] in
theorem shape_eq_pyValue {value : V} (h : (g.shape value).isContainer = false) :
    g.shape value = .leaf (g.pyValue value) := by
  unfold pyValue
  cases hshape : g.shape value with
  | mapping items =>
    rw [hshape] at h
    cases h
  | sequence elements =>
    rw [hshape] at h
    cases h
  | leaf leaf => rfl

/-- An object that is kept by its copy: nothing callable, no container, and picklable. -/
structure Plain (g : ObjectGraph V) (pickle : g.Pickle) (value copy : V) : Prop where
  passive : g.callable value = false
  leaf : (g.shape value).isContainer = false
  copied : pickle.roundTrip value = .ok copy

omit [Fintype V] [DecidableEq V] in
theorem Plain.shape_copy {value copy : V} (h : Plain g pickle value copy) :
    g.shape copy = .leaf (g.pyValue value) :=
  pickle.copies.leaf (pickle.same_roundTrip h.copied) (shape_eq_pyValue h.leaf)

theorem Plain.snapshot {value copy : V} (h : Plain g pickle value copy) (valuePath : Message) :
    g.snapshotSerializable pickle value valuePath = .ok copy := by
  refine snapshotSerializable_eq_ok_iff.mpr ⟨?_, h.copied⟩
  rintro ⟨x, hx, hblocks⟩
  have hedge : ∀ y, ¬ g.Edge value y := fun y => not_edge_of_leaf h.leaf
  obtain rfl : x = value := by
    rcases Relation.ReflTransGen.cases_head hx with hsame | ⟨y, hy, -⟩
    · exact hsame.symm
    · exact absurd hy (hedge y)
  rcases hblocks with hcallable | hcycle
  · rw [h.passive] at hcallable
    cases hcallable
  · obtain ⟨y, hy, -⟩ := Relation.TransGen.head'_iff.mp hcycle
    exact hedge y hy

omit [Fintype V] [DecidableEq V] in
theorem Plain.pyValue_copy {value copy : V} (h : Plain g pickle value copy) :
    g.pyValue copy = g.pyValue value := by
  rw [pyValue, h.shape_copy]

section Copies

variable {copy : V → V} {values : List V}

omit [Fintype V] [DecidableEq V] in
theorem map_pyValue_copies (h : ∀ v ∈ values, Plain g pickle v (copy v)) :
    (values.map copy).map g.pyValue = values.map g.pyValue := by
  rw [List.map_map]
  exact List.map_congr_left fun v hv => (h v hv).pyValue_copy

theorem checkQueryParameterValues_copies (h : ∀ v ∈ values, Plain g pickle v (copy v)) :
    g.checkQueryParameterValues (values.map copy) = (values.map g.pyValue).forM checkNaive := by
  have hleaves : ∀ w ∈ values.map copy, g.shape w = .leaf (g.pyValue w) := by
    intro w hw
    obtain ⟨v, hv, rfl⟩ := List.mem_map.mp hw
    rw [(h v hv).shape_copy, (h v hv).pyValue_copy]
  rw [checkQueryParameterValues_leaves hleaves, ← map_pyValue_copies h, forM_map_eq g.pyValue]
  rfl

/-- On plain objects, the query is the one of the values that the renderers see. -/
theorem querySpec_plain {sql : Text} {named : List (Text × V)}
    (hvalues : ∀ v ∈ values, Plain g pickle v (copy v))
    (hnamed : ∀ item ∈ named, Plain g pickle item.2 (copy item.2)) (schema : List ArrowField) :
    (g.querySpec pickle sql values named).map (fun spec =>
        ({ sql := sql, positionalParameters := spec.1.map g.pyValue,
           namedParameters := spec.2.map fun item => (item.1, g.pyValue item.2),
           arrowSchema := schema } : QuerySpec)) =
      QuerySpec.checked {
        sql := sql
        positionalParameters := values.map g.pyValue
        namedParameters := named.map fun item => (item.1, g.pyValue item.2)
        arrowSchema := schema } := by
  have hpositionals : values.zipIdx.mapM (fun value => g.snapshotSerializable pickle value.1
      (indexPath [.text "positional_parameters"] value.2)) = .ok (values.map copy) :=
    mapM_zipIdx_eq_ok_map fun v hv n => (hvalues v hv).snapshot _
  have hnameds : named.zipIdx.mapM (fun item => do
      let snapshot ← g.snapshotSerializable pickle item.1.2
        (indexPath [.text "named_parameters"] item.2)
      return (item.1.1, snapshot)) = .ok (named.map fun item => (item.1, copy item.2)) :=
    mapM_zipIdx_eq_ok_map fun item hitem n => by rw [(hnamed item hitem).snapshot]; rfl
  have hcheck : g.checkQueryParameterValues
      ((named.map fun item => (item.1, copy item.2)).map Prod.snd) =
        (named.map fun item => (item.1, g.pyValue item.2)).forM fun item => checkNaive item.2 := by
    have hsnd : ∀ v ∈ named.map Prod.snd, Plain g pickle v (copy v) := by
      intro v hv
      obtain ⟨item, hitem, rfl⟩ := List.mem_map.mp hv
      exact hnamed item hitem
    have hcopies := checkQueryParameterValues_copies hsnd
    rw [List.map_map, List.map_map, forM_map_eq] at hcopies
    rw [List.map_map, forM_map_eq]
    exact hcopies
  have hkept : (named.map fun item => (item.1, copy item.2)).map
      (fun item => (item.1, g.pyValue item.2)) = named.map fun item => (item.1, g.pyValue item.2) := by
    rw [List.map_map]
    exact List.map_congr_left fun item hitem =>
      congrArg (Prod.mk item.1) (hnamed item hitem).pyValue_copy
  rw [querySpec, QuerySpec.checked]
  by_cases hsql : sql = []
  · rw [if_pos hsql, if_pos hsql]
    rfl
  rw [if_neg hsql, if_neg hsql]
  by_cases hmixed : values ≠ [] ∧ named ≠ []
  · rw [if_pos hmixed, if_pos (by simpa using hmixed)]
    rfl
  rw [if_neg hmixed, if_neg (by simpa using hmixed)]
  simp only [hpositionals, hnameds, ok_bind, checkQueryParameterValues_copies hvalues, hcheck]
  cases (values.map g.pyValue).forM checkNaive with
  | error e => rfl
  | ok _ =>
    cases (named.map fun item => (item.1, g.pyValue item.2)).forM fun item => checkNaive item.2 with
    | error e => rfl
    | ok _ =>
      show Except.ok _ = Except.ok _
      simp only [map_pyValue_copies hvalues, hkept]

end Copies

end ObjectGraph

/-- The checks from `split` to the table, in this order. -/
def checkScan (product : String) (g : ObjectGraph V) (pickle : g.Pickle) (database : PyValue)
    (arguments : ScanArguments V) : Except PyException ScanSettings := do
  let split ← checkSplit product (← arguments.split)
  let discoveryPolicy ← checkDiscoveryPolicy (← arguments.discoveryPolicy)
  let unsafeWhereSql ← checkUnsafeWhereSql arguments.unsafeWhereSql
  let queryParameters ← g.queryParameters pickle arguments.queryParameters
  let table ← checkTable database arguments.table
  return ⟨split, discoveryPolicy, unsafeWhereSql, queryParameters, table⟩

/-! ## What is kept of an argument -/

def SplitMode.text : SplitMode → Text
  | .single => str "single"
  | .auto => str "auto"

def DiscoveryPolicy.text : DiscoveryPolicy → Text
  | .single => str "single"
  | .error => str "error"

/-- The settings were given as these objects. -/
structure ScanSettings.IsOf (g : ObjectGraph V) (pickle : g.Pickle) (settings : ScanSettings)
    (database : PyValue) (arguments : ScanArguments V) : Prop where
  split : arguments.split = .ok (.str settings.split.text)
  discoveryPolicy : arguments.discoveryPolicy = .ok (.str settings.discoveryPolicy.text)
  unsafeWhereSql : arguments.unsafeWhereSql = .none ∧ settings.unsafeWhereSql = none ∨
    ∃ t, arguments.unsafeWhereSql = .str t ∧ settings.unsafeWhereSql = some (Text.strip t) ∧
      Text.strip t ≠ []
  queryParameters : ∃ frozen, g.Kept pickle arguments.queryParameters frozen ∧
    settings.queryParameters.items = frozen.map fun item => (item.1, g.pyValue item.2)
  database : database = .str settings.table.database
  table : arguments.table = .str settings.table.table

/-- The limits were given as these objects. -/
structure BoundsOf (limits : ResourceLimits) (timeouts : Timeouts) (arguments : ScanArguments V) :
    Prop where
  batchRows : arguments.batchRows = .int limits.batchRows
  batchBytes : arguments.batchBytes = .int limits.batchBytes
  targetTasks : arguments.targetTasks = .int limits.targetTasks
  maxTasks : arguments.maxTasks = .int limits.maxTasks
  connect : arguments.connectTimeoutSeconds = timeouts.connect.val
  query : arguments.queryTimeoutSeconds = timeouts.query.val

section Kept

variable {g : ObjectGraph V} {pickle : g.Pickle} {product : String} {database : PyValue}
  {arguments : ScanArguments V}

/-- A value that one of two words was chosen by is this word. -/
theorem chosen_of_eq_ok {α : Type} {value a b : PyValue} {x y z : α} {e : PyException}
    (h : (if value = a then .ok x else if value = b then .ok y else .error e :
      Except PyException α) = .ok z) : value = a ∧ z = x ∨ value = b ∧ z = y := by
  by_cases ha : value = a
  · rw [if_pos ha] at h
    exact Or.inl ⟨ha, (Except.ok.inj h).symm⟩
  · rw [if_neg ha] at h
    by_cases hb : value = b
    · rw [if_pos hb] at h
      exact Or.inr ⟨hb, (Except.ok.inj h).symm⟩
    · rw [if_neg hb] at h
      cases h

theorem checkSplit_eq_ok {value : PyValue} {split : SplitMode}
    (h : checkSplit product value = .ok split) : value = .str split.text := by
  rcases chosen_of_eq_ok h with ⟨hvalue, rfl⟩ | ⟨hvalue, rfl⟩
  · exact hvalue
  · exact hvalue

theorem checkDiscoveryPolicy_eq_ok {value : PyValue} {policy : DiscoveryPolicy}
    (h : checkDiscoveryPolicy value = .ok policy) : value = .str policy.text := by
  rcases chosen_of_eq_ok h with ⟨hvalue, rfl⟩ | ⟨hvalue, rfl⟩
  · exact hvalue
  · exact hvalue

theorem checkUnsafeWhereSql_eq_ok {value : PyValue} {kept : Option Text}
    (h : checkUnsafeWhereSql value = .ok kept) :
    value = .none ∧ kept = none ∨
      ∃ t, value = .str t ∧ kept = some (Text.strip t) ∧ Text.strip t ≠ [] := by
  unfold checkUnsafeWhereSql at h
  split at h
  · exact Or.inl ⟨rfl, (Except.ok.inj h).symm⟩
  · next t =>
    split at h
    · cases h
    · next hne => exact Or.inr ⟨t, rfl, (Except.ok.inj h).symm, hne⟩
  · cases h

theorem checkTable_eq_ok {database table : PyValue} {kept : QualifiedTable}
    (h : checkTable database table = .ok kept) :
    database = .str kept.database ∧ table = .str kept.table := by
  unfold checkTable at h
  split at h
  · unfold qualifiedTable at h
    split at h
    · cases h
    · cases h
    · rw [← Except.ok.inj h]
      exact ⟨rfl, rfl⟩
  · obtain ⟨_, -, h⟩ := bind_eq_ok.mp h
    cases h
  · cases h

theorem items_of_queryParameters {given : Option (Except PyException (List (V × V)))}
    {parameters : QueryParameters} (h : g.queryParameters pickle given = .ok parameters) :
    ∃ frozen, g.Kept pickle given frozen ∧
      parameters.items = frozen.map fun item => (item.1, g.pyValue item.2) := by
  unfold ObjectGraph.queryParameters at h
  split at h
  · cases h
  · next frozen hfrozen =>
    rw [← Except.ok.inj h]
    exact ⟨frozen, ObjectGraph.freezeQueryParameters_eq_ok_iff.mp hfrozen, rfl⟩

theorem checkScan_eq_ok {settings : ScanSettings}
    (h : checkScan product g pickle database arguments = .ok settings) :
    settings.IsOf g pickle database arguments := by
  obtain ⟨splitValue, hsplitValue, h⟩ := bind_eq_ok.mp h
  obtain ⟨split, hsplit, h⟩ := bind_eq_ok.mp h
  obtain ⟨policyValue, hpolicyValue, h⟩ := bind_eq_ok.mp h
  obtain ⟨policy, hpolicy, h⟩ := bind_eq_ok.mp h
  obtain ⟨unsafeWhereSql, hunsafe, h⟩ := bind_eq_ok.mp h
  obtain ⟨parameters, hparameters, h⟩ := bind_eq_ok.mp h
  obtain ⟨table, htable, h⟩ := bind_eq_ok.mp h
  obtain rfl := Except.ok.inj h
  rw [checkSplit_eq_ok hsplit] at hsplitValue
  rw [checkDiscoveryPolicy_eq_ok hpolicy] at hpolicyValue
  exact ⟨hsplitValue, hpolicyValue, checkUnsafeWhereSql_eq_ok hunsafe,
    items_of_queryParameters hparameters, (checkTable_eq_ok htable).1, (checkTable_eq_ok htable).2⟩

theorem validateTimeoutSeconds_eq_ok {name : String} {value : PyValue} {kept : TimeoutSeconds}
    (h : validateTimeoutSeconds name value = .ok kept) : value = kept.val := by
  unfold validateTimeoutSeconds at h
  split at h
  · rw [← Except.ok.inj h]
  · cases h

omit [Fintype V] [DecidableEq V] in
theorem checkLimits_eq_ok {bounds : ResourceLimits × Timeouts}
    (h : checkLimits arguments = .ok bounds) : BoundsOf bounds.1 bounds.2 arguments := by
  obtain ⟨limits, hlimits, h⟩ := bind_eq_ok.mp h
  obtain ⟨kept, hkept, h⟩ := bind_eq_ok.mp h
  obtain rfl := Except.ok.inj h
  obtain ⟨rows, hrows, hlimits⟩ := bind_eq_ok.mp hlimits
  obtain ⟨bytes, hbytes, hlimits⟩ := bind_eq_ok.mp hlimits
  obtain ⟨target, htarget, hlimits⟩ := bind_eq_ok.mp hlimits
  obtain ⟨max, hmax, hlimits⟩ := bind_eq_ok.mp hlimits
  obtain ⟨connect, hconnect, hkept⟩ := bind_eq_ok.mp hkept
  obtain ⟨query, hquery, hkept⟩ := bind_eq_ok.mp hkept
  obtain rfl := Except.ok.inj hkept
  split at hlimits
  · obtain rfl := Except.ok.inj hlimits
    exact ⟨checkBound_eq_ok_iff.mp hrows, checkBound_eq_ok_iff.mp hbytes,
      checkBound_eq_ok_iff.mp htarget, checkBound_eq_ok_iff.mp hmax,
      validateTimeoutSeconds_eq_ok hconnect, validateTimeoutSeconds_eq_ok hquery⟩
  · cases hlimits

end Kept

/-! ## What is wrong with an argument -/

/-- What hashing an argument raises. -/
def ScanArguments.Unhashable (arguments : ScanArguments V) (e : PyException) : Prop :=
  arguments.split = .error e ∨ arguments.discoveryPolicy = .error e

/-- A check that raises nothing but configuration errors and `other` exceptions. -/
def Rejects {α : Type} (other : PyException → Prop) (x : Except PyException α) : Prop :=
  ∀ e, x = .error e → ObjectGraph.IsConfigurationError e ∨ other e

theorem isPublic_raised {e : PyException} (h : ObjectGraph.IsConfigurationError e) :
    e.raised.IsPublic := by
  cases e with
  | daftOlap kind message => exact trivial
  | valueError | keyError | http | json => cases h

section Rejects

variable {α β : Type} {other : PyException → Prop}

theorem Rejects.ok (a : α) : Rejects other (.ok a) := fun e he => by cases he

theorem Rejects.error (message : Message) :
    Rejects other (.error (configurationError message) : Except PyException α) := by
  intro e he
  rw [← Except.error.inj he]
  exact Or.inl rfl

theorem Rejects.ite {p : Prop} [Decidable p] {x y : Except PyException α} (hx : Rejects other x)
    (hy : Rejects other y) : Rejects other (if p then x else y) := by
  by_cases hp : p
  · rwa [if_pos hp]
  · rwa [if_neg hp]

theorem Rejects.bind {x : Except PyException α} {f : α → Except PyException β}
    (hx : Rejects other x) (hf : ∀ a, Rejects other (f a)) : Rejects other (x >>= f) := by
  intro e he
  rcases bind_eq_error.mp he with he | ⟨a, -, he⟩
  · exact hx e he
  · exact hf a e he

theorem Rejects.mapM {f : α → Except PyException β} {l : List α} (h : ∀ a, Rejects other (f a)) :
    Rejects other (l.mapM f) := by
  intro e he
  obtain ⟨a, -, he⟩ := exists_of_mapM_eq_error he
  exact h a e he

theorem Rejects.mono {other' : PyException → Prop} {x : Except PyException α}
    (h : Rejects other x) (hmono : ∀ e, other e → other' e) : Rejects other' x :=
  fun e he => (h e he).imp_right (hmono e)

theorem rejects_checkText (message : String) (value : PyValue) :
    Rejects other (checkText message value) := by
  unfold checkText
  split
  · split
    · exact .ok _
    · exact .error _
  · exact .error _

theorem rejects_checkBool (message : String) (value : PyValue) :
    Rejects other (checkBool message value) := by
  unfold checkBool
  split
  · exact .ok _
  · exact .error _

theorem rejects_checkBound (message : String) (bound : Nat) (value : PyValue) :
    Rejects other (checkBound message bound value) := by
  unfold checkBound
  split
  · split
    · exact .ok _
    · exact .error _
  · exact .error _

theorem rejects_validateSecret (password : PasswordArgument) :
    Rejects other (validateSecret password) := by
  unfold validateSecret
  split
  · exact .ok _
  · exact .ok _
  · exact .error _

theorem rejects_validateTimeoutSeconds (name : String) (value : PyValue) :
    Rejects other (validateTimeoutSeconds name value) := by
  unfold validateTimeoutSeconds
  split
  · exact .ok _
  · exact .error _

theorem rejects_validateIdentifier (kind : String) (value : Text) :
    Rejects other (validateIdentifier kind value) :=
  .ite (.error _) (.ite (.error _) (.ok _))

theorem rejects_checkTable (database table : PyValue) : Rejects other (checkTable database table) := by
  have hidentifier : ∀ {kind value e}, validateIdentifier kind value = .error e →
      Rejects other (.error e : Except PyException QualifiedTable) := by
    intro kind value e he e' he'
    rw [← Except.error.inj he']
    exact rejects_validateIdentifier kind value e he
  unfold checkTable
  split
  · unfold qualifiedTable
    split
    · next he => exact hidentifier he
    · next he => exact hidentifier he
    · exact .ok _
  · exact (rejects_validateIdentifier _ _).bind fun _ => .error _
  · exact .error _

omit [Fintype V] [DecidableEq V] in
theorem rejects_checkLimits (arguments : ScanArguments V) : Rejects other (checkLimits arguments) := by
  have hlimits : Rejects other (resourceLimits arguments.batchRows arguments.batchBytes
      arguments.targetTasks arguments.maxTasks) := by
    refine (rejects_checkBound _ _ _).bind fun rows => (rejects_checkBound _ _ _).bind fun bytes =>
      (rejects_checkBound _ _ _).bind fun target => (rejects_checkBound _ _ _).bind fun max => ?_
    split
    · exact .ok _
    · exact .error _
  have htimeouts : Rejects other (timeouts arguments.connectTimeoutSeconds
      arguments.queryTimeoutSeconds) :=
    (rejects_validateTimeoutSeconds _ _).bind fun connect =>
      (rejects_validateTimeoutSeconds _ _).bind fun query => .ok _
  exact hlimits.bind fun _ => htimeouts.bind fun _ => .ok _

theorem rejects_snapshotSerializable (g : ObjectGraph V) (pickle : g.Pickle) (value : V)
    (valuePath : Message) : Rejects other (g.snapshotSerializable pickle value valuePath) :=
  fun _ he => Or.inl (ObjectGraph.snapshotSerializable_error he)

theorem rejects_freezeOptions (g : ObjectGraph V) (pickle : g.Pickle) (reserved : List Text)
    (optionName : String) (options : Option (Except PyException (List (V × V)))) :
    Rejects other (g.freezeOptions pickle reserved optionName options) := by
  unfold ObjectGraph.freezeOptions
  split
  · exact .ok _
  · exact .error _
  · refine (Rejects.mapM fun item => ?_).bind fun frozen => .ok _
    unfold ObjectGraph.freezeOption
    split
    · exact .error _
    · split
      · exact (rejects_snapshotSerializable g pickle _ _).bind fun _ => .ok _
      · exact .error _

theorem rejects_freezeQueryParameters (g : ObjectGraph V) (pickle : g.Pickle)
    (parameters : Option (Except PyException (List (V × V)))) :
    Rejects other (g.freezeQueryParameters pickle parameters) := by
  have hnaive : ∀ values, Rejects other (g.checkQueryParameterValues values) := by
    intro values e he
    obtain ⟨result, hrun, hverdict⟩ := ObjectGraph.exists_validateQueryParameterValues g values
    simp only [ObjectGraph.checkQueryParameterValues, hrun, Option.get_some] at he
    rw [he] at hverdict
    cases hverdict with
    | raised hkind _ => exact Or.inl hkind
  unfold ObjectGraph.freezeQueryParameters
  split
  · exact .ok _
  · exact .error _
  · refine (Rejects.mapM fun item => ?_).bind fun named => (Rejects.mapM fun item => ?_).bind
      fun frozen => (hnaive _).bind fun _ => .ok _
    · unfold ObjectGraph.namedParameter
      split
      · exact .ok _
      · exact .error _
    · exact (rejects_snapshotSerializable g pickle _ _).bind fun _ => .ok _

theorem rejects_queryParameters (g : ObjectGraph V) (pickle : g.Pickle)
    (given : Option (Except PyException (List (V × V)))) :
    Rejects other (g.queryParameters pickle given) := by
  unfold ObjectGraph.queryParameters
  split
  · next e he =>
    intro e' he'
    rw [← Except.error.inj he']
    exact rejects_freezeQueryParameters g pickle given e he
  · exact .ok _

theorem rejects_checkScan (product : String) (g : ObjectGraph V) (pickle : g.Pickle)
    (database : PyValue) (arguments : ScanArguments V) :
    Rejects arguments.Unhashable (checkScan product g pickle database arguments) := by
  have hsplit : ∀ value, Rejects arguments.Unhashable (checkSplit product value) :=
    fun _ => .ite (.ok _) (.ite (.ok _) (.error _))
  have hpolicy : ∀ value, Rejects arguments.Unhashable (checkDiscoveryPolicy value) :=
    fun _ => .ite (.ok _) (.ite (.ok _) (.error _))
  have hunsafe : Rejects arguments.Unhashable (checkUnsafeWhereSql arguments.unsafeWhereSql) := by
    unfold checkUnsafeWhereSql
    split
    · exact .ok _
    · exact .ite (.error _) (.ok _)
    · exact .error _
  have hhashed : Rejects arguments.Unhashable arguments.split := fun e he => Or.inr (Or.inl he)
  have hhashed' : Rejects arguments.Unhashable arguments.discoveryPolicy :=
    fun e he => Or.inr (Or.inr he)
  exact hhashed.bind fun _ => (hsplit _).bind fun _ => hhashed'.bind fun _ => (hpolicy _).bind
    fun _ => hunsafe.bind fun _ => (rejects_queryParameters g pickle _).bind fun _ =>
      (rejects_checkTable _ _).bind fun _ => .ok _

end Rejects

end DaftOlap
