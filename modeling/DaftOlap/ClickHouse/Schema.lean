/-
ClickHouse declared types and lossless transport casts (`clickhouse/schema.py`).

`validateTypeExpression` and `transportTypeExpression` recurse on the arguments of
a type constructor, which are shorter than the type.  A schema plan carries the
Arrow schema and, for every column of it, the declared and the transport type.
-/
import DaftOlap.ClickHouse.TypeText
import DaftOlap.Common.Contracts
import DaftOlap.Common.Identifiers

namespace DaftOlap
namespace ClickHouse

open Python

/-! ## Validation -/

def simpleTypes : List Text :=
  ["Bool", "Date", "Date32", "Float32", "Float64", "IPv4", "IPv6", "Int8", "Int16", "Int32",
    "Int64", "Int128", "Int256", "Nothing", "String", "UInt8", "UInt16", "UInt32", "UInt64",
    "UInt128", "UInt256", "UUID"].map str

def unsupportedSimple : List Text :=
  ["Nothing", "Int128", "Int256", "UInt128", "UInt256"].map str

def wrapperTypes : List Text := ["Nullable", "LowCardinality", "Array"].map str

def decimalScaleLimits : List (Text × Nat) :=
  [(str "Decimal32", 9), (str "Decimal64", 18), (str "Decimal128", 38)]

def textTransportTypes : List Text := ["Enum8", "Enum16", "IPv4", "IPv6", "UUID"].map str

def maxDecimalPrecision : Nat := 38

def maxDateTime64Precision : Nat := 9

/-- `int(t)` on ASCII digits, under the limit on the length of integer texts. -/
def intOfDigits (t : Text) : Except PyException Nat :=
  if t.length ≤ maxStrDigits then .ok (t.foldl (fun n c => 10 * n + (c.ord - 48)) 0)
  else .error .valueError

def unsupportedType (value : Text) : PyException :=
  schemaError [.text "unsupported ClickHouse type: ", .repr value]

/-- `invalid ClickHouse {name} {what}: {value!r}`. -/
def invalidType (name : Text) (what : String) (value : Text) : PyException :=
  schemaError [.text "invalid ClickHouse ", .plain name, .text what, .repr value]

def unsupportedTimezone (timezone : Text) : PyException :=
  schemaError [.text "unsupported ClickHouse timezone: ", .repr timezone]

/-- `_validate_single_integer_type`. -/
def validateSingleIntegerType (parsed : ClickHouseType) (value : Text) : Except PyException Unit :=
  match parsed.arguments with
  | [argument] =>
    if ¬ isInteger argument then .error (invalidType parsed.name " type: " value)
    else do
      let n ← intOfDigits argument
      if parsed.name = str "FixedString" then
        if n < 1 then .error (invalidType parsed.name " size: " value) else .ok ()
      else if (decimalScaleLimits.lookup parsed.name).getD 0 < n then
        .error (invalidType parsed.name " scale: " value)
      else .ok ()
  | _ => .error (invalidType parsed.name " type: " value)

/-- The `Decimal` branch of `_validate_type_expression`. -/
def validateDecimalType (parsed : ClickHouseType) (value : Text) : Except PyException Unit :=
  match parsed.arguments with
  | [precisionText, scaleText] =>
    if ¬ (isInteger precisionText ∧ isInteger scaleText) then
      .error (invalidType parsed.name " type: " value)
    else do
      let precision ← intOfDigits precisionText
      let scale ← intOfDigits scaleText
      if maxDecimalPrecision < precision then .error (unsupportedType value)
      else if precision < 1 ∨ precision < scale then
        .error (invalidType parsed.name " bounds: " value)
      else .ok ()
  | _ => .error (invalidType parsed.name " type: " value)

/-- The `DateTime` branch of `_validate_type_expression`. -/
def validateDateTimeType (parsed : ClickHouseType) (value : Text) : Except PyException Unit :=
  match parsed.arguments with
  | [] => .ok ()
  | [timezone] => if isTimeZone timezone then .ok () else .error (unsupportedTimezone timezone)
  | _ => .error (invalidType parsed.name " type: " value)

/-- The `DateTime64` branch of `_validate_type_expression`. -/
def validateDateTime64Type (parsed : ClickHouseType) (value : Text) : Except PyException Unit :=
  match parsed.arguments with
  | precisionText :: rest =>
    if 1 < rest.length ∨ ¬ isInteger precisionText then
      .error (invalidType parsed.name " type: " value)
    else do
      let precision ← intOfDigits precisionText
      if maxDateTime64Precision < precision then
        .error (invalidType parsed.name " precision: " value)
      else
        match rest with
        | [] => .ok ()
        | timezone :: _ =>
          if isTimeZone timezone then .ok () else .error (unsupportedTimezone timezone)
  | [] => .error (invalidType parsed.name " type: " value)

theorem quotedFieldName?_length {t name after : Text}
    (h : quotedFieldName? t = some (name, after)) : after.length ≤ t.length := by
  fun_induction quotedFieldName? t generalizing name after with
  | case1 | case3 | case6 => cases h
  | case2 | case5 =>
    simp only [Option.some.injEq, Prod.mk.injEq] at h
    rw [← h.2]
    simp
  | case4 rest ih =>
    obtain ⟨⟨q, r⟩, hq, h⟩ := Option.map_eq_some_iff.mp h
    obtain ⟨-, rfl⟩ := Prod.mk.inj h
    have := ih hq
    simp only [List.length_cons]
    omega
  | case7 d rest hd hc ih =>
    obtain ⟨⟨q, r⟩, hq, h⟩ := Option.map_eq_some_iff.mp h
    obtain ⟨-, rfl⟩ := Prod.mk.inj h
    have := ih hq
    simp only [List.length_cons]
    omega
  | case8 c d rest hc hne ih =>
    obtain ⟨⟨q, r⟩, hq, h⟩ := Option.map_eq_some_iff.mp h
    obtain ⟨-, rfl⟩ := Prod.mk.inj h
    exact Nat.le_succ_of_le (ih hq)

theorem fieldName?_length {t name after : Text} (h : fieldName? t = some (name, after)) :
    after.length ≤ t.length := by
  unfold fieldName? at h
  split at h
  · cases h
  · split at h
    · split at h
      · cases h
      · next hname =>
        split at h
        · cases h
        · obtain ⟨-, rfl⟩ := Prod.mk.inj (Option.some.inj h)
          exact Nat.le_succ_of_le (quotedFieldName?_length hname)
    · obtain ⟨name, -, h⟩ := Option.map_eq_some_iff.mp h
      rw [← (Prod.mk.inj h).2]
      simp

theorem fieldType?_length {t type : Text} (h : fieldType? t = some type) :
    type.length ≤ t.length := by
  have hspace := (List.takeWhile_prefix (l := t) PyChar.isSpace).length_le
  have hrest := (List.dropWhile_suffix (l := t) PyChar.isSpace).length_le
  unfold fieldType? at h
  simp only at h
  split at h
  · cases h
  · next hne =>
    simp only [Option.ite_none_left_eq_some, Option.some.injEq] at h
    · rw [← h.2]
      split
      · have hpos := List.length_pos_iff.mpr hne
        have hlast : ∀ o : Option PyChar, o.toList.length ≤ 1 := by
          intro o
          cases o <;> simp
        exact Nat.le_trans (hlast _) (Nat.le_trans hpos hspace)
      · exact hrest

/-- A field type is no longer than the tuple argument. -/
theorem tupleField_length {argument name type : Text} (h : tupleField argument = some (name, type)) :
    type.length ≤ argument.length := by
  unfold tupleField at h
  cases hname : fieldName? argument with
  | none => simp [hname] at h
  | some r =>
    cases htype : fieldType? r.2 with
    | none => simp [hname, htype] at h
    | some t =>
      have ht : t = type := by
        simp [hname, htype] at h
        exact h.2
      rw [← ht]
      exact Nat.le_trans (fieldType?_length htype) (fieldName?_length hname)

/-- `_validate_type_expression`, which is `validate_clickhouse_type`. -/
def validateTypeExpression (value : Text) : Except PyException Unit :=
  match _hparsed : parseClickHouseType value with
  | .error e => .error e
  | .ok parsed =>
    if parsed.name ∈ simpleTypes then
      if parsed.arguments ≠ [] ∨ parsed.name ∈ unsupportedSimple then .error (unsupportedType value)
      else .ok ()
    else if parsed.name ∈ wrapperTypes then
      if parsed.arguments.length ≠ 1 then .error (invalidType parsed.name " type: " value)
      else parsed.arguments.attach.forM fun argument => validateTypeExpression argument.1
    else if parsed.name = str "Map" then
      if parsed.arguments.length ≠ 2 then .error (invalidType parsed.name " type: " value)
      else parsed.arguments.attach.forM fun argument => validateTypeExpression argument.1
    else if parsed.name = str "Tuple" then
      if parsed.arguments = [] then .error (invalidType parsed.name " type: " value)
      else parsed.arguments.attach.forM fun argument =>
        match validateTypeExpression argument.1 with
        | .ok () => .ok ()
        | .error e =>
          if e.kind? ≠ some .schema then .error e
          else
            match _hfield : tupleField argument.1 with
            | none => .error e
            | some (_, type) => validateTypeExpression type
    else if parsed.name = str "Decimal256" then .error (unsupportedType value)
    else if parsed.name = str "FixedString" ∨ parsed.name ∈ decimalScaleLimits.map Prod.fst then
      validateSingleIntegerType parsed value
    else if parsed.name = str "Decimal" then validateDecimalType parsed value
    else if parsed.name = str "DateTime" then validateDateTimeType parsed value
    else if parsed.name = str "DateTime64" then validateDateTime64Type parsed value
    else if (parsed.name = str "Enum8" ∨ parsed.name = str "Enum16") ∧ parsed.arguments ≠ [] then
      .ok ()
    else .error (unsupportedType value)
termination_by value.length
decreasing_by
  · exact parseClickHouseType_length _hparsed argument.1 argument.2
  · exact parseClickHouseType_length _hparsed argument.1 argument.2
  · exact parseClickHouseType_length _hparsed argument.1 argument.2
  · exact Nat.lt_of_le_of_lt (tupleField_length _hfield)
      (parseClickHouseType_length _hparsed argument.1 argument.2)

/-! ## Transport types -/

/-- `_transport_type_expression`. -/
def transportTypeExpression (value : Text) : Except PyException Text := do
  validateTypeExpression value
  match _hparsed : parseClickHouseType value with
  | .error e => .error e
  | .ok parsed =>
    if parsed.name ∈ simpleTypes then
      if parsed.name = str "Date" then .ok (str "Date32")
      else if parsed.name ∈ textTransportTypes then .ok (str "String")
      else .ok parsed.name
    else if parsed.name ∈ wrapperTypes ∨ parsed.name = str "Map" then
      let arguments ← parsed.arguments.attach.mapM fun argument =>
        transportTypeExpression argument.1
      .ok (parsed.name ++ str "(" ++ Text.join (str ", ") arguments ++ str ")")
    else if parsed.name = str "Tuple" then
      let arguments ← parsed.arguments.attach.mapM fun argument =>
        match transportTypeExpression argument.1 with
        | .ok t => .ok t
        | .error e =>
          if e.kind? ≠ some .schema then .error e
          else
            match _hfield : tupleField argument.1 with
            | none => .error e
            | some (name, type) => do return name ++ str " " ++ (← transportTypeExpression type)
      .ok (str "Tuple(" ++ Text.join (str ", ") arguments ++ str ")")
    else if parsed.name = str "DateTime" then
      match parsed.arguments with
      | [] => .ok (str "DateTime64(0)")
      | timezone :: _ =>
        if isTimeZone timezone then .ok (str "DateTime64(0, " ++ timezone ++ str ")")
        else .error (unsupportedTimezone timezone)
    else if parsed.name ∈ textTransportTypes then .ok (str "String")
    else .ok (Text.strip value)
termination_by value.length
decreasing_by
  · exact parseClickHouseType_length _hparsed argument.1 argument.2
  · exact parseClickHouseType_length _hparsed argument.1 argument.2
  · exact Nat.lt_of_le_of_lt (tupleField_length _hfield)
      (parseClickHouseType_length _hparsed argument.1 argument.2)

/-! ## Columns and plans -/

/-- A declared column and the type emitted through ClickHouse Arrow. -/
structure ClickHouseColumn where
  name : Text
  declaredType : Text
  transportType : Text
deriving DecidableEq

/-- Return the explicit lossless transport cast, when one is required. -/
def ClickHouseColumn.castType (c : ClickHouseColumn) : Option Text :=
  if c.transportType ≠ c.declaredType then some c.transportType else none

/-- A row of DESCRIBE as a column; anything but two leading texts, the first not
empty, is refused. -/
def describeColumn (row : List PyValue) : Except PyException ClickHouseColumn :=
  match row with
  | .str name :: .str declared :: _ =>
    if name = [] then .error (schemaError "ClickHouse DESCRIBE returned an invalid row")
    else do
      let declaredType := Text.strip declared
      return { name, declaredType, transportType := ← transportTypeExpression declaredType }
  | _ => .error (schemaError "ClickHouse DESCRIBE returned an invalid row")

/-- Validate DESCRIBE rows and derive a deterministic Arrow transport type per column. -/
def parseDescribeColumns (describeRows : List (List PyValue)) :
    Except PyException (List ClickHouseColumn) := do
  let columns ← describeRows.mapM describeColumn
  if columns = [] then .error (schemaError "ClickHouse DESCRIBE returned no columns")
  else if ¬ (columns.map ClickHouseColumn.name).Nodup then
    .error (schemaError "ClickHouse DESCRIBE returned duplicate columns")
  else .ok columns

/-- The row of DESCRIBE tells of a column its name and its type, which is stripped; the transport
type is that of the stripped one. -/
inductive Describes : List PyValue → ClickHouseColumn → Prop
  | mk {name declared transportType : Text} {rest : List PyValue} (hname : name ≠ [])
      (htransport : transportTypeExpression (Text.strip declared) = .ok transportType) :
      Describes (.str name :: .str declared :: rest) ⟨name, Text.strip declared, transportType⟩

theorem describeColumn_eq_ok_iff {row : List PyValue} {column : ClickHouseColumn} :
    describeColumn row = .ok column ↔ Describes row column := by
  constructor
  · intro h
    unfold describeColumn at h
    split at h
    · split at h
      · cases h
      · next hname =>
        obtain ⟨transportType, htransport, h⟩ := bind_eq_ok.mp h
        rw [← Except.ok.inj h]
        exact .mk hname htransport
    · cases h
  · intro h
    cases h with
    | mk hname htransport =>
      rw [describeColumn, if_neg hname]
      exact bind_eq_ok.mpr ⟨_, htransport, rfl⟩

/-- One column for each row, at least one, and no two of one name. -/
theorem parseDescribeColumns_eq_ok_iff {rows : List (List PyValue)}
    {columns : List ClickHouseColumn} :
    parseDescribeColumns rows = .ok columns ↔
      List.Forall₂ Describes rows columns ∧ columns ≠ [] ∧
        (columns.map ClickHouseColumn.name).Nodup := by
  have hrows : ∀ parsed, rows.mapM describeColumn = .ok parsed ↔
      List.Forall₂ Describes rows parsed := fun parsed =>
    mapM_eq_ok.trans ⟨fun h => h.imp fun _ _ => describeColumn_eq_ok_iff.mp,
      fun h => h.imp fun _ _ => describeColumn_eq_ok_iff.mpr⟩
  constructor
  · intro h
    obtain ⟨parsed, hparsed, h⟩ := bind_eq_ok.mp h
    split at h
    · cases h
    · next hne =>
      split at h
      · cases h
      · next hnodup =>
        obtain rfl := Except.ok.inj h
        exact ⟨(hrows parsed).mp hparsed, hne, not_not.mp hnodup⟩
  · intro h
    obtain ⟨hdescribes, hne, hnodup⟩ := h
    refine bind_eq_ok.mpr ⟨columns, (hrows columns).mpr hdescribes, ?_⟩
    rw [if_neg hne, if_neg (not_not.mpr hnodup)]

theorem parseDescribeColumns_nodup {describeRows : List (List PyValue)}
    {columns : List ClickHouseColumn} (h : parseDescribeColumns describeRows = .ok columns) :
    (columns.map ClickHouseColumn.name).Nodup :=
  (parseDescribeColumns_eq_ok_iff.mp h).2.2

/-- One expression of a projection with its lossless cast. -/
def renderCast (name : Text) (castType : Option Text) : Except PyException Text := do
  let identifier ← quoteIdentifier name
  match castType with
  | none => return identifier
  | some type => return str "CAST(" ++ identifier ++ str " AS " ++ type ++ str ") AS " ++ identifier

/-- Render the validated lossless casts used for schema probing and task scans. -/
def renderSchemaProjection (columns : List ClickHouseColumn) : Except PyException Text := do
  let projection ← columns.mapM fun c => renderCast c.name c.castType
  return Text.join (str ", ") projection

/-- Canonical Arrow schema plus the safe projection used by every scan task.  A plan
of a discovered table and one of an injected schema both have one column for each
Arrow field, under the same name. -/
structure ClickHouseSchemaPlan where
  arrowSchema : List ArrowField
  columns : List ClickHouseColumn
  names_eq : columns.map ClickHouseColumn.name = arrowSchema.map ArrowField.name
  names_nodup : (arrowSchema.map ArrowField.name).Nodup

namespace ClickHouseSchemaPlan

/-- Build a no-cast plan for injected schemas used by contract tests. -/
def passthrough (arrowSchema : List ArrowField)
    (hnodup : (arrowSchema.map ArrowField.name).Nodup) : ClickHouseSchemaPlan where
  arrowSchema := arrowSchema
  columns := arrowSchema.map fun field =>
    { name := field.name, declaredType := [], transportType := [] }
  names_eq := by rw [List.map_map]; rfl
  names_nodup := hnodup

/-- The plan `discover_schema` builds from the DESCRIBE rows and the Arrow schema of
the probe. -/
def discovered (describeRows : List (List PyValue)) (arrowSchema : List ArrowField) :
    Except PyException ClickHouseSchemaPlan :=
  match hcolumns : parseDescribeColumns describeRows with
  | .error e => .error e
  | .ok columns => do
    let _ ← renderSchemaProjection columns
    if hnames : columns.map ClickHouseColumn.name = arrowSchema.map ArrowField.name then
      .ok ⟨arrowSchema, columns, hnames, hnames ▸ parseDescribeColumns_nodup hcolumns⟩
    else .error (schemaError "ClickHouse DESCRIBE and Arrow transport schemas disagree")

/-- The names of the Arrow schema. -/
def names (plan : ClickHouseSchemaPlan) : List Text := plan.arrowSchema.map ArrowField.name

/-- The cast of a column, found by name. -/
def castOf (plan : ClickHouseSchemaPlan) (name : Text) : Option (Option Text) :=
  (plan.columns.find? (·.name = name)).map ClickHouseColumn.castType

/-- Select ordered projection metadata for a validated schema subset. -/
def projectionFor (plan : ClickHouseSchemaPlan) (names : List Text) :
    Except PyException (List (Text × Option Text)) :=
  names.mapM fun name =>
    match plan.castOf name with
    | some cast => .ok (name, cast)
    | none =>
      .error (schemaError [.text "unknown ClickHouse projection column ", .repr name])

theorem castOf_isSome (plan : ClickHouseSchemaPlan) {name : Text} (h : name ∈ plan.names) :
    ∃ cast, plan.castOf name = some cast := by
  rw [names, ← plan.names_eq] at h
  obtain ⟨column, hcolumn, rfl⟩ := List.mem_map.mp h
  cases hfind : plan.columns.find? (·.name = column.name) with
  | none => simpa using List.find?_eq_none.mp hfind column hcolumn
  | some found => exact ⟨found.castType, by rw [castOf, hfind]; rfl⟩

/-- The projection of known names lists them in order. -/
theorem projectionFor_eq_ok (plan : ClickHouseSchemaPlan) {names : List Text}
    (h : ∀ name ∈ names, name ∈ plan.names) :
    plan.projectionFor names = .ok (names.map fun name => (name, (plan.castOf name).getD none)) := by
  refine mapM_eq_ok_map fun name hname => ?_
  obtain ⟨cast, hcast⟩ := plan.castOf_isSome (h name hname)
  rw [hcast]
  rfl

end ClickHouseSchemaPlan

end ClickHouse
end DaftOlap
