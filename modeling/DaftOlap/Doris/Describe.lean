/-
The columns DESCRIBE declares and their canonical schema (`doris/schema.py`).

A field keeps its Arrow type and whether it may be null; `ArrowField` is what the tasks carry of
it, with the type as Arrow writes it.
-/
import DaftOlap.Common.Contracts
import DaftOlap.Doris.Schema
import DaftOlap.Python.Format

namespace DaftOlap
namespace Doris

open Python

/-- The stable fields consumed from one Doris DESCRIBE row. -/
structure DorisColumn where
  name : Text
  dorisType : Text
  nullable : Bool
deriving DecidableEq

/-- `str(nullable).upper()`, when it is `YES` or `NO`.  No value but a text is written so. -/
def nullability (u : CaseData) : PyValue → Option Bool
  | .str t =>
    if Text.upper u t = str "YES" then some true
    else if Text.upper u t = str "NO" then some false
    else none
  | _ => none

/-- One row of DESCRIBE. -/
def describeColumn (u : CaseData) : List PyValue → Except PyException DorisColumn
  | name :: dorisType :: nullable :: _ =>
    match name, dorisType with
    | .str name, .str dorisType =>
      if name = [] ∨ PyChar.scalar '\x00' ∈ name ∨ Text.strip dorisType = [] then
        .error (schemaError "Doris DESCRIBE returned an invalid name or type")
      else
        match nullability u nullable with
        | some nullable => .ok ⟨name, dorisType, nullable⟩
        | none =>
          .error (schemaError [.text "invalid Doris nullability for column ", .repr name])
    | _, _ => .error (schemaError "Doris DESCRIBE returned an invalid name or type")
  | _ => .error (schemaError "Doris DESCRIBE returned an invalid row")

/-- Convert PyMySQL DESCRIBE tuples into validated column declarations. -/
def parseDescribeRows (u : CaseData) (rows : List (List PyValue)) :
    Except PyException (List DorisColumn) := do
  let columns ← rows.mapM (describeColumn u)
  if columns = [] then .error (schemaError "Doris DESCRIBE returned no columns")
  else if ¬ (columns.map DorisColumn.name).Nodup then
    .error (schemaError "Doris DESCRIBE returned duplicate columns")
  else return columns

/-! ## The canonical schema -/

/-- A field of the canonical schema. -/
structure CanonicalField where
  name : Text
  type : ArrowType
  nullable : Bool
deriving DecidableEq

/-- `str` of an Arrow type. -/
def ArrowType.text : ArrowType → Text
  | bool => str "bool"
  | int8 => str "int8"
  | int16 => str "int16"
  | int32 => str "int32"
  | int64 => str "int64"
  | float32 => str "float"
  | float64 => str "double"
  | string => str "string"
  | date32 => str "date32[day]"
  | timestampMicros => str "timestamp[us]"
  | decimal128 precision scale =>
    str "decimal128(" ++ intText precision ++ str ", " ++ intText scale ++ str ")"

/-- What the tasks carry of a field. -/
def CanonicalField.arrowField (field : CanonicalField) : ArrowField := ⟨field.name, field.type.text⟩

/-- The field of a column.  Arrow encodes its name, which surrogates do not survive: the
`UnicodeEncodeError` is a `ValueError`. -/
def canonicalField (u : CaseData) (column : DorisColumn) : Except PyException CanonicalField := do
  let type ← dorisTypeToArrow u column.dorisType column.name
  if column.name.ValidUtf8 then return ⟨column.name, type, column.nullable⟩
  else .error .valueError

/-- Build the transport-independent schema for all declared columns. -/
def canonicalSchema (u : CaseData) (columns : List DorisColumn) :
    Except PyException (List CanonicalField) :=
  columns.mapM (canonicalField u)

/-! ## What is described -/

/-- A row declares a column: a name, a type and a nullability, and whatever comes after. -/
structure Declared (u : CaseData) (row : List PyValue) (column : DorisColumn) : Prop where
  row : ∃ nullable rest, row = .str column.name :: .str column.dorisType :: .str nullable :: rest ∧
    Text.upper u nullable = str (if column.nullable then "YES" else "NO")
  name : column.name ≠ [] ∧ PyChar.scalar '\x00' ∉ column.name
  dorisType : Text.strip column.dorisType ≠ []

theorem nullability_eq_some_iff {u : CaseData} {value : PyValue} {nullable : Bool} :
    nullability u value = some nullable ↔
      ∃ t, value = .str t ∧ Text.upper u t = str (if nullable then "YES" else "NO") := by
  cases value with
  | str t =>
    have hne : str "YES" ≠ str "NO" := by decide
    simp only [nullability, PyValue.str.injEq, exists_eq_left']
    by_cases hyes : Text.upper u t = str "YES"
    · rw [if_pos hyes, hyes]
      cases nullable with
      | true => exact iff_of_true rfl rfl
      | false => exact iff_of_false (fun h => by cases h) hne
    rw [if_neg hyes]
    by_cases hno : Text.upper u t = str "NO"
    · rw [if_pos hno, hno]
      cases nullable with
      | true => exact iff_of_false (fun h => by cases h) hne.symm
      | false => exact iff_of_true rfl rfl
    · rw [if_neg hno]
      refine iff_of_false (fun h => by cases h) fun h => ?_
      cases nullable with
      | true => exact hyes h
      | false => exact hno h
  | none | bool | int | float | decimal | bytes | date | datetime | time | uuid | other =>
    exact iff_of_false (fun h => by cases h) fun ⟨_, h, _⟩ => by cases h

theorem describeColumn_eq_ok_iff {u : CaseData} {row : List PyValue} {column : DorisColumn} :
    describeColumn u row = .ok column ↔ Declared u row column := by
  constructor
  · intro h
    unfold describeColumn at h
    split at h
    · next value declaredType declaredNull rest =>
      split at h
      · next name dorisType =>
        split at h
        · cases h
        · next hvalid =>
          rw [not_or, not_or] at hvalid
          split at h
          · next nullable hnullable =>
            obtain rfl := Except.ok.inj h
            obtain ⟨t, rfl, ht⟩ := nullability_eq_some_iff.mp hnullable
            exact ⟨⟨t, rest, rfl, ht⟩, ⟨hvalid.1, hvalid.2.1⟩, hvalid.2.2⟩
          · cases h
      · cases h
    · cases h
  · intro h
    obtain ⟨nullable, rest, rfl, hnullable⟩ := h.row
    have hvalid : ¬ (column.name = [] ∨ PyChar.scalar '\x00' ∈ column.name ∨
        Text.strip column.dorisType = []) := by
      rw [not_or, not_or]
      exact ⟨h.name.1, h.name.2, h.dorisType⟩
    have hnull : nullability u (.str nullable) = some column.nullable :=
      nullability_eq_some_iff.mpr ⟨nullable, rfl, hnullable⟩
    simp only [describeColumn, if_neg hvalid, hnull]

/-- The rows declare the columns, of which there are some, and no name twice. -/
theorem parseDescribeRows_eq_ok_iff {u : CaseData} {rows : List (List PyValue)}
    {columns : List DorisColumn} :
    parseDescribeRows u rows = .ok columns ↔
      List.Forall₂ (Declared u) rows columns ∧ columns ≠ [] ∧
        (columns.map DorisColumn.name).Nodup := by
  have hrows : rows.mapM (describeColumn u) = .ok columns ↔
      List.Forall₂ (Declared u) rows columns := by
    rw [mapM_eq_ok]
    simp only [describeColumn_eq_ok_iff]
  rw [← hrows, parseDescribeRows, bind_eq_ok]
  constructor
  · rintro ⟨parsed, hparsed, h⟩
    by_cases hnil : parsed = []
    · rw [if_pos hnil] at h
      cases h
    rw [if_neg hnil] at h
    by_cases hnodup : (parsed.map DorisColumn.name).Nodup
    · rw [if_neg (not_not.mpr hnodup)] at h
      obtain rfl := Except.ok.inj h
      exact ⟨hparsed, hnil, hnodup⟩
    · rw [if_pos hnodup] at h
      cases h
  · rintro ⟨hparsed, hnil, hnodup⟩
    refine ⟨columns, hparsed, ?_⟩
    rw [if_neg hnil, if_neg (not_not.mpr hnodup)]
    rfl

/-- A column and its field. -/
structure Canonical (u : CaseData) (column : DorisColumn) (field : CanonicalField) : Prop where
  name : field.name = column.name
  type : dorisTypeToArrow u column.dorisType column.name = .ok field.type
  nullable : field.nullable = column.nullable
  valid : column.name.ValidUtf8

theorem canonicalField_eq_ok_iff {u : CaseData} {column : DorisColumn} {field : CanonicalField} :
    canonicalField u column = .ok field ↔ Canonical u column field := by
  rw [canonicalField, bind_eq_ok]
  constructor
  · rintro ⟨type, htype, h⟩
    by_cases hvalid : column.name.ValidUtf8
    · rw [if_pos hvalid] at h
      obtain rfl := Except.ok.inj h
      exact ⟨rfl, htype, rfl, hvalid⟩
    · rw [if_neg hvalid] at h
      cases h
  · rintro ⟨hname, htype, hnullable, hvalid⟩
    refine ⟨field.type, htype, ?_⟩
    rw [if_pos hvalid, ← hname, ← hnullable]
    rfl

theorem canonicalSchema_eq_ok_iff {u : CaseData} {columns : List DorisColumn}
    {fields : List CanonicalField} :
    canonicalSchema u columns = .ok fields ↔ List.Forall₂ (Canonical u) columns fields := by
  rw [canonicalSchema, mapM_eq_ok]
  simp only [canonicalField_eq_ok_iff]

/-- The fields are named as the columns are. -/
theorem names_canonicalSchema {u : CaseData} {columns : List DorisColumn}
    {fields : List CanonicalField} (h : List.Forall₂ (Canonical u) columns fields) :
    (fields.map CanonicalField.arrowField).map ArrowField.name =
      columns.map DorisColumn.name := by
  rw [List.map_map, eq_comm, ← List.forall₂_eq_eq_eq, List.forall₂_map_left_iff,
    List.forall₂_map_right_iff]
  exact h.imp fun column field hfield => hfield.name.symm

end Doris
end DaftOlap
