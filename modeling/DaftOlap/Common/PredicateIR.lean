/-
The predicate IR (`_common/predicate_ir.py`).

Every node carries what its constructor checks: a column name is a valid
identifier, a literal has a supported type and value, an IN set is non-empty and
has no NULL.  `column`, `literal` and `inSet` are the checks themselves.

`Predicate.eval` is the SQL meaning of a tree over an arbitrary type of cells.
-/
import DaftOlap.Common.Identifiers
import DaftOlap.Logic.Kleene
import DaftOlap.Python.Value

namespace DaftOlap

open Python Logic

inductive CompareOperator
  | eq
  | ne
  | lt
  | le
  | gt
  | ge
deriving DecidableEq, Repr

/-- The operator as the IR spells it. -/
def CompareOperator.symbol : CompareOperator → String
  | eq => "="
  | ne => "!="
  | lt => "<"
  | le => "<="
  | gt => ">"
  | ge => ">="

/-- A database column reference. -/
@[ext] structure Column where
  name : Text
  name_valid : ValidIdentifier name

instance : DecidableEq Column := fun _ _ => decidable_of_iff _ Column.ext_iff.symm

/-- `Column(name)`. -/
def column (name : Text) : Except PyException Column :=
  match h : validateIdentifier "predicate column" name with
  | .error e => .error e
  | .ok _ => .ok ⟨name, (validateIdentifier_eq_ok h).1⟩

theorem column_of_valid {name : Text} (h : ValidIdentifier name) : column name = .ok ⟨name, h⟩ := by
  have hv : validateIdentifier "predicate column" name = .ok name := validateIdentifier_of_valid h
  unfold column
  split
  · simp_all
  · rfl

theorem column_eq_ok {name : Text} {c : Column} (h : column name = .ok c) : c.name = name := by
  unfold column at h
  split at h
  · cases h
  · rw [← Except.ok.inj h]

/-- The check of `Literal.__post_init__`, as the message of the error it raises. -/
def literalError? (value : PyValue) : Option Message :=
  match value with
  | .other typeName => some [.text "unsupported predicate literal type: ", .plain typeName]
  | .float f =>
    if f.isFinite then none
    else some "non-finite floating-point literals are not pushed down"
  | .decimal d =>
    if d.isFinite then none else some "non-finite decimal literals are not pushed down"
  | v =>
    if v.isTimezoneAware then
      some "timezone-aware datetime and time literals are not pushed down"
    else none

theorem naive_of_supported {value : PyValue} (h : literalError? value = none) :
    value.isTimezoneAware = false := by
  cases value with
  | datetime d t => simpa [literalError?] using h
  | time t => simpa [literalError?] using h
  | _ => rfl

/-- A value that must be emitted as a driver parameter. -/
structure Literal where
  value : PyValue
  supported : literalError? value = none
deriving DecidableEq

/-- `Literal(value)`. -/
def literal (value : PyValue) : Except PyException Literal :=
  match h : literalError? value with
  | some message => .error (unsupportedPredicateError message)
  | none => .ok ⟨value, h⟩

theorem literal_of_supported {value : PyValue} (h : literalError? value = none) :
    literal value = .ok ⟨value, h⟩ := by
  unfold literal
  split
  · simp_all
  · rfl

theorem literal_eq_ok {value : PyValue} {l : Literal} (h : literal value = .ok l) :
    l.value = value := by
  unfold literal at h
  split at h
  · cases h
  · rw [← Except.ok.inj h]

theorem literal_eq_error {value : PyValue} {e : PyException} (h : literal value = .error e) :
    ∃ message, e = unsupportedPredicateError message := by
  unfold literal at h
  split at h
  · exact ⟨_, (Except.error.inj h).symm⟩
  · cases h

/-- A value of the IR. -/
inductive Value
  | column (c : Column)
  | literal (l : Literal)
deriving DecidableEq

/-- The members of an `InValues` node. -/
structure InSet where
  values : List Literal
  nonempty : values ≠ []
  notNull : ∀ v ∈ values, v.value ≠ .none
deriving DecidableEq

/-- The check of `InValues.__post_init__`. -/
def inSet (values : List Literal) : Except PyException InSet :=
  if hempty : values = [] then
    .error (unsupportedPredicateError "empty IN predicates are not pushed down")
  else if hnull : ∀ v ∈ values, v.value ≠ .none then .ok ⟨values, hempty, hnull⟩
  else .error (unsupportedPredicateError "IN predicates containing NULL are not pushed down")

theorem inSet_eq_ok {values : List Literal} {s : InSet} (h : inSet values = .ok s) :
    s.values = values := by
  unfold inSet at h
  split at h
  · cases h
  · split at h
    · rw [← Except.ok.inj h]
    · cases h

inductive Predicate
  /-- A binary SQL comparison. -/
  | compare (operator : CompareOperator) (left right : Value)
  /-- SQL three-valued conjunction. -/
  | and (left right : Predicate)
  /-- SQL three-valued disjunction. -/
  | or (left right : Predicate)
  /-- SQL three-valued negation. -/
  | not (operand : Predicate)
  /-- SQL NULL test. -/
  | isNull (operand : Column) (negated : Bool)
  /-- A non-empty SQL IN set without NULL members. -/
  | inValues (operand : Column) (values : InSet)
deriving DecidableEq

/-- The column `name` is 1. -/
def Predicate.equalsOne (name : Text) (hname : ValidIdentifier name) : Predicate :=
  .compare .eq (.column ⟨name, hname⟩) (.literal ⟨.int 1, rfl⟩)

/-- What a database does with cells: the cell a literal stands for, the NULL test
and the comparisons. -/
structure CellSemantics (Cell : Type) where
  literal : PyValue → Cell
  isNull : Cell → Bool
  compare : CompareOperator → Cell → Cell → Truth

/-- Cells that are the values themselves, compared for equality. -/
def CellSemantics.identity : CellSemantics PyValue where
  literal := id
  isNull v := decide (v = .none)
  compare _ v w := Truth.ofBool (decide (v = w))

variable {Cell : Type}

def Value.eval (S : CellSemantics Cell) (row : Text → Cell) : Value → Cell
  | .column c => row c.name
  | .literal l => S.literal l.value

/-- The SQL value of a predicate on a row; IN is a disjunction of equalities. -/
def Predicate.eval (S : CellSemantics Cell) (row : Text → Cell) : Predicate → Truth
  | .compare operator left right => S.compare operator (left.eval S row) (right.eval S row)
  | .and left right => (left.eval S row).and (right.eval S row)
  | .or left right => (left.eval S row).or (right.eval S row)
  | .not operand => (operand.eval S row).not
  | .isNull operand negated => Truth.ofBool (S.isNull (row operand.name) != negated)
  | .inValues operand values =>
    Truth.any (values.values.map fun v => S.compare .eq (row operand.name) (S.literal v.value))

def Value.literals : Value → List PyValue
  | .column _ => []
  | .literal l => [l.value]

/-- The literals of a predicate from left to right. -/
def Predicate.literals : Predicate → List PyValue
  | .compare _ left right => left.literals ++ right.literals
  | .and left right => left.literals ++ right.literals
  | .or left right => left.literals ++ right.literals
  | .not operand => operand.literals
  | .isNull _ _ => []
  | .inValues _ values => values.values.map Literal.value

/-- Every literal of a predicate passed its own check. -/
theorem Predicate.supported_of_mem_literals {p : Predicate} {v : PyValue} (h : v ∈ p.literals) :
    literalError? v = none := by
  have hvalue : ∀ {w : Value}, v ∈ w.literals → literalError? v = none := by
    intro w hw
    cases w with
    | column c => cases hw
    | literal l => rw [List.mem_singleton.mp hw, l.supported]
  induction p with
  | compare operator left right => exact (List.mem_append.mp h).elim hvalue hvalue
  | and left right ihl ihr => exact (List.mem_append.mp h).elim ihl ihr
  | or left right ihl ihr => exact (List.mem_append.mp h).elim ihl ihr
  | not operand ih => exact ih h
  | isNull operand negated => cases h
  | inValues operand values =>
    obtain ⟨l, -, rfl⟩ := List.mem_map.mp h
    exact l.supported

def Value.columns : Value → List Text
  | .column c => [c.name]
  | .literal _ => []

/-- The columns of a predicate, which `referenced_columns` collects as a set. -/
def Predicate.referencedColumns : Predicate → List Text
  | .compare _ left right => left.columns ++ right.columns
  | .and left right => left.referencedColumns ++ right.referencedColumns
  | .or left right => left.referencedColumns ++ right.referencedColumns
  | .not operand => operand.referencedColumns
  | .isNull operand _ => [operand.name]
  | .inValues operand _ => [operand.name]

/-- No comparison has a NULL literal, which `_compare` makes sure of. -/
def Predicate.NullFree : Predicate → Prop
  | .compare _ left right => PyValue.none ∉ left.literals ++ right.literals
  | .and left right => left.NullFree ∧ right.NullFree
  | .or left right => left.NullFree ∧ right.NullFree
  | .not operand => operand.NullFree
  | .isNull _ _ => True
  | .inValues _ _ => True

end DaftOlap
