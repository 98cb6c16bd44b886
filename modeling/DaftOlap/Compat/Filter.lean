/-
Compilation of Daft filters (`_PredicateCompiler` and `compile_filter`).

`Expr` is a Daft expression tree with the constructors the visitor dispatches
on.  `visit` is the visitor; its result is a predicate, a value or a list of
literals, and `compileFilter` turns every `UnsupportedPredicateError` into no
pushdown at all.

`Expr.eval` is what Daft computes for an expression, over cells and functions it
does not fix, and `Expr.Supported` is the subset of trees the IR can express.
-/
import DaftOlap.Common.PredicateIR

namespace DaftOlap

open Python Logic

/-- A Daft expression. -/
inductive Expr
  | col (name : Text)
  | lit (value : PyValue)
  | alias (expr : Expr) (name : Text)
  | cast (expr : Expr) (dtype : Text)
  | tryCast (expr : Expr) (dtype : Text)
  | function (name : Text) (args : List Expr)
  | coalesce (args : List Expr)
  | list (items : List Expr)
  | and (left right : Expr)
  | or (left right : Expr)
  | not (expr : Expr)
  | equal (left right : Expr)
  | notEqual (left right : Expr)
  | lessThan (left right : Expr)
  | lessThanOrEqual (left right : Expr)
  | greaterThan (left right : Expr)
  | greaterThanOrEqual (left right : Expr)
  | between (expr lower upper : Expr)
  | isIn (expr : Expr) (items : List Expr)
  | isNull (expr : Expr)
  | notNull (expr : Expr)

/-! ## The visitor -/

/-- What visiting a node returns. -/
inductive Visited
  | predicate (p : Predicate)
  | value (v : Value)
  | literals (l : List Literal)

/-- `_predicate(expr)`, given the visit of the expression. -/
def asPredicate (visited : Except PyException Visited) : Except PyException Predicate := do
  match ← visited with
  | .predicate p => .ok p
  | _ => .error (unsupportedPredicateError "expected a predicate expression")

/-- `_value(expr)`, given the visit of the expression. -/
def asValue (visited : Except PyException Visited) : Except PyException Value := do
  match ← visited with
  | .value v => .ok v
  | _ => .error (unsupportedPredicateError "comparison operands must be columns or literals")

def Value.isNullLiteral : Value → Bool
  | .column _ => false
  | .literal l => l.value = .none

/-- `_compare(operator, left, right)`, given the visits of the operands. -/
def compareVisited (operator : CompareOperator) (left right : Except PyException Visited) :
    Except PyException Predicate := do
  let leftValue ← asValue left
  let rightValue ← asValue right
  if leftValue.isNullLiteral || rightValue.isNullLiteral then
    .error (unsupportedPredicateError "NULL comparisons must use IS NULL")
  else .ok (.compare operator leftValue rightValue)

/-- The operand of an IN or NULL test, given its visit. -/
def asColumn (message : String) (visited : Except PyException Visited) :
    Except PyException Column := do
  match ← asValue visited with
  | .column c => .ok c
  | .literal _ => .error (unsupportedPredicateError message)

def asLiteral : Value → Except PyException Literal
  | .literal l => .ok l
  | .column _ => .error (unsupportedPredicateError "IN items must all be literals")

/-- An item of `visit_list`. -/
def listItem : Visited → Except PyException Literal
  | .value (.literal l) => .ok l
  | _ => .error (unsupportedPredicateError "IN items must all be literals")

mutual

/-- `_PREDICATE_COMPILER.visit(expression)`. -/
def visit : Expr → Except PyException Visited
  | .col name => do return .value (.column (← column name))
  | .lit value => do return .value (.literal (← literal value))
  | .alias _ _ => .error (unsupportedPredicateError "aliases are not pushed down")
  | .cast _ _ => .error (unsupportedPredicateError "casts are not pushed down")
  | .tryCast _ _ =>
    .error (unsupportedPredicateError "try_cast expressions are not pushed down")
  | .function name _ =>
    .error (unsupportedPredicateError
      [.text "function ", .repr name, .text " is not pushed down"])
  | .coalesce _ => .error (unsupportedPredicateError "coalesce is not pushed down")
  | .list items => do return .literals (← (← visitItems items).mapM listItem)
  | .and left right => do
    let l ← asPredicate (visit left)
    let r ← asPredicate (visit right)
    return .predicate (.and l r)
  | .or left right => do
    let l ← asPredicate (visit left)
    let r ← asPredicate (visit right)
    return .predicate (.or l r)
  | .not expr => do return .predicate (.not (← asPredicate (visit expr)))
  | .equal left right => do
    return .predicate (← compareVisited .eq (visit left) (visit right))
  | .notEqual left right => do
    return .predicate (← compareVisited .ne (visit left) (visit right))
  | .lessThan left right => do
    return .predicate (← compareVisited .lt (visit left) (visit right))
  | .lessThanOrEqual left right => do
    return .predicate (← compareVisited .le (visit left) (visit right))
  | .greaterThan left right => do
    return .predicate (← compareVisited .gt (visit left) (visit right))
  | .greaterThanOrEqual left right => do
    return .predicate (← compareVisited .ge (visit left) (visit right))
  | .between expr lower upper => do
    let atLeast ← compareVisited .ge (visit expr) (visit lower)
    let atMost ← compareVisited .le (visit expr) (visit upper)
    return .predicate (.and atLeast atMost)
  | .isIn expr items => do
    let operand ← asColumn "IN operand must be a column" (visit expr)
    let literals ← (← valueItems items).mapM asLiteral
    return .predicate (.inValues operand (← inSet literals))
  | .isNull expr => do
    let operand ← asColumn "IS NULL operand must be a column" (visit expr)
    return .predicate (.isNull operand false)
  | .notNull expr => do
    let operand ← asColumn "IS NOT NULL operand must be a column" (visit expr)
    return .predicate (.isNull operand true)

/-- `[self.visit(item) for item in items]`. -/
def visitItems : List Expr → Except PyException (List Visited)
  | [] => .ok []
  | item :: items => do
    let v ← visit item
    let vs ← visitItems items
    return v :: vs

/-- `tuple(self._value(item) for item in items)`. -/
def valueItems : List Expr → Except PyException (List Value)
  | [] => .ok []
  | item :: items => do
    let v ← asValue (visit item)
    let vs ← valueItems items
    return v :: vs

end

/-- Compile a complete Daft filter, returning no pushdown for any unsupported subtree. -/
def compileFilter : Option Expr → Except PyException (Option Predicate)
  | none => .ok none
  | some expression =>
    match visit expression with
    | .error e => if e.kind? = some .unsupportedPredicate then .ok none else .error e
    | .ok (.predicate p) => .ok (some p)
    | .ok _ => .ok none

/-! ## The meaning of an expression -/

/-- What Daft does with cells: beside the semantics of comparisons, the passage
between cells and truth values, and the operations that are never pushed down. -/
structure ExprSemantics (Cell : Type) extends CellSemantics Cell where
  truth : Cell → Truth
  ofTruth : Truth → Cell
  truth_ofTruth : ∀ t, truth (ofTruth t) = t
  cast : Text → Cell → Cell
  tryCast : Text → Cell → Cell
  function : Text → List Cell → Cell
  coalesce : List Cell → Cell
  list : List Cell → Cell

variable {Cell : Type}

mutual

/-- The value of an expression on a row. -/
def Expr.eval (S : ExprSemantics Cell) (row : Text → Cell) : Expr → Cell
  | .col name => row name
  | .lit value => S.literal value
  | .alias expr _ => expr.eval S row
  | .cast expr dtype => S.cast dtype (expr.eval S row)
  | .tryCast expr dtype => S.tryCast dtype (expr.eval S row)
  | .function name args => S.function name (Expr.evalItems S row args)
  | .coalesce args => S.coalesce (Expr.evalItems S row args)
  | .list items => S.list (Expr.evalItems S row items)
  | .and left right => S.ofTruth ((S.truth (left.eval S row)).and (S.truth (right.eval S row)))
  | .or left right => S.ofTruth ((S.truth (left.eval S row)).or (S.truth (right.eval S row)))
  | .not expr => S.ofTruth (S.truth (expr.eval S row)).not
  | .equal left right => S.ofTruth (S.compare .eq (left.eval S row) (right.eval S row))
  | .notEqual left right => S.ofTruth (S.compare .ne (left.eval S row) (right.eval S row))
  | .lessThan left right => S.ofTruth (S.compare .lt (left.eval S row) (right.eval S row))
  | .lessThanOrEqual left right => S.ofTruth (S.compare .le (left.eval S row) (right.eval S row))
  | .greaterThan left right => S.ofTruth (S.compare .gt (left.eval S row) (right.eval S row))
  | .greaterThanOrEqual left right =>
    S.ofTruth (S.compare .ge (left.eval S row) (right.eval S row))
  | .between expr lower upper =>
    S.ofTruth ((S.compare .ge (expr.eval S row) (lower.eval S row)).and
      (S.compare .le (expr.eval S row) (upper.eval S row)))
  | .isIn expr items =>
    S.ofTruth (Truth.any ((Expr.evalItems S row items).map (S.compare .eq (expr.eval S row))))
  | .isNull expr => S.ofTruth (Truth.ofBool (S.isNull (expr.eval S row)))
  | .notNull expr => S.ofTruth (Truth.ofBool (!S.isNull (expr.eval S row)))

def Expr.evalItems (S : ExprSemantics Cell) (row : Text → Cell) : List Expr → List Cell
  | [] => []
  | item :: items => item.eval S row :: Expr.evalItems S row items

end

/-! ## The supported subset -/

/-- A column. -/
def Expr.IsColumn : Expr → Prop
  | .col _ => True
  | _ => False

/-- A non-NULL literal that may be pushed down. -/
def Expr.IsSupportedLiteral : Expr → Prop
  | .lit value => literalError? value = none ∧ value ≠ .none
  | _ => False

/-- What may stand on either side of a comparison. -/
def Expr.IsOperand (e : Expr) : Prop := e.IsColumn ∨ e.IsSupportedLiteral

/-- The trees in which every node is supported at its position. -/
def Expr.Supported : Expr → Prop
  | .and left right => left.Supported ∧ right.Supported
  | .or left right => left.Supported ∧ right.Supported
  | .not expr => expr.Supported
  | .equal left right => left.IsOperand ∧ right.IsOperand
  | .notEqual left right => left.IsOperand ∧ right.IsOperand
  | .lessThan left right => left.IsOperand ∧ right.IsOperand
  | .lessThanOrEqual left right => left.IsOperand ∧ right.IsOperand
  | .greaterThan left right => left.IsOperand ∧ right.IsOperand
  | .greaterThanOrEqual left right => left.IsOperand ∧ right.IsOperand
  | .between expr lower upper => expr.IsOperand ∧ lower.IsOperand ∧ upper.IsOperand
  | .isIn expr items => expr.IsColumn ∧ items ≠ [] ∧ ∀ item ∈ items, item.IsSupportedLiteral
  | .isNull expr => expr.IsColumn
  | .notNull expr => expr.IsColumn
  | _ => False

mutual

/-- The columns an expression names. -/
def Expr.columns : Expr → List Text
  | .col name => [name]
  | .lit _ => []
  | .alias expr _ => expr.columns
  | .cast expr _ => expr.columns
  | .tryCast expr _ => expr.columns
  | .function _ args => Expr.columnsOf args
  | .coalesce args => Expr.columnsOf args
  | .list items => Expr.columnsOf items
  | .and left right => left.columns ++ right.columns
  | .or left right => left.columns ++ right.columns
  | .not expr => expr.columns
  | .equal left right => left.columns ++ right.columns
  | .notEqual left right => left.columns ++ right.columns
  | .lessThan left right => left.columns ++ right.columns
  | .lessThanOrEqual left right => left.columns ++ right.columns
  | .greaterThan left right => left.columns ++ right.columns
  | .greaterThanOrEqual left right => left.columns ++ right.columns
  | .between expr lower upper => expr.columns ++ lower.columns ++ upper.columns
  | .isIn expr items => expr.columns ++ Expr.columnsOf items
  | .isNull expr => expr.columns
  | .notNull expr => expr.columns

def Expr.columnsOf : List Expr → List Text
  | [] => []
  | item :: items => item.columns ++ Expr.columnsOf items

end

/-! ## Which exceptions the visitor raises -/

/-- A computation raises nothing but `UnsupportedPredicateError`. -/
def Settles {α : Type} (x : Except PyException α) : Prop :=
  ∀ e, x = .error e → ∃ message, e = unsupportedPredicateError message

theorem Settles.ok {α : Type} (a : α) : Settles (.ok a : Except PyException α) := by
  intro e h
  cases h

theorem Settles.unsupported {α : Type} (message : Message) :
    Settles (.error (unsupportedPredicateError message) : Except PyException α) := by
  intro e h
  exact ⟨message, (Except.error.inj h).symm⟩

theorem Settles.bind {α β : Type} {x : Except PyException α} {f : α → Except PyException β}
    (hx : Settles x) (hf : ∀ a, Settles (f a)) : Settles (x >>= f) := by
  cases x with
  | error e => exact fun e' h => hx e' (congrArg Except.error (Except.error.inj h))
  | ok a => exact hf a

theorem Settles.mapM {α β : Type} {f : α → Except PyException β} (hf : ∀ a, Settles (f a))
    (l : List α) : Settles (l.mapM f) := by
  induction l with
  | nil => exact Settles.ok []
  | cons a l ih =>
    rw [List.mapM_cons]
    exact (hf a).bind fun b => ih.bind fun bs => Settles.ok (b :: bs)

theorem Settles.asPredicate {x : Except PyException Visited} (hx : Settles x) :
    Settles (asPredicate x) :=
  hx.bind fun v => by cases v <;> first | exact Settles.ok _ | exact Settles.unsupported _

theorem Settles.asValue {x : Except PyException Visited} (hx : Settles x) :
    Settles (asValue x) :=
  hx.bind fun v => by cases v <;> first | exact Settles.ok _ | exact Settles.unsupported _

theorem Settles.compareVisited {operator : CompareOperator} {x y : Except PyException Visited}
    (hx : Settles x) (hy : Settles y) : Settles (compareVisited operator x y) :=
  hx.asValue.bind fun l => hy.asValue.bind fun r => by
    split
    · exact Settles.unsupported _
    · exact Settles.ok _

theorem Settles.asColumn {message : String} {x : Except PyException Visited} (hx : Settles x) :
    Settles (asColumn message x) :=
  hx.asValue.bind fun v => by cases v <;> first | exact Settles.ok _ | exact Settles.unsupported _

theorem settles_inSet (values : List Literal) : Settles (inSet values) := by
  unfold inSet
  split
  · exact Settles.unsupported _
  · split
    · exact Settles.ok _
    · exact Settles.unsupported _

theorem settles_visitItems {items : List Expr} (h : ∀ item ∈ items, Settles (visit item)) :
    Settles (visitItems items) := by
  induction items with
  | nil => exact Settles.ok []
  | cons item items ih =>
    rw [visitItems]
    exact (h item List.mem_cons_self).bind fun v =>
      (ih fun i hi => h i (List.mem_cons_of_mem _ hi)).bind fun vs => Settles.ok (v :: vs)

theorem settles_valueItems {items : List Expr} (h : ∀ item ∈ items, Settles (visit item)) :
    Settles (valueItems items) := by
  induction items with
  | nil => exact Settles.ok []
  | cons item items ih =>
    rw [valueItems]
    exact (h item List.mem_cons_self).asValue.bind fun v =>
      (ih fun i hi => h i (List.mem_cons_of_mem _ hi)).bind fun vs => Settles.ok (v :: vs)

theorem mem_columnsOf {item : Expr} {items : List Expr} (hitem : item ∈ items) {c : Text}
    (hc : c ∈ item.columns) : c ∈ Expr.columnsOf items := by
  induction items with
  | nil => cases hitem
  | cons i items ih =>
    rw [Expr.columnsOf, List.mem_append]
    rcases List.mem_cons.mp hitem with rfl | hitem
    · exact Or.inl hc
    · exact Or.inr (ih hitem)

/-- On an expression whose column names are valid, the visitor raises nothing but
`UnsupportedPredicateError`. -/
theorem visit_settles (e : Expr) (h : ∀ c ∈ e.columns, ValidIdentifier c) :
    Settles (visit e) := by
  match e with
  | .col name =>
    rw [visit, column_of_valid (h name List.mem_cons_self)]
    exact Settles.ok _
  | .lit value =>
    rw [visit]
    exact Settles.bind (fun e he => literal_eq_error he) fun l => Settles.ok _
  | .alias _ _ => exact Settles.unsupported _
  | .cast _ _ => exact Settles.unsupported _
  | .tryCast _ _ => exact Settles.unsupported _
  | .function _ _ => exact Settles.unsupported _
  | .coalesce _ => exact Settles.unsupported _
  | .list items =>
    have hitems : ∀ item ∈ items, Settles (visit item) :=
      fun item hi => visit_settles item fun c hc => h c (mem_columnsOf hi hc)
    have hitem : ∀ v, Settles (listItem v) := by
      intro v
      unfold listItem
      split
      · exact Settles.ok _
      · exact Settles.unsupported _
    rw [visit]
    exact (settles_visitItems hitems).bind fun vs =>
      (Settles.mapM hitem vs).bind fun ls => Settles.ok _
  | .and left right =>
    have hl := visit_settles left fun c hc => h c (List.mem_append_left _ hc)
    have hr := visit_settles right fun c hc => h c (List.mem_append_right _ hc)
    rw [visit]
    exact hl.asPredicate.bind fun l => hr.asPredicate.bind fun r => Settles.ok _
  | .or left right =>
    have hl := visit_settles left fun c hc => h c (List.mem_append_left _ hc)
    have hr := visit_settles right fun c hc => h c (List.mem_append_right _ hc)
    rw [visit]
    exact hl.asPredicate.bind fun l => hr.asPredicate.bind fun r => Settles.ok _
  | .not expr =>
    rw [visit]
    exact (visit_settles expr h).asPredicate.bind fun p => Settles.ok _
  | .equal left right | .notEqual left right | .lessThan left right
  | .lessThanOrEqual left right | .greaterThan left right | .greaterThanOrEqual left right =>
    have hl := visit_settles left fun c hc => h c (List.mem_append_left _ hc)
    have hr := visit_settles right fun c hc => h c (List.mem_append_right _ hc)
    rw [visit]
    exact (hl.compareVisited hr).bind fun p => Settles.ok _
  | .between expr lower upper =>
    have he := visit_settles expr fun c hc =>
      h c (List.mem_append_left _ (List.mem_append_left _ hc))
    have hlo := visit_settles lower fun c hc =>
      h c (List.mem_append_left _ (List.mem_append_right _ hc))
    have hhi := visit_settles upper fun c hc => h c (List.mem_append_right _ hc)
    rw [visit]
    exact (he.compareVisited hlo).bind fun p => (he.compareVisited hhi).bind fun q => Settles.ok _
  | .isIn expr items =>
    have he := visit_settles expr fun c hc => h c (List.mem_append_left _ hc)
    have hitems : ∀ item ∈ items, Settles (visit item) := fun item hi =>
      visit_settles item fun c hc => h c (List.mem_append_right _ (mem_columnsOf hi hc))
    have hitem : ∀ v, Settles (asLiteral v) := by
      intro v
      cases v <;> first | exact Settles.ok _ | exact Settles.unsupported _
    rw [visit]
    exact he.asColumn.bind fun c => (settles_valueItems hitems).bind fun vs =>
      (Settles.mapM hitem vs).bind fun ls => (settles_inSet ls).bind fun s => Settles.ok _
  | .isNull expr | .notNull expr =>
    rw [visit]
    exact (visit_settles expr h).asColumn.bind fun c => Settles.ok _
termination_by sizeOf e

/-! ## What the visitor returns -/

/-- `v` is the compiled form of the column or literal `e`. -/
inductive IsValueOf : Expr → Value → Prop
  | column (c : Column) : IsValueOf (.col c.name) (.column c)
  | literal (l : Literal) : IsValueOf (.lit l.value) (.literal l)

theorem IsValueOf.eval_eq {e : Expr} {v : Value} (h : IsValueOf e v) (S : ExprSemantics Cell)
    (row : Text → Cell) : v.eval S.toCellSemantics row = e.eval S row := by
  cases h <;> rfl

theorem IsValueOf.isOperand {e : Expr} {v : Value} (h : IsValueOf e v)
    (hv : v.isNullLiteral = false) : e.IsOperand := by
  cases h with
  | column c => exact Or.inl trivial
  | literal l => exact Or.inr ⟨l.supported, by simpa [Value.isNullLiteral] using hv⟩

/-- Only columns and literals are visited to values. -/
theorem asValue_visit_eq_ok {e : Expr} {v : Value} (h : asValue (visit e) = .ok v) :
    IsValueOf e v := by
  obtain ⟨visited, hvisit, h⟩ := bind_eq_ok.mp h
  cases visited with
  | predicate p => cases h
  | literals l => cases h
  | value w =>
    have hw : w = v := Except.ok.inj h
    subst hw
    cases e with
    | col name =>
      rw [visit] at hvisit
      obtain ⟨c, hc, hvisit⟩ := bind_eq_ok.mp hvisit
      rw [← column_eq_ok hc]
      injection hvisit with hvisit
      injection hvisit with hvisit
      rw [← hvisit]
      exact .column c
    | lit value =>
      rw [visit] at hvisit
      obtain ⟨l, hl, hvisit⟩ := bind_eq_ok.mp hvisit
      rw [← literal_eq_ok hl]
      injection hvisit with hvisit
      injection hvisit with hvisit
      rw [← hvisit]
      exact .literal l
    | _ => simp [visit, bind_eq_ok] at hvisit

theorem asColumn_visit_eq_ok {message : String} {e : Expr} {c : Column}
    (h : asColumn message (visit e) = .ok c) : e = .col c.name := by
  obtain ⟨v, hv, h⟩ := bind_eq_ok.mp h
  cases asValue_visit_eq_ok hv with
  | column d => rw [Except.ok.inj h]
  | literal l => cases h

/-- An operand with valid column names is visited to a value. -/
theorem asValue_of_isOperand {e : Expr} (h : e.IsOperand)
    (hcols : ∀ c ∈ e.columns, ValidIdentifier c) :
    ∃ v, asValue (visit e) = .ok v ∧ v.isNullLiteral = false := by
  rcases h with h | h
  · cases e with
    | col name =>
      have hname := hcols name List.mem_cons_self
      exact ⟨.column ⟨name, hname⟩, by rw [visit, column_of_valid hname]; rfl, rfl⟩
    | _ => cases h
  · cases e with
    | lit value =>
      obtain ⟨hsupported, hnull⟩ := h
      refine ⟨.literal ⟨value, hsupported⟩, by rw [visit, literal_of_supported hsupported]; rfl, ?_⟩
      simpa [Value.isNullLiteral] using hnull
    | _ => cases h

theorem asColumn_of_isColumn {message : String} {e : Expr} (h : e.IsColumn)
    (hcols : ∀ c ∈ e.columns, ValidIdentifier c) : ∃ c, asColumn message (visit e) = .ok c := by
  cases e with
  | col name =>
    have hname := hcols name List.mem_cons_self
    exact ⟨⟨name, hname⟩, by rw [visit, column_of_valid hname]; rfl⟩
  | _ => cases h

/-- `p` is the whole of `e`: every node of `e` is supported, and the two have the
same value on every row. -/
structure Compiles (e : Expr) (p : Predicate) : Prop where
  supported : e.Supported
  nullFree : p.NullFree
  eval_eq : ∀ {Cell : Type} (S : ExprSemantics Cell) (row : Text → Cell),
    p.eval S.toCellSemantics row = S.truth (e.eval S row)

theorem compareVisited_eq_ok {operator : CompareOperator} {left right : Expr} {p : Predicate}
    (h : compareVisited operator (visit left) (visit right) = .ok p) :
    left.IsOperand ∧ right.IsOperand ∧ p.NullFree ∧
      ∀ {Cell : Type} (S : ExprSemantics Cell) (row : Text → Cell),
        p.eval S.toCellSemantics row = S.compare operator (left.eval S row) (right.eval S row) := by
  obtain ⟨l, hl, h⟩ := bind_eq_ok.mp h
  obtain ⟨r, hr, h⟩ := bind_eq_ok.mp h
  have hleft := asValue_visit_eq_ok hl
  have hright := asValue_visit_eq_ok hr
  split at h
  · cases h
  · next hnull =>
    simp only [Bool.or_eq_true, not_or, Bool.not_eq_true] at hnull
    rw [← Except.ok.inj h]
    refine ⟨hleft.isOperand hnull.1, hright.isOperand hnull.2, ?_, ?_⟩
    · have hnotNull : ∀ v : Value, v.isNullLiteral = false → PyValue.none ∉ v.literals := by
        intro v hv
        cases v with
        | column c => simp [Value.literals]
        | literal l => simpa [Value.isNullLiteral, Value.literals, eq_comm] using hv
      rw [Predicate.NullFree, List.mem_append, not_or]
      exact ⟨hnotNull l hnull.1, hnotNull r hnull.2⟩
    · intro Cell S row
      rw [Predicate.eval, hleft.eval_eq, hright.eval_eq]

theorem compareVisited_of_isOperand {operator : CompareOperator} {left right : Expr}
    (hl : left.IsOperand) (hr : right.IsOperand)
    (hleft : ∀ c ∈ left.columns, ValidIdentifier c)
    (hright : ∀ c ∈ right.columns, ValidIdentifier c) :
    ∃ p, compareVisited operator (visit left) (visit right) = .ok p := by
  obtain ⟨l, hlv, hln⟩ := asValue_of_isOperand hl hleft
  obtain ⟨r, hrv, hrn⟩ := asValue_of_isOperand hr hright
  exact ⟨.compare operator l r, by simp [compareVisited, hlv, hrv, hln, hrn]⟩

theorem valueItems_eq_ok {items : List Expr} {values : List Value}
    (h : valueItems items = .ok values) : List.Forall₂ IsValueOf items values := by
  induction items generalizing values with
  | nil =>
    rw [valueItems] at h
    rw [← Except.ok.inj h]
    exact List.Forall₂.nil
  | cons item items ih =>
    rw [valueItems] at h
    obtain ⟨v, hv, h⟩ := bind_eq_ok.mp h
    obtain ⟨vs, hvs, h⟩ := bind_eq_ok.mp h
    rw [← Except.ok.inj h]
    exact List.Forall₂.cons (asValue_visit_eq_ok hv) (ih hvs)

/-- The members of an IN set are its items, in order. -/
theorem asLiterals_valueItems {items : List Expr} {values : List Value} {literals : List Literal}
    (hvalues : List.Forall₂ IsValueOf items values) (h : values.mapM asLiteral = .ok literals) :
    items = literals.map fun l => .lit l.value := by
  have hliterals := mapM_eq_ok.mp h
  clear h
  induction hvalues generalizing literals with
  | nil =>
    cases hliterals
    rfl
  | cons hitem _ ih =>
    cases hliterals with
    | cons hl hls =>
      rw [List.map_cons, ← ih hls]
      cases hitem with
      | column c => cases hl
      | literal l => rw [← Except.ok.inj hl]

theorem evalItems_literals (S : ExprSemantics Cell) (row : Text → Cell) (literals : List Literal) :
    Expr.evalItems S row (literals.map fun l => .lit l.value) =
      literals.map fun l => S.literal l.value := by
  induction literals with
  | nil => rfl
  | cons l literals ih => rw [List.map_cons, Expr.evalItems, ih, List.map_cons, Expr.eval]

theorem valueItems_of_supported {items : List Expr}
    (h : ∀ item ∈ items, item.IsSupportedLiteral) :
    ∃ literals : List Literal, valueItems items = .ok (literals.map Value.literal) ∧
      ∀ l ∈ literals, l.value ≠ .none := by
  induction items with
  | nil => exact ⟨[], rfl, fun l hl => by cases hl⟩
  | cons item items ih =>
    obtain ⟨literals, hliterals, hnull⟩ := ih fun i hi => h i (List.mem_cons_of_mem _ hi)
    have hitem := h item List.mem_cons_self
    cases item with
    | lit value =>
      refine ⟨⟨value, hitem.1⟩ :: literals, ?_, ?_⟩
      · rw [valueItems, visit, literal_of_supported hitem.1, hliterals]
        rfl
      · intro l hl
        rcases List.mem_cons.mp hl with rfl | hl
        · exact hitem.2
        · exact hnull l hl
    | _ => cases hitem

theorem asPredicate_visit_eq_ok {e : Expr} {p : Predicate}
    (h : asPredicate (visit e) = .ok p) : visit e = .ok (.predicate p) := by
  obtain ⟨visited, hvisit, h⟩ := bind_eq_ok.mp h
  cases visited with
  | predicate q => rw [hvisit, Except.ok.inj h]
  | value v => cases h
  | literals l => cases h

/-- A predicate the visitor returns at a node, from the step that built it. -/
theorem predicate_of_visit {x : Except PyException Predicate} {p : Predicate}
    (h : (do return Visited.predicate (← x)) = .ok (Visited.predicate p)) : x = .ok p := by
  obtain ⟨q, hq, h⟩ := bind_eq_ok.mp h
  rw [hq, Visited.predicate.inj (Except.ok.inj h)]

/-- Whatever predicate a visit returns is the compiled form of the whole
expression. -/
theorem compiles_of_visit {e : Expr} {p : Predicate} (h : visit e = .ok (.predicate p)) :
    Compiles e p := by
  match e with
  | .col _ | .lit _ | .alias _ _ | .cast _ _ | .tryCast _ _ | .function _ _ | .coalesce _
  | .list _ => simp [visit, bind_eq_ok] at h
  | .and left right =>
    rw [visit] at h
    obtain ⟨l, hl, h⟩ := bind_eq_ok.mp h
    obtain ⟨r, hr, h⟩ := bind_eq_ok.mp h
    obtain rfl : Predicate.and l r = p := by simpa using h
    have hl := compiles_of_visit (asPredicate_visit_eq_ok hl)
    have hr := compiles_of_visit (asPredicate_visit_eq_ok hr)
    exact ⟨⟨hl.supported, hr.supported⟩, ⟨hl.nullFree, hr.nullFree⟩, fun S row => by
      rw [Predicate.eval, hl.eval_eq, hr.eval_eq, Expr.eval, S.truth_ofTruth]⟩
  | .or left right =>
    rw [visit] at h
    obtain ⟨l, hl, h⟩ := bind_eq_ok.mp h
    obtain ⟨r, hr, h⟩ := bind_eq_ok.mp h
    obtain rfl : Predicate.or l r = p := by simpa using h
    have hl := compiles_of_visit (asPredicate_visit_eq_ok hl)
    have hr := compiles_of_visit (asPredicate_visit_eq_ok hr)
    exact ⟨⟨hl.supported, hr.supported⟩, ⟨hl.nullFree, hr.nullFree⟩, fun S row => by
      rw [Predicate.eval, hl.eval_eq, hr.eval_eq, Expr.eval, S.truth_ofTruth]⟩
  | .not expr =>
    rw [visit] at h
    obtain ⟨q, hq, h⟩ := bind_eq_ok.mp h
    obtain rfl : Predicate.not q = p := by simpa using h
    have hq := compiles_of_visit (asPredicate_visit_eq_ok hq)
    exact ⟨hq.supported, hq.nullFree, fun S row => by
      rw [Predicate.eval, hq.eval_eq, Expr.eval, S.truth_ofTruth]⟩
  | .equal left right | .notEqual left right | .lessThan left right
  | .lessThanOrEqual left right | .greaterThan left right | .greaterThanOrEqual left right =>
    rw [visit] at h
    obtain ⟨hl, hr, hnull, heval⟩ := compareVisited_eq_ok (predicate_of_visit h)
    exact ⟨⟨hl, hr⟩, hnull, fun S row => by rw [heval, Expr.eval, S.truth_ofTruth]⟩
  | .between expr lower upper =>
    rw [visit] at h
    obtain ⟨atLeast, hge, h⟩ := bind_eq_ok.mp h
    obtain ⟨atMost, hle, h⟩ := bind_eq_ok.mp h
    obtain rfl : Predicate.and atLeast atMost = p := by simpa using h
    obtain ⟨he, hlo, hgeNull, hgeEval⟩ := compareVisited_eq_ok hge
    obtain ⟨-, hhi, hleNull, hleEval⟩ := compareVisited_eq_ok hle
    exact ⟨⟨he, hlo, hhi⟩, ⟨hgeNull, hleNull⟩, fun S row => by
      rw [Predicate.eval, hgeEval, hleEval, Expr.eval, S.truth_ofTruth]⟩
  | .isIn expr items =>
    rw [visit] at h
    obtain ⟨operand, hoperand, h⟩ := bind_eq_ok.mp h
    obtain ⟨values, hvalues, h⟩ := bind_eq_ok.mp h
    obtain ⟨literals, hliterals, h⟩ := bind_eq_ok.mp h
    obtain ⟨members, hmembers, h⟩ := bind_eq_ok.mp h
    obtain rfl : Predicate.inValues operand members = p := by simpa using h
    obtain rfl := asColumn_visit_eq_ok hoperand
    obtain rfl := inSet_eq_ok hmembers
    obtain rfl := asLiterals_valueItems (valueItems_eq_ok hvalues) hliterals
    refine ⟨⟨trivial, by simpa using members.nonempty, ?_⟩, trivial, fun S row => ?_⟩
    · intro item hitem
      obtain ⟨l, hl, rfl⟩ := List.mem_map.mp hitem
      exact ⟨l.supported, members.notNull l hl⟩
    · rw [Predicate.eval, Expr.eval, S.truth_ofTruth, evalItems_literals, List.map_map]
      rfl
  | .isNull expr =>
    rw [visit] at h
    obtain ⟨operand, hoperand, h⟩ := bind_eq_ok.mp h
    obtain rfl : Predicate.isNull operand false = p := by simpa using h
    obtain rfl := asColumn_visit_eq_ok hoperand
    exact ⟨trivial, trivial, fun S row => by
      rw [Predicate.eval, Expr.eval, S.truth_ofTruth, Expr.eval, Bool.bne_false]⟩
  | .notNull expr =>
    rw [visit] at h
    obtain ⟨operand, hoperand, h⟩ := bind_eq_ok.mp h
    obtain rfl : Predicate.isNull operand true = p := by simpa using h
    obtain rfl := asColumn_visit_eq_ok hoperand
    exact ⟨trivial, trivial, fun S row => by
      rw [Predicate.eval, Expr.eval, S.truth_ofTruth, Expr.eval, Bool.bne_true]⟩
termination_by sizeOf e

/-- A supported expression with valid column names is visited to a predicate. -/
theorem visit_of_supported {e : Expr} (h : e.Supported)
    (hcols : ∀ c ∈ e.columns, ValidIdentifier c) : ∃ p, visit e = .ok (.predicate p) := by
  match e with
  | .and left right | .or left right =>
    obtain ⟨l, hl⟩ := visit_of_supported h.1 fun c hc => hcols c (List.mem_append_left _ hc)
    obtain ⟨r, hr⟩ := visit_of_supported h.2 fun c hc => hcols c (List.mem_append_right _ hc)
    rw [visit, hl, hr]
    exact ⟨_, rfl⟩
  | .not expr =>
    obtain ⟨p, hp⟩ := visit_of_supported (e := expr) h hcols
    rw [visit, hp]
    exact ⟨_, rfl⟩
  | .equal left right | .notEqual left right | .lessThan left right
  | .lessThanOrEqual left right | .greaterThan left right | .greaterThanOrEqual left right =>
    rw [visit]
    obtain ⟨p, hp⟩ := compareVisited_of_isOperand h.1 h.2
      (fun c hc => hcols c (List.mem_append_left _ hc))
      (fun c hc => hcols c (List.mem_append_right _ hc))
    exact ⟨p, by rw [hp]; rfl⟩
  | .between expr lower upper =>
    have he : ∀ c ∈ expr.columns, ValidIdentifier c := fun c hc =>
      hcols c (List.mem_append_left _ (List.mem_append_left _ hc))
    obtain ⟨p, hp⟩ : ∃ p, compareVisited .ge (visit expr) (visit lower) = .ok p :=
      compareVisited_of_isOperand h.1 h.2.1 he
        (fun c hc => hcols c (List.mem_append_left _ (List.mem_append_right _ hc)))
    obtain ⟨q, hq⟩ : ∃ q, compareVisited .le (visit expr) (visit upper) = .ok q :=
      compareVisited_of_isOperand h.1 h.2.2 he
        (fun c hc => hcols c (List.mem_append_right _ hc))
    exact ⟨.and p q, by rw [visit, hp, hq]; rfl⟩
  | .isIn expr items =>
    obtain ⟨hcolumn, hne, hitems⟩ := h
    obtain ⟨c, hc⟩ : ∃ c, asColumn "IN operand must be a column" (visit expr) = .ok c :=
      asColumn_of_isColumn hcolumn fun c hc => hcols c (List.mem_append_left _ hc)
    obtain ⟨literals, hvalues, hnull⟩ := valueItems_of_supported hitems
    have hmap : (literals.map Value.literal).mapM asLiteral = .ok literals := by
      rw [mapM_eq_ok, List.forall₂_map_left_iff, List.forall₂_same]
      exact fun l _ => rfl
    have hnonempty : literals ≠ [] := by
      rintro rfl
      cases items with
      | nil => exact hne rfl
      | cons item items =>
        have := (valueItems_eq_ok hvalues).length_eq
        simp at this
    have hset : inSet literals = .ok ⟨literals, hnonempty, hnull⟩ := by
      rw [inSet, dif_neg hnonempty, dif_pos hnull]
    exact ⟨.inValues c ⟨literals, hnonempty, hnull⟩, by rw [visit, hc, hvalues]; simp [hmap, hset]⟩
  | .isNull expr | .notNull expr =>
    obtain ⟨c, hc⟩ := asColumn_of_isColumn h hcols
    rw [visit, hc]
    exact ⟨_, rfl⟩
  | .col _ | .lit _ | .alias _ _ | .cast _ _ | .tryCast _ _ | .function _ _ | .coalesce _
  | .list _ => exact absurd h id
termination_by sizeOf e

theorem compiles_of_compileFilter {e : Expr} {p : Predicate}
    (h : compileFilter (some e) = .ok (some p)) : Compiles e p := by
  rw [compileFilter] at h
  split at h
  · split at h <;> cases h
  · next q hq => exact compiles_of_visit (by rw [hq]; simpa using h)
  · cases h

theorem exists_compileFilter {filters : Option Expr}
    (h : ∀ e ∈ filters, ∀ c ∈ e.columns, ValidIdentifier c) :
    ∃ predicate, compileFilter filters = .ok predicate := by
  cases filters with
  | none => exact ⟨none, rfl⟩
  | some e =>
    rw [compileFilter]
    split
    · next error herror =>
      obtain ⟨message, rfl⟩ := visit_settles e (h e rfl) error herror
      exact ⟨none, if_pos rfl⟩
    · next p _ => exact ⟨some p, rfl⟩
    · exact ⟨none, rfl⟩

/-- On valid column names `compile_filter` never raises.  It pushes down nothing
when some node is unsupported, and otherwise a predicate that has the value of the
expression on every row. -/
theorem compileFilter_all_or_nothing (e : Expr) (hcols : ∀ c ∈ e.columns, ValidIdentifier c) :
    (¬ e.Supported → compileFilter (some e) = .ok none) ∧
    (e.Supported → ∃ p, compileFilter (some e) = .ok (some p) ∧
      ∀ {Cell : Type} (S : ExprSemantics Cell) (row : Text → Cell),
        p.eval S.toCellSemantics row = S.truth (e.eval S row)) := by
  constructor
  · intro hunsupported
    rw [compileFilter]
    split
    · next error herror =>
      obtain ⟨message, rfl⟩ := visit_settles e hcols error herror
      exact if_pos rfl
    · next p hp => exact absurd (compiles_of_visit hp).supported hunsupported
    · rfl
  · intro hsupported
    obtain ⟨p, hp⟩ := visit_of_supported hsupported hcols
    exact ⟨p, by rw [compileFilter, hp], (compiles_of_visit hp).eval_eq⟩

/-- `NOT (a BETWEEN 1 AND 2)` is pushed down as a whole. -/
theorem compileFilter_not_between :
    ∃ p, compileFilter (some (.not (.between (.col (str "a")) (.lit (.int 1)) (.lit (.int 2))))) =
        .ok (some p) ∧
      ∀ {Cell : Type} (S : ExprSemantics Cell) (row : Text → Cell),
        p.eval S.toCellSemantics row = S.truth
          (Expr.eval S row (.not (.between (.col (str "a")) (.lit (.int 1)) (.lit (.int 2))))) :=
  (compileFilter_all_or_nothing _ (by decide)).2
    ⟨Or.inl trivial, Or.inr ⟨rfl, by decide⟩, Or.inr ⟨rfl, by decide⟩⟩

end DaftOlap
