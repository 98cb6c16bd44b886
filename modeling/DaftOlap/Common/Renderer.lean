/-
The predicate renderer both dialects share.

The two `_Renderer` classes differ only in what they write for a literal and in
what they append to their parameter list, so the renderer takes that as a
`LiteralWriter`.  A rendered predicate is a template of the predicate, its literals
the holes, written from left to right: `renderWith_eq_ok_iff`.
-/
import DaftOlap.Common.PredicateIR
import DaftOlap.Python.Template

namespace DaftOlap

open Python

/-- What a renderer writes for a literal, given the parameters so far, and the
parameters after it. -/
abbrev LiteralWriter (P : Type) := List P → PyValue → Except PyException (Text × List P)

section Renderer

variable {P : Type}

/-- `_Renderer._value`. -/
def renderValue (write : LiteralWriter P) (params : List P) :
    Value → Except PyException (Text × List P)
  | .column c => do return (← quoteIdentifier c.name, params)
  | .literal l =>
    if l.value = .none then
      .error (unsupportedPredicateError "NULL comparisons must use IS NULL")
    else write params l.value

/-- The texts `_Renderer._value` yields for the members of an IN set. -/
def renderLiterals (write : LiteralWriter P) (params : List P) :
    List Literal → Except PyException (List Text × List P)
  | [] => .ok ([], params)
  | l :: ls => do
    let (text, params) ← renderValue write params (.literal l)
    let (texts, params) ← renderLiterals write params ls
    return (text :: texts, params)

/-- `_Renderer.render`. -/
def renderWith (write : LiteralWriter P) (params : List P) :
    Predicate → Except PyException (Text × List P)
  | .compare operator left right => do
    let (l, params) ← renderValue write params left
    let (r, params) ← renderValue write params right
    return (str "(" ++ l ++ str " " ++ str operator.symbol ++ str " " ++ r ++ str ")", params)
  | .and left right => do
    let (l, params) ← renderWith write params left
    let (r, params) ← renderWith write params right
    return (str "(" ++ l ++ str " AND " ++ r ++ str ")", params)
  | .or left right => do
    let (l, params) ← renderWith write params left
    let (r, params) ← renderWith write params right
    return (str "(" ++ l ++ str " OR " ++ r ++ str ")", params)
  | .not operand => do
    let (text, params) ← renderWith write params operand
    return (str "(NOT " ++ text ++ str ")", params)
  | .isNull operand negated => do
    let name ← quoteIdentifier operand.name
    return (str "(" ++ name ++ str " " ++ str (if negated then "IS NOT NULL" else "IS NULL") ++
      str ")", params)
  | .inValues operand values => do
    let (texts, params) ← renderLiterals write params values.values
    let name ← quoteIdentifier operand.name
    return (str "(" ++ name ++ str " IN (" ++ Text.join (str ", ") texts ++ str "))", params)

/-! ## The template of a predicate -/

def Value.template : Value → Template PyValue
  | .column c => [.text (quoted c.name)]
  | .literal l => [.hole l.value]

/-- The members of an IN set with commas between them. -/
def literalsTemplate (ls : List Literal) : Template PyValue :=
  Template.join (str ", ") (ls.map fun l => [.hole l.value])

/-- The text of a predicate around its literals. -/
def Predicate.template : Predicate → Template PyValue
  | .compare operator left right =>
    .text (str "(") :: (left.template ++ [.text (str " "), .text (str operator.symbol),
      .text (str " ")] ++ right.template ++ [.text (str ")")])
  | .and left right =>
    .text (str "(") :: (left.template ++ [.text (str " AND ")] ++ right.template ++
      [.text (str ")")])
  | .or left right =>
    .text (str "(") :: (left.template ++ [.text (str " OR ")] ++ right.template ++
      [.text (str ")")])
  | .not operand => .text (str "(NOT ") :: (operand.template ++ [.text (str ")")])
  | .isNull operand negated =>
    [.text (str "("), .text (quoted operand.name), .text (str " "),
      .text (str (if negated then "IS NOT NULL" else "IS NULL")), .text (str ")")]
  | .inValues operand values =>
    .text (str "(") :: .text (quoted operand.name) :: .text (str " IN (") ::
      (literalsTemplate values.values ++ [.text (str "))")])

theorem holes_literalsTemplate (ls : List Literal) :
    (literalsTemplate ls).holes = ls.map Literal.value := by
  rw [literalsTemplate, Template.holes_join, List.flatMap_map]
  simp [← List.map_eq_flatMap]

theorem literalsTemplate_singleton (l : Literal) : literalsTemplate [l] = [.hole l.value] := rfl

theorem literalsTemplate_cons_cons (l m : Literal) (ls : List Literal) :
    literalsTemplate (l :: m :: ls) =
      .hole l.value :: .text (str ", ") :: literalsTemplate (m :: ls) := rfl

/-- The holes of the template are the literals of the predicate, in order. -/
theorem Predicate.holes_template (p : Predicate) : p.template.holes = p.literals := by
  have hvalue : ∀ v : Value, v.template.holes = v.literals := by
    intro v
    cases v <;> rfl
  induction p with
  | compare operator left right => simp [template, literals, hvalue]
  | and left right ihl ihr => simp [template, literals, ihl, ihr]
  | or left right ihl ihr => simp [template, literals, ihl, ihr]
  | not operand ih => simp [template, literals, ih]
  | isNull operand negated => simp [template, literals]
  | inValues operand values => simp [template, literals, holes_literalsTemplate]

/-- The percent signs in the literal text of a predicate are those of its column
names. -/
theorem Predicate.clean_template_iff (p : Predicate) :
    (∀ piece ∈ p.template, piece.Clean) ↔
      ∀ c ∈ p.referencedColumns, PyChar.scalar '%' ∉ c := by
  have hquoted : ∀ name : Text,
      PyChar.scalar '%' ∉ quoted name ↔ PyChar.scalar '%' ∉ name :=
    fun name => not_congr (mem_quoted (by decide))
  have hvalue : ∀ v : Value, (∀ piece ∈ v.template, piece.Clean) ↔
      ∀ c ∈ v.columns, PyChar.scalar '%' ∉ c := by
    intro v
    cases v <;> simp [Value.template, Value.columns, hquoted]
  have hsymbol : ∀ operator : CompareOperator, '%' ∉ operator.symbol.toList := by
    intro operator
    cases operator <;> decide
  have hliterals : ∀ ls : List Literal, ∀ piece ∈ literalsTemplate ls, piece.Clean := by
    intro ls
    rw [literalsTemplate, Template.clean_join (by decide)]
    simp
  induction p with
  | compare operator left right =>
    simp only [template, referencedColumns, List.forall_mem_cons, List.forall_mem_append, hvalue]
    simp [hsymbol, str]
  | and left right ihl ihr =>
    simp only [template, referencedColumns, List.forall_mem_cons, List.forall_mem_append, ihl, ihr]
    simp [str]
  | or left right ihl ihr =>
    simp only [template, referencedColumns, List.forall_mem_cons, List.forall_mem_append, ihl, ihr]
    simp [str]
  | not operand ih =>
    simp only [template, referencedColumns, List.forall_mem_cons, List.forall_mem_append, ih]
    simp [str]
  | isNull operand negated =>
    cases negated <;> simp [template, referencedColumns, hquoted, str]
  | inValues operand values =>
    simp only [template, referencedColumns, List.forall_mem_cons, List.forall_mem_append]
    simpa [hquoted, str] using fun _ => hliterals values.values

/-! ## Rendering is writing the template -/

/-- The text of a template whose holes are written one after the other. -/
def Template.write (write : LiteralWriter P) (percent : Text) (params : List P) :
    Template PyValue → Except PyException (Text × List P)
  | [] => .ok ([], params)
  | .text t :: T => do
    let (rest, params) ← Template.write write percent params T
    return (t ++ rest, params)
  | .percent :: T => do
    let (rest, params) ← Template.write write percent params T
    return (percent ++ rest, params)
  | .hole v :: T => do
    let (t, params) ← write params v
    let (rest, params) ← Template.write write percent params T
    return (t ++ rest, params)

theorem Template.write_append (write : LiteralWriter P) (percent : Text) (params : List P)
    (S T : Template PyValue) :
    Template.write write percent params (S ++ T) = (do
      let (s, params) ← Template.write write percent params S
      let (t, params) ← Template.write write percent params T
      return (s ++ t, params)) := by
  induction S generalizing params with
  | nil =>
    simp only [List.nil_append, Template.write, ok_bind]
    cases Template.write write percent params T <;> rfl
  | cons p S ih =>
    rw [List.cons_append]
    cases p with
    | text t =>
      simp only [Template.write, ih, bind_assoc, pure_eq_ok, ok_bind, List.append_assoc]
    | percent =>
      simp only [Template.write, ih, bind_assoc, pure_eq_ok, ok_bind, List.append_assoc]
    | hole v =>
      simp only [Template.write, ih, bind_assoc, pure_eq_ok, ok_bind, List.append_assoc]

theorem renderValue_eq {write : LiteralWriter P} (percent : Text) (params : List P) {v : Value}
    (h : PyValue.none ∉ v.literals) :
    renderValue write params v = Template.write write percent params v.template := by
  cases v with
  | column c =>
    simp [renderValue, quoteIdentifier_of_valid c.name_valid, Value.template, Template.write]
  | literal l =>
    have hnull : l.value ≠ .none := by simpa [Value.literals, eq_comm] using h
    simp only [renderValue, hnull, if_false, Value.template, Template.write, ok_bind, pure_eq_ok,
      List.append_nil]
    cases write params l.value <;> rfl

theorem renderValue_eq_ok {write : LiteralWriter P} {params : List P} {v : Value}
    {r : Text × List P} (h : renderValue write params v = .ok r) : PyValue.none ∉ v.literals := by
  cases v with
  | column c => simp [Value.literals]
  | literal l =>
    rw [renderValue] at h
    split at h
    · cases h
    · next hnull => simpa [Value.literals, eq_comm] using hnull

theorem renderLiterals_length {write : LiteralWriter P} {params params' : List P}
    {ls : List Literal} {texts : List Text}
    (h : renderLiterals write params ls = .ok (texts, params')) : texts.length = ls.length := by
  induction ls generalizing params texts with
  | nil =>
    simp only [renderLiterals, Except.ok.injEq, Prod.mk.injEq] at h
    rw [← h.1]
    rfl
  | cons l ls ih =>
    obtain ⟨⟨t, ps⟩, -, h⟩ := bind_eq_ok.mp h
    obtain ⟨⟨ts, qs⟩, hts, h⟩ := bind_eq_ok.mp h
    simp only [pure_eq_ok, Except.ok.injEq, Prod.mk.injEq] at h
    rw [← h.1, List.length_cons, List.length_cons, ih (h.2 ▸ hts)]

/-- The members of an IN set, joined, are the template of the members. -/
theorem renderLiterals_eq {write : LiteralWriter P} (percent : Text) (params : List P)
    {ls : List Literal} (h : ∀ l ∈ ls, l.value ≠ .none) :
    (do
      let (texts, params) ← renderLiterals write params ls
      return (Text.join (str ", ") texts, params)) =
      Template.write write percent params (literalsTemplate ls) := by
  induction ls generalizing params with
  | nil => rfl
  | cons l ls ih =>
    have hl : renderValue write params (.literal l) = write params l.value := by
      rw [renderValue, if_neg (h l List.mem_cons_self)]
    have ih := fun params => ih params fun m hm => h m (List.mem_cons_of_mem _ hm)
    cases ls with
    | nil =>
      simp only [renderLiterals, hl, literalsTemplate_singleton, Template.write, bind_assoc, ok_bind,
        pure_eq_ok, Text.join_singleton, List.append_nil]
    | cons m ls =>
      rw [literalsTemplate_cons_cons, Template.write, renderLiterals, hl, bind_assoc]
      congr 1
      funext ⟨t, ps⟩
      simp only [Template.write, ← ih, bind_assoc, pure_eq_ok, ok_bind]
      cases hrest : renderLiterals write ps (m :: ls) with
      | error e => rfl
      | ok rest =>
        obtain ⟨texts, ps⟩ := rest
        obtain ⟨t, ts, rfl⟩ : ∃ t ts, texts = t :: ts :=
          List.exists_cons_of_length_eq_add_one (renderLiterals_length hrest)
        simp only [ok_bind, Text.join_cons_cons, List.append_assoc]

/-- A predicate without NULL comparisons is rendered by writing its template. -/
theorem renderWith_eq {write : LiteralWriter P} (percent : Text) (params : List P)
    {p : Predicate} (h : p.NullFree) :
    renderWith write params p = Template.write write percent params p.template := by
  induction p generalizing params with
  | compare operator left right =>
    rw [Predicate.NullFree, List.mem_append, not_or] at h
    simp only [renderWith, Predicate.template, Template.write, Template.write_append,
      renderValue_eq percent _ h.1, renderValue_eq percent _ h.2, bind_assoc, pure_eq_ok, ok_bind,
      List.append_assoc, List.append_nil]
  | and left right ihl ihr =>
    simp only [renderWith, Predicate.template, Template.write, Template.write_append,
      ihl _ h.1, ihr _ h.2, bind_assoc, pure_eq_ok, ok_bind, List.append_assoc, List.append_nil]
  | or left right ihl ihr =>
    simp only [renderWith, Predicate.template, Template.write, Template.write_append,
      ihl _ h.1, ihr _ h.2, bind_assoc, pure_eq_ok, ok_bind, List.append_assoc, List.append_nil]
  | not operand ih =>
    simp only [renderWith, Predicate.template, Template.write, Template.write_append, ih _ h,
      bind_assoc, pure_eq_ok, ok_bind, List.append_assoc, List.append_nil]
  | isNull operand negated =>
    simp only [renderWith, quoteIdentifier_of_valid operand.name_valid, Predicate.template,
      Template.write, pure_eq_ok, ok_bind, List.append_assoc, List.append_nil]
  | inValues operand values =>
    simp only [Predicate.template, Template.write, Template.write_append,
      ← renderLiterals_eq percent _ values.notNull, renderWith,
      quoteIdentifier_of_valid operand.name_valid, bind_assoc, pure_eq_ok, ok_bind,
      List.append_assoc, List.append_nil]

/-- Only predicates without NULL comparisons are rendered. -/
theorem nullFree_of_renderWith {write : LiteralWriter P} {params : List P} {p : Predicate}
    {r : Text × List P} (h : renderWith write params p = .ok r) : p.NullFree := by
  induction p generalizing params r with
  | compare operator left right =>
    obtain ⟨l, hl, h⟩ := bind_eq_ok.mp h
    obtain ⟨r, hr, h⟩ := bind_eq_ok.mp h
    rw [Predicate.NullFree, List.mem_append, not_or]
    exact ⟨renderValue_eq_ok hl, renderValue_eq_ok hr⟩
  | and left right ihl ihr =>
    obtain ⟨l, hl, h⟩ := bind_eq_ok.mp h
    obtain ⟨r, hr, h⟩ := bind_eq_ok.mp h
    exact ⟨ihl hl, ihr hr⟩
  | or left right ihl ihr =>
    obtain ⟨l, hl, h⟩ := bind_eq_ok.mp h
    obtain ⟨r, hr, h⟩ := bind_eq_ok.mp h
    exact ⟨ihl hl, ihr hr⟩
  | not operand ih =>
    obtain ⟨l, hl, h⟩ := bind_eq_ok.mp h
    exact ih hl
  | isNull operand negated => trivial
  | inValues operand values => trivial

/-- What a renderer returns for a predicate. -/
theorem renderWith_eq_ok_iff {write : LiteralWriter P} (percent : Text) {params : List P}
    {p : Predicate} {r : Text × List P} :
    renderWith write params p = .ok r ↔
      p.NullFree ∧ Template.write write percent params p.template = .ok r := by
  constructor
  · intro h
    have hnull := nullFree_of_renderWith h
    exact ⟨hnull, by rw [← renderWith_eq percent params hnull, h]⟩
  · rintro ⟨hnull, h⟩
    rw [renderWith_eq percent params hnull, h]

end Renderer

end DaftOlap
