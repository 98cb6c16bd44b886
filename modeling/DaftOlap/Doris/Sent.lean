/-
The SQL of a Doris query as it is sent.

PyMySQL formats a query that has values, for the planner as for its own transport; Flight
sends the text that was built.  The quoted names of a statement are formatted one by one,
whatever is bound beside them, so that the WHERE clause that arrives is what becomes of the
WHERE clause alone.
-/
import DaftOlap.Doris.Binding
import DaftOlap.Doris.DataSource
import DaftOlap.Python.FormatParts

namespace DaftOlap

open Python

/-- A specifier does not go on behind a quoted name. -/
theorem closes_quoted {u : UnicodeData} (name : Text) : Closes u (quoted name) :=
  closes_backtick (PyChar.scalar '`' :: doubleBackticks name)

theorem closes_table {u : UnicodeData} (table : QualifiedTable) : Closes u table.sql :=
  ((closes_quoted _).append (closes_text (by decide))).append (closes_quoted _)

theorem Predicate.closed_template {u : UnicodeData} (p : Predicate) :
    Template.Closed u p.template := by
  have hvalue : ∀ v : Value, Template.Closed u v.template := by
    intro v
    cases v with
    | column c => simpa [Value.template] using closes_quoted c.name
    | literal l => simp [Value.template]
  have hplain : ∀ s : String, '%' ∉ s.toList → Closes u (str s) := fun s hs =>
    closes_text (by simpa [str] using hs)
  induction p with
  | compare operator left right =>
    have hsymbol : '%' ∉ operator.symbol.toList := by cases operator <;> decide
    simp only [template, Template.closed_text, Template.closed_append, Template.closed_nil, hvalue]
    simp [hplain _ hsymbol, hplain]
  | and left right ihl ihr =>
    simp only [template, Template.closed_text, Template.closed_append, Template.closed_nil, ihl, ihr]
    simp [hplain]
  | or left right ihl ihr =>
    simp only [template, Template.closed_text, Template.closed_append, Template.closed_nil, ihl, ihr]
    simp [hplain]
  | not operand ih =>
    simp only [template, Template.closed_text, Template.closed_append, Template.closed_nil, ih]
    simp [hplain]
  | isNull operand negated =>
    cases negated <;> simp [template, closes_quoted, hplain]
  | inValues operand values =>
    have hliterals : Template.Closed u (literalsTemplate values.values) :=
      Template.closed_join (by decide) (by simp)
    simp only [template, Template.closed_text, Template.closed_append, Template.closed_nil, hliterals]
    simp [closes_quoted, hplain]

/-- A predicate is formatted when the columns it quotes are. -/
theorem Predicate.formats_template_iff {u : UnicodeData} (p : Predicate) :
    (∀ piece ∈ p.template, piece.Formats u) ↔
      ∀ c ∈ p.referencedColumns, (formatAlone u (quoted c)).isSome := by
  have hvalue : ∀ v : Value, (∀ piece ∈ v.template, piece.Formats u) ↔
      ∀ c ∈ v.columns, (formatAlone u (quoted c)).isSome := by
    intro v
    cases v <;> simp [Value.template, Value.columns]
  have hplain : ∀ s : String, '%' ∉ s.toList → (formatAlone u (str s)).isSome = true := fun s hs => by
    rw [formatAlone_text (by simpa [str] using hs)]
    rfl
  induction p with
  | compare operator left right =>
    have hsymbol : '%' ∉ operator.symbol.toList := by cases operator <;> decide
    simp only [template, referencedColumns, List.forall_mem_cons, List.forall_mem_append, hvalue]
    simp [hplain _ hsymbol, hplain]
  | and left right ihl ihr =>
    simp only [template, referencedColumns, List.forall_mem_cons, List.forall_mem_append, ihl, ihr]
    simp [hplain]
  | or left right ihl ihr =>
    simp only [template, referencedColumns, List.forall_mem_cons, List.forall_mem_append, ihl, ihr]
    simp [hplain]
  | not operand ih =>
    simp only [template, referencedColumns, List.forall_mem_cons, List.forall_mem_append, ih]
    simp [hplain]
  | isNull operand negated =>
    cases negated <;> simp [template, referencedColumns, hplain]
  | inValues operand values =>
    have hliterals : ∀ piece ∈ literalsTemplate values.values, piece.Formats u :=
      (Template.formats_join (by decide)).mpr (by simp)
    simp only [template, referencedColumns, List.forall_mem_cons, List.forall_mem_append]
    simpa [hplain] using fun _ => hliterals

namespace Doris

variable {u : UnicodeData} {literal : PyValue → Text}

/-! ## Statements in two parts -/

namespace Statement

/-- The SELECT list and the table. -/
def head (s : Statement) : Template PyValue :=
  [.text (str "SELECT "), .text s.projection.text, .text (str " FROM "), .text s.table.sql]

/-- The WHERE clause. -/
def whereClause (s : Statement) : Template PyValue := whereTemplate s.clauses

theorem template_eq (s : Statement) :
    s.template = s.head ++ ([.text (tabletsText s.tablets)] ++ s.whereClause ++
      [.text (limitText s.limit)]) := by
  simp [template, head, whereClause]

end Statement

theorem closed_tokensTemplate (values : List (Text × PyValue)) (tokens : List FragmentToken) :
    Template.Closed u (tokensTemplate values tokens) := by
  induction tokens with
  | nil => exact Template.closed_nil
  | cons token tokens ih =>
    cases token with
    | raw c =>
      by_cases hc : c = PyChar.scalar '%'
      · simpa [tokensTemplate, hc] using ih
      · have hclose : Closes u [c] := closes_text (by simpa using Ne.symm hc)
        simpa [tokensTemplate, hc, hclose] using ih
    | marker name => simpa [tokensTemplate] using ih

namespace Statement

theorem closed_head (s : Statement) : Template.Closed u s.head := by
  have hprojection : Closes u s.projection.text := by
    cases s.projection with
    | columns names =>
      exact closes_join (by decide) fun t ht => by
        obtain ⟨name, -, rfl⟩ := List.mem_map.mp ht
        exact closes_quoted name
    | count name => exact (closes_text (by decide)).append (closes_quoted name)
  have hselect : Closes u (str "SELECT ") := closes_text (by decide)
  have hfrom : Closes u (str " FROM ") := closes_text (by decide)
  simp [head, hselect, hprojection, hfrom, closes_table]

theorem closed_whereClause {s : Statement} (hfragment : ∀ T ∈ s.fragment, Template.Closed u T) :
    Template.Closed u s.whereClause := by
  have hclauses : ∀ T ∈ s.clauses, Template.Closed u T := by
    rw [clauses, List.forall_mem_append]
    refine ⟨?_, ?_⟩
    · cases hf : s.fragment with
      | none => simp
      | some T =>
        have hopen : Closes u (str "(") := closes_text (by decide)
        have hclose : Closes u (str ")") := closes_text (by decide)
        simp [hopen, hclose, hfragment T hf]
    · cases s.predicate with
      | none => simp
      | some p => simpa using p.closed_template
  rw [whereClause, whereTemplate]
  split
  · exact Template.closed_nil
  · exact Template.closed_text.mpr ⟨closes_text (by decide),
      Template.closed_join (by decide) hclauses⟩

/-- No literal text of a statement ends inside a specifier. -/
theorem closed_template {s : Statement} (hfragment : ∀ T ∈ s.fragment, Template.Closed u T) :
    Template.Closed u s.template := by
  rw [template_eq]
  simp [closed_head, closed_whereClause hfragment, closes_text (percent_not_mem_tabletsText _),
    closes_text (percent_not_mem_limitText _)]

end Statement

namespace Statement

/-- A statement is formatted part by part when each name it quotes is. -/
theorem isSome_bound_iff {s : Statement} (hfragment : ∀ T ∈ s.fragment, ∀ p ∈ T, p.Clean) :
    (s.head.bound u).isSome ∧ (s.whereClause.bound u).isSome ↔
      ∀ name ∈ s.identifiers, (formatAlone u (quoted name)).isSome := by
  have hplain : ∀ t : Text, PyChar.scalar '%' ∉ t → (formatAlone u t).isSome = true := fun t ht => by
    rw [formatAlone_text ht]
    rfl
  have hprojection : (formatAlone u s.projection.text).isSome ↔
      ∀ name ∈ s.projection.identifiers, (formatAlone u (quoted name)).isSome := by
    cases s.projection with
    | columns names =>
      rw [Projection.text, isSome_formatAlone_join (by decide)
        (by simpa using fun name _ => closes_quoted name), List.forall_mem_map]
      rfl
    | count name =>
      rw [Projection.text, isSome_formatAlone_append (closes_text (by decide)),
        hplain _ (by decide)]
      simp [Projection.identifiers]
  have htable : (formatAlone u s.table.sql).isSome ↔
      (formatAlone u (quoted s.table.database)).isSome ∧
        (formatAlone u (quoted s.table.table)).isSome := by
    rw [QualifiedTable.sql, isSome_formatAlone_append
      ((closes_quoted _).append (closes_text (by decide))),
      isSome_formatAlone_append (closes_quoted _)]
    simp [hplain (str ".") (by decide)]
  have hhead : (s.head.bound u).isSome ↔ ∀ name ∈ s.projection.identifiers ++
      [s.table.database, s.table.table], (formatAlone u (quoted name)).isSome := by
    rw [Template.isSome_bound_iff, head, List.forall_mem_append]
    simp only [List.forall_mem_cons, Piece.formats_text, hprojection, htable,
      hplain _ (by decide : PyChar.scalar '%' ∉ str "SELECT "),
      hplain _ (by decide : PyChar.scalar '%' ∉ str " FROM ")]
    simp
  have hwhere : ∀ Ts : List (Template PyValue),
      (∀ p ∈ whereTemplate Ts, p.Formats u) ↔ ∀ T ∈ Ts, ∀ p ∈ T, p.Formats u := by
    intro Ts
    unfold whereTemplate
    split
    · next h => simp [h]
    · rw [List.forall_mem_cons, Template.formats_join (by decide), Piece.formats_text,
        hplain _ (by decide)]
      simp
  have hfirst : ∀ T ∈ (s.fragment.map fun T =>
      (.text (str "(") : Piece PyValue) :: (T ++ [.text (str ")")])).toList,
      ∀ p ∈ T, p.Formats u := by
    cases hf : s.fragment with
    | none => simp
    | some T =>
      have hT : ∀ p ∈ T, p.Formats u := fun p hp => (hfragment T hf p hp).formats
      simp only [Option.map_some, Option.toList_some, List.forall_mem_singleton,
        List.forall_mem_cons, List.forall_mem_append]
      exact ⟨hplain _ (by decide), hT, hplain _ (by decide)⟩
  have hclause : (s.whereClause.bound u).isSome ↔
      ∀ name ∈ (s.predicate.map Predicate.referencedColumns).getD [],
        (formatAlone u (quoted name)).isSome := by
    rw [Template.isSome_bound_iff, whereClause, hwhere, clauses, List.forall_mem_append]
    cases s.predicate with
    | none => simpa using hfirst
    | some p => simpa [← Predicate.formats_template_iff p] using fun _ => hfirst
  rw [hhead, hclause, ← List.forall_mem_append]
  rfl

end Statement

theorem closed_fragment (a : SelectArguments) :
    ∀ T ∈ a.statement.fragment, Template.Closed u T := by
  intro T hT
  obtain ⟨text, -, rfl⟩ := Option.map_eq_some_iff.mp hT
  exact closed_tokensTemplate _ _

/-! ## What is sent -/

/-- The text that reaches the server: PyMySQL formats the SQL if it has values, and may refuse
to. -/
def sent (u : UnicodeData) (literal : PyValue → Text) (r : Text × List PyValue) : Option Text :=
  if r.2 = [] then some r.1 else (percentFormat u r.1 (r.2.map literal)).toOption

/-- What becomes of a part of a statement with these values. -/
def written (u : UnicodeData) (literal : PyValue → Text) (style : ParameterStyle)
    (values : List PyValue) (T : Template PyValue) : Option Text :=
  match style with
  | .flight => some (T.fill flightText)
  | .mysql => if values = [] then some (T.fill literal) else (T.bound u).map (Template.fill literal)

theorem fill_append {κ : Type} (σ : κ → Text) (S T : Template κ) :
    Template.fill σ (S ++ T) = Template.fill σ S ++ Template.fill σ T :=
  Template.render_append _ σ S T

theorem written_append (style : ParameterStyle) (values : List PyValue) (S T : Template PyValue) :
    written u literal style values (S ++ T) = do
      return (← written u literal style values S) ++ (← written u literal style values T) := by
  cases style with
  | flight => exact congrArg some (fill_append _ S T)
  | mysql =>
    simp only [written]
    split
    · exact congrArg some (fill_append _ S T)
    · rw [Template.bound_append]
      cases Template.bound u S with
      | none => rfl
      | some S' =>
        cases Template.bound u T with
        | none => rfl
        | some T' => exact congrArg some (fill_append _ S' T')

/-- Plain text is sent as it is. -/
theorem written_text {t : Text} (ht : PyChar.scalar '%' ∉ t) (style : ParameterStyle)
    (values : List PyValue) : written u literal style values [.text t] = some t := by
  have hfill : ∀ σ : PyValue → Text, Template.fill σ [.text t] = t := fun σ => by
    simp [Template.fill]
  cases style with
  | flight => exact congrArg some (hfill _)
  | mysql =>
    simp only [written]
    split
    · exact congrArg some (hfill _)
    · rw [Template.bound_of_stray_eq_zero (by simpa [Template.stray_eq_zero_iff] using ht)]
      exact congrArg some (hfill _)

/-- What is sent for a query is what becomes of its statement. -/
theorem sent_eq_written {a : SelectArguments} {r : Text × List PyValue}
    (h : buildSelect a = .ok r) :
    sent u literal r =
      written u literal a.style a.statement.template.holes a.statement.template := by
  have hwritten := buildSelect_eq_ok h
  cases hstyle : a.style with
  | flight =>
    rw [hstyle, Written, write_flight_eq_ok_iff] at hwritten
    rw [hwritten.2]
    rfl
  | mysql =>
    rw [hstyle] at hwritten
    rw [hwritten.mysql_eq]
    by_cases hholes : a.statement.template.holes = []
    · have hraw : rawText .mysql (a.statement.template.holes ≠ []) '%' = str "%" := by
        simp [rawText, hholes, str]
      rw [sent, if_pos hholes, written, if_pos hholes, hraw]
      exact congrArg some (Template.render_congr (by simp [hholes]))
    · have hraw : rawText .mysql (a.statement.template.holes ≠ []) '%' = str "%%" := by
        simp [rawText, hholes]
      rw [sent, if_neg hholes, written, if_neg hholes, hraw]
      exact percentFormat_closed (Statement.closed_template (closed_fragment a))

/-- A query arrives as its SELECT list and its table, then the tablets, then its WHERE clause,
then the limit. -/
theorem sent_eq {a : SelectArguments} {r : Text × List PyValue} (h : buildSelect a = .ok r) :
    sent u literal r = do
      let head ← written u literal a.style a.statement.template.holes a.statement.head
      let condition ← written u literal a.style a.statement.template.holes a.statement.whereClause
      return head ++ Statement.tabletsText a.statement.tablets ++ condition ++
        limitText a.statement.limit := by
  rw [sent_eq_written h, Statement.template_eq, written_append, written_append, written_append,
    written_text (Statement.percent_not_mem_tabletsText _),
    written_text (percent_not_mem_limitText _)]
  cases written u literal a.style _ a.statement.head with
  | none => rfl
  | some head =>
    cases written u literal a.style _ a.statement.whereClause with
    | none => rfl
    | some condition => simp

/-! ## The queries of a scan -/

/-- A SELECT as it is sent, without its tablets and its limit. -/
structure SentParts where
  /-- The SELECT list and the table. -/
  head : Text
  /-- The WHERE clause. -/
  condition : Text

/-- The whole text, for some tablets and with a limit. -/
def SentParts.text (parts : SentParts) (tablets : Option (List Int)) (limit : Option Nat) : Text :=
  parts.head ++ Statement.tabletsText tablets ++ parts.condition ++
    limitText (limit.map fun n : Nat => (n : Int))

namespace DataSource

/-- The SELECT of a scan as it is sent in a style, unless it cannot be formatted. -/
def parts (u : UnicodeData) (literal : PyValue → Text) (style : ParameterStyle)
    (source : DataSource) (pushdowns : Pushdowns) (predicate : Option Predicate) :
    Option SentParts := do
  let s := source.select pushdowns predicate none none
  return ⟨← written u literal style s.template.holes s.head,
    ← written u literal style s.template.holes s.whereClause⟩

variable {source : DataSource} {pushdowns : Pushdowns} {predicate : Option Predicate}

/-- A query built for the SELECT of a scan arrives as that SELECT. -/
theorem sent_of_statement {a : SelectArguments} {tablets : Option (List Int)} {limit : Option Nat}
    {r : Text × List PyValue}
    (hstatement : a.statement = source.select pushdowns predicate tablets limit)
    (h : buildSelect a = .ok r) :
    sent u literal r = (source.parts u literal a.style pushdowns predicate).map
      fun parts => parts.text tablets limit := by
  have hholes : (source.select pushdowns predicate tablets limit).template.holes =
      (source.select pushdowns predicate none none).template.holes := by
    rw [Statement.holes_template, Statement.holes_template]
    rfl
  rw [sent_eq h, hstatement, hholes, parts]
  show (do
    let head ← written u literal a.style _ (source.select pushdowns predicate none none).head
    let condition ← written u literal a.style _
      (source.select pushdowns predicate none none).whereClause
    return head ++ Statement.tabletsText tablets ++ condition ++
      limitText (limit.map fun n : Nat => (n : Int))) = _
  cases written u literal a.style _ (source.select pushdowns predicate none none).head with
  | none => rfl
  | some head =>
    cases written u literal a.style _ (source.select pushdowns predicate none none).whereClause with
    | none => rfl
    | some condition => rfl

/-- The planning SQL is bound as PyMySQL binds, whatever the transport. -/
theorem sent_planning {query : Text × List PyValue}
    (h : buildSelect (source.planningArguments (source.columns pushdowns) predicate) = .ok query) :
    sent u literal query =
      (source.parts u literal .mysql pushdowns predicate).map fun parts => parts.text none none :=
  sent_of_statement (a := source.planningArguments (source.columns pushdowns) predicate)
    (statement_planning source pushdowns predicate) h

end DataSource

end Doris
end DaftOlap
