/-
The two transports send the same SQL, as far as they do.

PyMySQL computes `sql % escaped_args` when it has arguments.  The statement built
for it doubles the percent signs of the trusted fragment, and of nothing else: a
percent sign in a quoted name starts a conversion of its own.
-/
import DaftOlap.Doris.Statement

namespace DaftOlap
namespace Doris

open Python

/-! ## Percent signs -/

/-- No Flight literal has a percent sign. -/
theorem percent_not_mem_renderFlightLiteral {v : PyValue} {t : Text}
    (h : renderFlightLiteral v = .ok t) : PyChar.scalar '%' ∉ t := by
  have hnumber : ∀ {t : Text}, IsNumberText t → PyChar.scalar '%' ∉ t :=
    not_mem_of_isNumberText (by decide)
  have hstring : ∀ {s t : Text}, flightStringLiteral s = .ok t → PyChar.scalar '%' ∉ t := by
    intro s t h
    unfold flightStringLiteral at h
    split at h
    · rw [← Except.ok.inj h]
      have hclean : ∀ encoded : List UInt8, '%' ∉ encodeBase64 encoded :=
        fun encoded hmem => (encodeBase64_clean hmem).2 rfl
      simp [str, hclean]
    · cases h
  have htemporal : ∀ {v : PyValue} {s t : Text}, renderTemporalLiteral v s = .ok t →
      PyChar.scalar '%' ∉ t := by
    intro v s t h
    unfold renderTemporalLiteral at h
    split at h
    · cases h
    · exact hstring h
  cases v with
  | none => rw [← Except.ok.inj h]; decide
  | bool b =>
    rw [← Except.ok.inj h]
    cases b <;> decide
  | int z =>
    rw [strInt_eq_ok h]
    exact hnumber (isNumberText_intText z)
  | float f =>
    simp only [renderFlightLiteral] at h
    split at h
    · next hf =>
      rw [← Except.ok.inj h]
      exact hnumber (isNumberText_reprFloat hf)
    · cases h
  | decimal d =>
    simp only [renderFlightLiteral] at h
    split at h
    · next hd =>
      rw [← Except.ok.inj h]
      exact hnumber (isNumberText_strDecimal hd)
    · cases h
  | bytes b =>
    rw [← Except.ok.inj h]
    have hclean : '%' ∉ hexBytes b := fun hmem => (hexBytes_clean hmem).2 rfl
    simp [str, hclean]
  | date d => exact htemporal h
  | datetime d t => exact htemporal h
  | time t => exact htemporal h
  | str t => exact hstring h
  | uuid u => exact hstring h
  | other typeName => cases h

namespace Statement

theorem percent_not_mem_tabletsText (tablets : Option (List Int)) :
    PyChar.scalar '%' ∉ tabletsText tablets := by
  cases tablets with
  | none => simp [tabletsText]
  | some ids =>
    have hids : PyChar.scalar '%' ∉ Text.join (str ", ") (ids.map intText) := by
      rw [percent_not_mem_join (by decide), List.forall_mem_map]
      exact fun z _ => not_mem_of_isNumberText (by decide) (isNumberText_intText z)
    simp only [tabletsText, List.mem_append, not_or]
    exact ⟨⟨by decide, hids⟩, by decide⟩

theorem percent_not_mem_projection {projection : Projection} :
    PyChar.scalar '%' ∉ projection.text ↔
      ∀ name ∈ projection.identifiers, PyChar.scalar '%' ∉ name := by
  cases projection with
  | columns names =>
    rw [Projection.text, percent_not_mem_join (by decide), List.forall_mem_map]
    simp only [percent_not_mem_quoted, Projection.identifiers]
  | count name =>
    rw [Projection.text, List.mem_append, not_or, percent_not_mem_quoted]
    simp [Projection.identifiers, str]

/-- The percent signs in the literal text of a WHERE clause are those of the filter's columns. -/
theorem clean_where_iff {s : Statement} (hfragment : ∀ T ∈ s.fragment, ∀ p ∈ T, p.Clean) :
    (∀ p ∈ whereTemplate s.clauses, p.Clean) ↔
      ∀ name ∈ (s.predicate.map Predicate.referencedColumns).getD [],
        PyChar.scalar '%' ∉ name := by
  have hwhere : ∀ Ts : List (Template PyValue),
      (∀ p ∈ whereTemplate Ts, p.Clean) ↔ ∀ T ∈ Ts, ∀ p ∈ T, p.Clean := by
    intro Ts
    unfold whereTemplate
    split
    · next h => simp [h]
    · rw [List.forall_mem_cons, Template.clean_join (by decide)]
      simp [str]
  have hfirst : ∀ T ∈ (s.fragment.map fun T =>
      (.text (str "(") : Piece PyValue) :: (T ++ [.text (str ")")])).toList,
      ∀ p ∈ T, p.Clean := by
    cases hf : s.fragment with
    | none => simp
    | some T =>
      have hT := hfragment T hf
      simp only [Option.map_some, Option.toList_some, List.forall_mem_singleton,
        List.forall_mem_cons, List.forall_mem_append]
      exact ⟨Piece.clean_text.mpr (by decide), hT, Piece.clean_text.mpr (by decide)⟩
  rw [hwhere, clauses, List.forall_mem_append]
  cases s.predicate with
  | none => simpa using hfirst
  | some p => simpa [← Predicate.clean_template_iff p] using fun _ => hfirst

/-- The percent signs in the literal text of a statement are those of its names. -/
theorem stray_template_eq_zero_iff {s : Statement}
    (hfragment : ∀ T ∈ s.fragment, ∀ p ∈ T, p.Clean) :
    s.template.stray = 0 ↔ ∀ name ∈ s.identifiers, PyChar.scalar '%' ∉ name := by
  rw [Template.stray_eq_zero_iff, template, List.forall_mem_append, List.forall_mem_append,
    clean_where_iff hfragment, identifiers, List.forall_mem_append, List.forall_mem_append]
  simp only [List.forall_mem_cons, Piece.clean_text, percent_not_mem_projection,
    percent_not_mem_table, percent_not_mem_tabletsText, percent_not_mem_limitText]
  simp [str]

end Statement

/-! ## The two transports -/

/-- The statements of the two transports agree: Flight carries no parameters, and
the MySQL statement, after the driver has bound its values, is the Flight one. -/
def SameSql (u : UnicodeData) (mysql flight : Text × List PyValue) : Prop :=
  flight.2 = [] ∧ (mysql.2 = [] → mysql.1 = flight.1) ∧
    (mysql.2 ≠ [] → ∃ texts, mysql.2.mapM renderFlightLiteral = .ok texts ∧
      percentFormat u mysql.1 texts = .ok flight.1)

/-- A call of `build_select` binds no value. -/
def SelectArguments.BindsNothing (a : SelectArguments) : Prop :=
  a.queryParameters = [] ∧ ∀ p ∈ a.predicate, p.literals = []

theorem statement_fragment_clean (a : SelectArguments) :
    ∀ T ∈ a.statement.fragment, ∀ p ∈ T, p.Clean := by
  intro T hT
  obtain ⟨text, -, rfl⟩ := Option.map_eq_some_iff.mp hT
  exact clean_tokensTemplate _ _

theorem holes_eq_nil_iff {a : SelectArguments} {r : Text × List PyValue}
    (h : buildSelect a = .ok r) : a.statement.template.holes = [] ↔ a.BindsNothing := by
  obtain ⟨projection, -, h⟩ := bind_eq_ok.mp h
  obtain ⟨tablets, -, h⟩ := bind_eq_ok.mp h
  obtain ⟨predicate, -, h⟩ := bind_eq_ok.mp h
  obtain ⟨fragment, hfragment, -⟩ := bind_eq_ok.mp h
  rw [Statement.holes_template, List.append_eq_nil_iff, SelectArguments.BindsNothing,
    (renderFragment_eq_ok hfragment).2]
  refine and_congr ?_ ?_
  · cases a.statement.fragment <;> simp
  · show (a.predicate.map Predicate.literals).getD [] = [] ↔ _
    cases a.predicate <;> simp

/-- The two transports send the same SQL exactly when no value is bound or no name
in the statement has a percent sign. -/
theorem sameSql_iff (u : UnicodeData) (a : SelectArguments) {mysql flight : Text × List PyValue}
    (hmysql : buildSelect { a with style := .mysql } = .ok mysql)
    (hflight : buildSelect { a with style := .flight } = .ok flight) :
    SameSql u mysql flight ↔
      a.BindsNothing ∨ ∀ name ∈ a.statement.identifiers, PyChar.scalar '%' ∉ name := by
  have hnothing : a.statement.template.holes = [] ↔ a.BindsNothing :=
    holes_eq_nil_iff (a := { a with style := .mysql }) hmysql
  have hstray : a.statement.template.stray = 0 ↔
      ∀ name ∈ a.statement.identifiers, PyChar.scalar '%' ∉ name :=
    Statement.stray_template_eq_zero_iff (statement_fragment_clean a)
  have hmysql : mysql = (a.statement.template.render
      (rawText .mysql (a.statement.template.holes ≠ []) '%') (fun _ => str "%s"),
      a.statement.template.holes) := (buildSelect_eq_ok hmysql).mysql_eq
  obtain ⟨hliterals, hflight⟩ := write_flight_eq_ok_iff.mp (buildSelect_eq_ok hflight)
  have hflight : flight = (a.statement.template.fill flightText, []) := hflight
  have hpercentFree : ∀ v ∈ a.statement.template.holes, PyChar.scalar '%' ∉ flightText v :=
    fun v hv => percent_not_mem_renderFlightLiteral (hliterals v hv)
  rw [hmysql, hflight, ← hnothing, ← hstray]
  unfold SameSql
  by_cases hholes : a.statement.template.holes = []
  · -- without values the driver leaves the statement alone, and there is nothing to fill
    have hsame : a.statement.template.render (str "%") (fun _ => str "%s") =
        a.statement.template.fill flightText :=
      Template.render_congr (by simp [hholes])
    have hraw : rawText .mysql (a.statement.template.holes ≠ []) '%' = str "%" := by
      simp [rawText, hholes, str]
    rw [hraw, hsame]
    simp [hholes]
  · have hraw : rawText .mysql (a.statement.template.holes ≠ []) '%' = str "%%" := by
      simp [rawText, hholes]
    have hmapM : a.statement.template.holes.mapM renderFlightLiteral =
        .ok (a.statement.template.holes.map flightText) := mapM_eq_ok_map hliterals
    have hformat : SameSql u (a.statement.template.render (str "%%") (fun _ => str "%s"),
        a.statement.template.holes) (a.statement.template.fill flightText, []) ↔
          percentFormat u (a.statement.template.format fun _ => str "%s")
            (a.statement.template.holes.map flightText) =
              .ok (a.statement.template.fill flightText) := by
      simp [SameSql, hholes, hmapM, Template.format]
    rw [hraw]
    exact hformat.trans ((percentFormat_template_iff hpercentFree).trans (by simp [hholes]))

/-- A scan of one column for the rows in which it is 1. -/
def equalsOne (name : Text) (hname : ValidIdentifier name) (style : ParameterStyle) :
    SelectArguments where
  table := exampleTable
  columns := [name]
  style := style
  predicate := some (.equalsOne name hname)

/-- A plain name is bound as the Flight statement has it. -/
theorem sameSql_equalsOne_id :
    SameSql .ascii (str "SELECT `id` FROM `d`.`t` WHERE (`id` = %s)", [.int 1])
      (str "SELECT `id` FROM `d`.`t` WHERE (`id` = 1)", []) :=
  (sameSql_iff .ascii (equalsOne (str "id") (by decide) .mysql) rfl rfl).mpr (Or.inr (by decide))

/-- The column `a%d` makes the MySQL statement a format with two conversions too
many, which one value does not fill. -/
theorem not_sameSql_equalsOne_percent :
    ∃ mysql flight,
      buildSelect (equalsOne (str "a%d") (by decide) .mysql) = .ok mysql ∧
      buildSelect (equalsOne (str "a%d") (by decide) .flight) = .ok flight ∧
      ¬ SameSql .ascii mysql flight := by
  refine ⟨(str "SELECT `a%d` FROM `d`.`t` WHERE (`a%d` = %s)", [.int 1]),
    (str "SELECT `a%d` FROM `d`.`t` WHERE (`a%d` = 1)", []), rfl, rfl, ?_⟩
  rintro ⟨-, -, h⟩
  obtain ⟨texts, htexts, hformat⟩ := h (by decide)
  have hone : texts = [str "1"] := (Except.ok.inj htexts).symm
  subst hone
  have hfails : ∃ e, percentFormat .ascii
      (str "SELECT `a%d` FROM `d`.`t` WHERE (`a%d` = %s)") [str "1"] = .error e := ⟨_, rfl⟩
  obtain ⟨e, he⟩ := hfails
  rw [he] at hformat
  cases hformat

end Doris
end DaftOlap
