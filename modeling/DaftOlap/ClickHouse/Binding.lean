/-
Binding the values of a ClickHouse statement, as far as it is exact.

clickhouse-connect computes `sql % mapping` when it has parameters.  The statement
doubles the percent signs of the trusted fragment; a percent sign in a quoted name or
in a cast type starts a conversion of its own.
-/
import DaftOlap.ClickHouse.Names

namespace DaftOlap
namespace ClickHouse

open Python

/-! ## Parameter names -/

theorem isNameChar_of_markerName? {rest name : Text} (h : markerName? rest = some name) :
    ∀ c ∈ name, c.isNameChar = true := by
  unfold markerName? at h
  split at h
  · cases h
  · next c rest =>
    split at h
    · cases h
    · split at h
      · cases h
      · next marker hmarker =>
        split at h
        · obtain rfl := Option.some.inj h
          unfold Text.parameterName? at hmarker
          split at hmarker
          · cases hmarker
          · next d tail =>
            split at hmarker
            · next hd =>
              rw [← Option.some.inj hmarker]
              intro c hc
              rcases List.mem_cons.mp hc with rfl | hc
              · exact PyChar.isNameChar_of_isNameStart hd
              · exact List.mem_takeWhile_imp hc
            · cases hmarker
        · cases h

theorem isNameChar_of_mem_fragmentParts {values : List (Text × PyValue)} {skip : Nat} {t : Text}
    {hole : Text × PyValue} (h : hole ∈ partHoles (fragmentParts values skip t)) :
    ∀ c ∈ hole.1, c.isNameChar = true := by
  induction t generalizing skip with
  | nil => cases skip <;> cases h
  | cons c rest ih =>
    cases skip with
    | succ skip => exact ih h
    | zero =>
      rw [fragmentParts] at h
      split at h
      · rw [partHoles_cons_other rfl] at h
        exact ih h
      · split at h
        · next name hname =>
          have h : hole ∈ (name, (values.lookup name).getD .none) ::
              partHoles (fragmentParts values (name.length + 3) rest) := h
          rcases List.mem_cons.mp h with rfl | h
          · exact isNameChar_of_markerName? hname
          · exact ih h
        · rw [partHoles_cons_other rfl] at h
          exact ih h

theorem isNameChar_natText {n : Nat} : ∀ c ∈ natText n, c.isNameChar = true := by
  intro c hc
  simp [PyChar.isNameChar, isAsciiDigit_of_mem_natText hc]

/-- The names a predicate and the partitions get are made of name characters. -/
theorem isNameChar_numbered (n : Nat) :
    (∀ c ∈ literalName n, c.isNameChar = true) ∧ ∀ c ∈ partitionName n, c.isNameChar = true := by
  have hreserved : ∀ c ∈ parameterPrefix, c.isNameChar = true := by decide
  have hpartition : ∀ c ∈ parameterPrefix ++ str "partition_", c.isNameChar = true := by decide
  constructor
  · intro c hc
    exact (List.mem_append.mp hc).elim (hreserved c) (isNameChar_natText c)
  · intro c hc
    exact (List.mem_append.mp hc).elim (hpartition c) (isNameChar_natText c)

/-- Every value of a statement has a name that a placeholder can carry. -/
theorem isNameChar_of_mem_statement {a : SelectArguments} {hole : Text × PyValue}
    (h : hole ∈ partHoles a.statement.parts) : ∀ c ∈ hole.1, c.isNameChar = true := by
  rw [Statement.partHoles_parts, List.mem_append, List.mem_append] at h
  rcases h with (h | h) | h
  · simp only [SelectArguments.statement, Option.map_map] at h
    cases hfragment : a.unsafeWhereSql with
    | none => simp [hfragment] at h
    | some text =>
      rw [hfragment] at h
      exact isNameChar_of_mem_fragmentParts h
  · cases hpredicate : a.statement.predicate with
    | none => simp [hpredicate] at h
    | some p =>
      rw [hpredicate, Option.map_some, Option.getD_some, predicateParameters_eq] at h
      obtain ⟨i, hi⟩ := mem_numbered (f := fun v : PyValue => v) (List.mem_map_of_mem h)
      rw [hi]
      exact (isNameChar_numbered i).1
  · cases hpartitions : a.statement.partitionIds with
    | none => simp [hpartitions] at h
    | some ids =>
      rw [hpartitions, Option.map_some, Option.getD_some, namedPartitions_eq] at h
      obtain ⟨i, hi⟩ := mem_numbered (List.mem_map_of_mem h)
      rw [hi]
      exact (isNameChar_numbered i).2

/-! ## Exact binding -/

/-- The SQL a statement stands for, with a text for the value of every name. -/
def Statement.reference (s : Statement) (σ : Text → Text) : Text :=
  partsText (str "%") (fun hole => σ hole.1) s.parts

/-- Binding is exact: the names are pairwise distinct, they carry the values of the
statement and no others, and the driver's text is the reference SQL. -/
structure ExactBinding (u : UnicodeData) (s : Statement) (r : Text × List (Text × PyValue)) :
    Prop where
  keys_nodup : (r.2.map Prod.fst).Nodup
  used : ∀ entry ∈ r.2, entry ∈ partHoles s.parts
  bound : ∀ hole ∈ partHoles s.parts, hole ∈ r.2
  formatted : r.2 ≠ [] → ∀ σ : Text → Text,
    percentFormatMapping u r.1 (assignment (r.2.map Prod.fst) σ) = .ok (s.reference σ)
  plain : r.2 = [] → ∀ σ : Text → Text, r.1 = s.reference σ

/-- A call of `build_select` binds no value. -/
def SelectArguments.BindsNothing (a : SelectArguments) : Prop :=
  a.queryParameters = [] ∧ (∀ p ∈ a.predicate, p.literals = []) ∧ a.partitionIds = none

theorem parameters_eq_nil_iff {a : SelectArguments} {r : Text × List (Text × PyValue)}
    (h : buildSelect a = .ok r) : r.2 = [] ↔ a.BindsNothing := by
  obtain ⟨_, hnames, h⟩ := bind_eq_ok.mp h
  obtain ⟨projection, -, h⟩ := bind_eq_ok.mp h
  obtain ⟨predicate, hpredicate, h⟩ := bind_eq_ok.mp h
  obtain ⟨⟨clause, parameters⟩, hpartition, h⟩ := bind_eq_ok.mp h
  obtain ⟨fragment, -, h⟩ := bind_eq_ok.mp h
  obtain ⟨limit, -, h⟩ := bind_eq_ok.mp h
  have hparameters : r.2 = allParameters a.queryParameters a.predicate a.partitionIds := by
    rw [predicate_eq_ok (str "%") hpredicate, Option.map_map] at hpartition
    have hpair := renderPartitionClause_eq_ok (str "%") hnames hpartition
    rw [← Except.ok.inj h]
    exact (Prod.mk.inj hpair).2
  have hpredicate : (a.predicate.map predicateParameters).getD [] = [] ↔
      ∀ p ∈ a.predicate, p.literals = [] := by
    cases a.predicate <;> simp [predicateParameters_eq, List.zipIdx_eq_nil_iff]
  have hpartitions : (a.partitionIds.map (namedPartitions 0)).getD [] = [] ↔
      a.partitionIds = none := by
    cases hids : a.partitionIds with
    | none => simp
    | some ids =>
      -- an empty list of partitions is refused
      simp only [hids, renderPartitionClause] at hpartition
      split at hpartition
      · cases hpartition
      · next hne => simp [namedPartitions_eq, List.zipIdx_eq_nil_iff, hne]
  rw [hparameters, allParameters, List.append_eq_nil_iff, List.append_eq_nil_iff, hpredicate,
    hpartitions, SelectArguments.BindsNothing, and_assoc]

section Parameters

variable {a : SelectArguments} {r : Text × List (Text × PyValue)}

/-- The names that stand in a statement have no percent sign. -/
def Statement.Clean (s : Statement) : Prop :=
  ∀ t ∈ s.identifiers ++ s.projection.castTypes, PyChar.scalar '%' ∉ t

instance (s : Statement) : Decidable s.Clean := List.decidableBAll _ _

theorem stray_statement_eq_zero_iff (a : SelectArguments) :
    (partsTemplate a.statement.parts).stray = 0 ↔ a.statement.Clean := by
  rw [stray_partsTemplate_eq_zero_iff, cleanRaw_statement, Statement.Clean, List.forall_mem_append,
    and_comm]
  simp only [mem_partNames_statement]

theorem isNameChar_of_mem_parameters (h : buildSelect a = .ok r) :
    ∀ n ∈ r.2.map Prod.fst, ∀ c ∈ n, c.isNameChar = true := by
  intro n hn
  obtain ⟨entry, hentry, rfl⟩ := List.mem_map.mp hn
  exact isNameChar_of_mem_statement (((buildSelect_eq_ok h).2.2 entry).mp hentry)

theorem mem_names_of_mem_holes (h : buildSelect a = .ok r) :
    ∀ hole ∈ (partsTemplate a.statement.parts).holes, hole.1 ∈ r.2.map Prod.fst :=
  fun hole hhole => List.mem_map_of_mem (((buildSelect_eq_ok h).2.2 hole).mpr hhole)

theorem partHoles_eq_nil (h : buildSelect a = .ok r) (hparameters : r.2 = []) :
    partHoles a.statement.parts = [] :=
  List.eq_nil_iff_forall_not_mem.mpr fun hole hhole => by
    simpa [hparameters] using ((buildSelect_eq_ok h).2.2 hole).mpr hhole

/-- Where nothing is bound the percent signs of the fragment stand as they are. -/
theorem sql_eq_of_no_parameters (h : buildSelect a = .ok r) (hparameters : r.2 = [])
    (value : Text × PyValue → Text) : r.1 = partsText (str "%") value a.statement.parts := by
  rw [(buildSelect_eq_ok h).1, if_neg (not_not.mpr hparameters)]
  refine Template.render_congr fun hole hhole => ?_
  rw [show (partsTemplate a.statement.parts).holes = [] from partHoles_eq_nil h hparameters] at hhole
  cases hhole

theorem sql_eq_format (h : buildSelect a = .ok r) (hparameters : r.2 ≠ []) :
    r.1 = (partsTemplate a.statement.parts).format fun k => namedPlaceholder k.1 := by
  rw [(buildSelect_eq_ok h).1, if_pos hparameters]
  rfl

end Parameters

/-- Binding is exact if and only if no value is bound, or no name and no cast type of
the statement has a percent sign. -/
theorem exactBinding_iff (u : UnicodeData) (a : SelectArguments)
    {r : Text × List (Text × PyValue)} (h : buildSelect a = .ok r) :
    ExactBinding u a.statement r ↔
      a.BindsNothing ∨ ∀ t ∈ a.statement.identifiers ++ a.statement.projection.castTypes,
        PyChar.scalar '%' ∉ t := by
  obtain ⟨-, hnodup, hentries⟩ := buildSelect_eq_ok h
  have hstray : (partsTemplate a.statement.parts).stray = 0 ↔
      ∀ t ∈ a.statement.identifiers ++ a.statement.projection.castTypes,
        PyChar.scalar '%' ∉ t := stray_statement_eq_zero_iff a
  rw [← parameters_eq_nil_iff h, ← hstray]
  by_cases hparameters : r.2 = []
  · exact iff_of_true ⟨hnodup, fun e he => (hentries e).mp he, fun e he => (hentries e).mpr he,
      fun hne => absurd hparameters hne,
      fun _ σ => sql_eq_of_no_parameters h hparameters _⟩ (Or.inl hparameters)
  · have hformat : (∀ σ : Text → Text,
        percentFormatMapping u ((partsTemplate a.statement.parts).format fun k =>
          namedPlaceholder k.1) (assignment (r.2.map Prod.fst) σ) =
            .ok (a.statement.reference σ)) ↔ (partsTemplate a.statement.parts).stray = 0 :=
      percentFormatMapping_template_iff (isNameChar_of_mem_parameters h) (mem_names_of_mem_holes h)
    rw [or_iff_right hparameters, ← hformat]
    constructor
    · intro hexact σ
      rw [← sql_eq_format h hparameters]
      exact hexact.formatted hparameters σ
    · intro hall
      refine ⟨hnodup, fun e he => (hentries e).mp he, fun e he => (hentries e).mpr he,
        fun _ σ => ?_, fun hnil => absurd hnil hparameters⟩
      rw [sql_eq_format h hparameters]
      exact hall σ

/-- Plain names are bound exactly. -/
theorem exactBinding_equalsOne :
    ExactBinding .ascii (equalsOne (str "id") (by decide)).statement
      (str "SELECT `id` FROM `d`.`t` WHERE (`id` = %(__daft_olap_0)s)",
        [(str "__daft_olap_0", .int 1)]) :=
  (exactBinding_iff .ascii (equalsOne (str "id") (by decide)) rfl).mpr (Or.inr (by decide))

/-- The column `a%d` makes the statement a format that the driver refuses. -/
theorem not_exactBinding_equalsOne :
    ∃ r, buildSelect (equalsOne (str "a%d") (by decide)) = .ok r ∧
      ¬ ExactBinding .ascii (equalsOne (str "a%d") (by decide)).statement r ∧
      ∃ e, percentFormatMapping .ascii r.1 [(str "__daft_olap_0", str "1")] = .error e := by
  refine ⟨(str "SELECT `a%d` FROM `d`.`t` WHERE (`a%d` = %(__daft_olap_0)s)",
    [(str "__daft_olap_0", .int 1)]), rfl, fun h => ?_, ⟨_, rfl⟩⟩
  have hformat := h.formatted (by decide) fun _ => str "1"
  have hfails : ∃ e, percentFormatMapping .ascii
      (str "SELECT `a%d` FROM `d`.`t` WHERE (`a%d` = %(__daft_olap_0)s)")
      [(str "__daft_olap_0", str "1")] = .error e := ⟨_, rfl⟩
  obtain ⟨e, he⟩ := hfails
  exact absurd (he.symm.trans hformat) (by simp)

/-! ## What is sent -/

/-- The text of a statement, with the literal the driver makes of each value. -/
def Statement.text (s : Statement) (literal : PyValue → Text) : Text :=
  partsText (str "%") (fun hole => literal hole.2) s.parts

/-- The text that reaches the server: the driver formats the SQL if it has parameters. -/
def sent (u : UnicodeData) (literal : PyValue → Text) (r : Text × List (Text × PyValue)) :
    Except FormatError Text :=
  if r.2 = [] then .ok r.1
  else percentFormatMapping u r.1 (r.2.map fun entry => (entry.1, literal entry.2))

/-- The text that reaches the server is that of a statement, whatever literals the driver
makes. -/
def Sends (u : UnicodeData) (r : Text × List (Text × PyValue)) (s : Statement) : Prop :=
  ∀ literal : PyValue → Text, sent u literal r = .ok (s.text literal)

/-- A query sends the statement it was built from if and only if it binds no value, or no name
and no cast type of the statement has a percent sign. -/
theorem sends_iff {u : UnicodeData} {a : SelectArguments} {r : Text × List (Text × PyValue)}
    (h : buildSelect a = .ok r) : Sends u r a.statement ↔ a.BindsNothing ∨ a.statement.Clean := by
  rw [← parameters_eq_nil_iff h, ← stray_statement_eq_zero_iff]
  unfold Sends sent
  by_cases hparameters : r.2 = []
  · simp only [if_pos hparameters]
    exact iff_of_true (fun literal => congrArg _ (sql_eq_of_no_parameters h hparameters _))
      (Or.inl hparameters)
  · simp only [if_neg hparameters]
    rw [or_iff_right hparameters, sql_eq_format h hparameters]
    obtain ⟨-, hnodup, hentries⟩ := buildSelect_eq_ok h
    constructor
    · intro hall
      have hprobe := hall fun _ => [probe]
      rw [show (r.2.map fun entry => (entry.1, [probe])) =
        assignment (r.2.map Prod.fst) fun _ => [probe] by
          rw [assignment, List.map_map]; rfl] at hprobe
      exact stray_eq_zero_of_probe (isNameChar_of_mem_parameters h) (mem_names_of_mem_holes h) hprobe
    · intro hstray literal
      have hlookup : ∀ entry ∈ r.2, r.2.lookup entry.1 = some entry.2 :=
        fun entry hentry => lookup_of_mem hnodup hentry
      have hassigned : (r.2.map fun entry => (entry.1, literal entry.2)) =
          assignment (r.2.map Prod.fst) fun name => literal ((r.2.lookup name).getD .none) := by
        rw [assignment, List.map_map]
        refine List.map_congr_left fun entry hentry => ?_
        simp only [Function.comp_apply, hlookup entry hentry, Option.getD_some]
      have htext : a.statement.text literal =
          a.statement.reference fun name => literal ((r.2.lookup name).getD .none) :=
        Template.render_congr fun hole hhole => by
          simp only [hlookup hole ((hentries hole).mpr hhole), Option.getD_some]
      rw [hassigned, htext]
      exact (percentFormatMapping_template_iff (isNameChar_of_mem_parameters h)
        (mem_names_of_mem_holes h)).mpr hstray _

end ClickHouse
end DaftOlap
