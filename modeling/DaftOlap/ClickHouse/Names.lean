/-
The names of ClickHouse statements.

`quote_identifier` doubles backticks and leaves backslashes as they are, while the
ClickHouse rule for quoted tokens reads a backslash as an escape.  A name is read
back as itself exactly when it has no backslash, and this decides for a SELECT, a
DESCRIBE and a schema probe whether their names are closed tokens.
-/
import DaftOlap.ClickHouse.Statement

namespace DaftOlap
namespace ClickHouse

open Python

/-! ## Names, casts and separation -/

/-- The names of a statement outside its trusted fragment. -/
def Statement.identifiers (s : Statement) : List Text :=
  s.projection.names ++ [s.table.database, s.table.table] ++
    (s.predicate.map Predicate.referencedColumns).getD []

theorem partNames_castParts {κ : Type} {entry : Text × Option Text} {n : Text} :
    n ∈ partNames (castParts entry : List (SqlPart κ)) ↔ n = entry.1 := by
  unfold castParts
  split <;> simp

theorem mem_partNames_projection {κ : Type} {projection : Projection} {n : Text} :
    n ∈ partNames (projection.parts : List (SqlPart κ)) ↔ n ∈ projection.names := by
  cases projection with
  | count name => simp [Projection.parts, Projection.names]
  | columns entries =>
    rw [Projection.parts, partNames_joinParts, List.flatMap_map, List.mem_flatMap, Projection.names,
      List.mem_map]
    simp only [partNames_castParts, eq_comm]

theorem partNames_partitionParts (ids : List Text) : partNames (partitionParts ids) = [] := by
  rw [partitionParts, partNames_raw, partNames_append, partNames_holes]
  rfl

theorem partNames_limitParts {κ : Type} (limit : Option Int) :
    partNames (limitParts limit : List (SqlPart κ)) = [] := by
  cases limit <;> rfl

theorem partNames_clauses (a : SelectArguments) :
    a.statement.clauses.flatMap partNames =
      (a.predicate.map Predicate.referencedColumns).getD [] := by
  have hfragment : ∀ g ∈ (a.statement.fragment.map fun f =>
      (.raw (str "(") : SqlPart (Text × PyValue)) :: (f ++ [.raw (str ")")])).toList,
      partNames g = [] := by
    intro g hg
    simp only [SelectArguments.statement, Option.map_map, Option.mem_toList,
      Option.map_eq_some_iff] at hg
    obtain ⟨text, -, rfl⟩ := hg
    simp [partNames_fragmentParts]
  have hpredicate : (a.predicate.map fun p => numberHoles literalName 0 p.parts).toList.flatMap
      partNames = (a.predicate.map Predicate.referencedColumns).getD [] := by
    cases a.predicate with
    | none => rfl
    | some p => simp [partNames_numberHoles, Predicate.partNames_parts]
  have hpartitions : (a.partitionIds.map partitionParts).toList.flatMap partNames = [] := by
    cases a.partitionIds with
    | none => rfl
    | some ids => simp [partNames_partitionParts]
  rw [Statement.clauses, List.flatMap_append, List.flatMap_append,
    List.flatMap_eq_nil_iff.mpr hfragment, List.nil_append]
  show (a.predicate.map _).toList.flatMap partNames ++ (a.partitionIds.map _).toList.flatMap
    partNames = _
  rw [hpredicate, hpartitions, List.append_nil]

/-- The names among the parts are the names of the statement. -/
theorem mem_partNames_statement {a : SelectArguments} {n : Text} :
    n ∈ partNames a.statement.parts ↔ n ∈ a.statement.identifiers := by
  have hclauses : n ∈ a.statement.clauses.flatMap partNames ↔
      n ∈ (a.statement.predicate.map Predicate.referencedColumns).getD [] :=
    Iff.of_eq (congrArg (n ∈ ·) (partNames_clauses a))
  simp only [Statement.parts, Statement.identifiers, partNames_raw, partNames_append,
    partNames_name, partNames_whereParts, partNames_limitParts, List.mem_append, List.mem_cons,
    mem_partNames_projection, hclauses, List.not_mem_nil, or_false, or_assoc]

theorem cleanRaw_castParts {κ : Type} {entry : Text × Option Text} :
    CleanRaw (castParts entry : List (SqlPart κ)) ↔
      ∀ type ∈ entry.2, PyChar.scalar '%' ∉ type := by
  unfold castParts
  split
  · next h => simp [CleanRaw, h]
  · next type h => simp [CleanRaw, h, str]

theorem cleanRaw_projection {κ : Type} {projection : Projection} :
    CleanRaw (projection.parts : List (SqlPart κ)) ↔
      ∀ type ∈ projection.castTypes, PyChar.scalar '%' ∉ type := by
  cases projection with
  | count name => simp [Projection.parts, Projection.castTypes, CleanRaw, str]
  | columns entries =>
    rw [Projection.parts, cleanRaw_joinParts (by decide), List.forall_mem_map]
    simp only [cleanRaw_castParts, Projection.castTypes, List.mem_filterMap]
    constructor
    · intro h type hmem
      obtain ⟨entry, hentry, htype⟩ := hmem
      exact h entry hentry type htype
    · intro h entry hentry type htype
      exact h type ⟨entry, hentry, htype⟩

theorem cleanRaw_partitionParts (ids : List Text) : CleanRaw (partitionParts ids) := by
  have hholes : ∀ g ∈ (namedPartitions 0 ids).map fun p => [(.hole p : SqlPart (Text × PyValue))],
      CleanRaw g := by
    intro g hg
    obtain ⟨p, -, rfl⟩ := List.mem_map.mp hg
    trivial
  simp only [partitionParts, CleanRaw, cleanRaw_append, cleanRaw_joinParts (show PyChar.scalar '%' ∉
    str ", " by decide)]
  exact ⟨by decide, hholes, by decide, trivial⟩

theorem cleanRaw_limitParts {κ : Type} (limit : Option Int) :
    CleanRaw (limitParts limit : List (SqlPart κ)) := by
  cases limit with
  | none => trivial
  | some n => exact ⟨percent_not_mem_limitText (some n), trivial⟩

/-- What the clauses of a WHERE have in common, clause by clause. -/
theorem forall_clauses {a : SelectArguments} {P : List (SqlPart (Text × PyValue)) → Prop}
    (hfragment : ∀ text, P (.raw (str "(") :: (fragmentParts a.queryParameters 0 text ++
      [.raw (str ")")])))
    (hpredicate : ∀ p : Predicate, P (numberHoles literalName 0 p.parts))
    (hpartitions : ∀ ids, P (partitionParts ids)) : ∀ g ∈ a.statement.clauses, P g := by
  intro g hg
  simp only [Statement.clauses, SelectArguments.statement, Option.map_map, List.mem_append,
    Option.mem_toList, Option.map_eq_some_iff] at hg
  obtain (⟨text, -, rfl⟩ | ⟨p, -, rfl⟩) | ⟨ids, -, rfl⟩ := hg
  · exact hfragment text
  · exact hpredicate p
  · exact hpartitions ids

/-- The percent signs in the builder's text are those of the cast types. -/
theorem cleanRaw_statement {a : SelectArguments} :
    CleanRaw a.statement.parts ↔
      ∀ type ∈ a.statement.projection.castTypes, PyChar.scalar '%' ∉ type := by
  have hclauses : ∀ g ∈ a.statement.clauses, CleanRaw g := by
    refine forall_clauses (fun text => ?_) (fun p => ?_) cleanRaw_partitionParts
    · simp only [CleanRaw, cleanRaw_append]
      exact ⟨by decide, cleanRaw_fragmentParts _ _ _, by decide, trivial⟩
    · exact (cleanRaw_numberHoles _ _ _).mpr p.cleanRaw_parts
  simp only [Statement.parts, CleanRaw, cleanRaw_append, cleanRaw_projection, cleanRaw_whereParts,
    cleanRaw_limitParts]
  constructor
  · exact fun h => h.2.1
  · exact fun h => ⟨by decide, h, by decide, by decide, hclauses, trivial⟩

theorem separated_castParts {κ : Type} (entry : Text × Option Text) :
    Separated (castParts entry : List (SqlPart κ)) := by
  unfold castParts
  split
  · exact ⟨trivial, trivial⟩
  · exact ⟨follows_raw (by simp [str]) (by simp [str]), trivial, trivial⟩

theorem separated_casts {κ : Type} (entries : List (Text × Option Text)) :
    Separated (joinParts (str ", ") (entries.map castParts) : List (SqlPart κ)) := by
  refine separated_joinParts (follows_raw (by decide) (by decide)) fun g hg => ?_
  obtain ⟨entry, -, rfl⟩ := List.mem_map.mp hg
  exact separated_castParts entry

theorem separated_projection {κ : Type} (projection : Projection) :
    Separated (projection.parts : List (SqlPart κ)) := by
  cases projection with
  | count name => exact ⟨trivial, trivial⟩
  | columns entries => exact separated_casts entries

theorem separated_partitionParts (ids : List Text) : Separated (partitionParts ids) := by
  have hholes : ∀ g ∈ (namedPartitions 0 ids).map fun p => [(.hole p : SqlPart (Text × PyValue))],
      Separated g := by
    intro g hg
    obtain ⟨p, -, rfl⟩ := List.mem_map.mp hg
    trivial
  exact (separated_joinParts (follows_raw (by decide) (by decide)) hholes).append trivial
    (follows_raw (by decide) (by decide))

theorem follows_whereParts {κ : Type} (clauses : List (List (SqlPart κ))) :
    Follows (whereParts clauses) := by
  unfold whereParts
  split
  · trivial
  · exact follows_raw (by decide) (by decide)

theorem follows_limitParts {κ : Type} (limit : Option Int) :
    Follows (limitParts limit : List (SqlPart κ)) := by
  cases limit with
  | none => trivial
  | some n => exact follows_raw (by simp [limitText, str]) (by simp [limitText, str])

theorem separated_whereParts {κ : Type} {clauses : List (List (SqlPart κ))}
    (h : ∀ g ∈ clauses, Separated g) : Separated (whereParts clauses) := by
  unfold whereParts
  split
  · trivial
  · exact separated_joinParts (follows_raw (by decide) (by decide)) h

/-- In a SELECT every name is followed by text that does not open with a backtick. -/
theorem separated_statement (a : SelectArguments) : Separated a.statement.parts := by
  have hclauses : ∀ g ∈ a.statement.clauses, Separated g := by
    refine forall_clauses (fun text => ?_) (fun p => separated_numberHoles p.separated_parts)
      separated_partitionParts
    exact (separated_fragmentParts _ _ text).append trivial (follows_raw (by decide) (by decide))
  have hlimit : Separated (limitParts a.statement.limit : List (SqlPart (Text × PyValue))) := by
    cases a.statement.limit <;> trivial
  have htail : Separated (whereParts a.statement.clauses ++ limitParts a.statement.limit) :=
    (separated_whereParts hclauses).append hlimit (follows_limitParts _)
  have hfollows : Follows (whereParts a.statement.clauses ++ limitParts a.statement.limit) :=
    (follows_whereParts _).append (follows_limitParts _)
  refine (separated_projection a.statement.projection).append ?_
    (follows_raw (by decide) (by decide))
  exact ⟨follows_raw (by decide) (by decide), hfollows, htail⟩

/-! ## DESCRIBE and the schema probe -/

def describeParts (table : QualifiedTable) : List (SqlPart Empty) :=
  [.raw (str "DESCRIBE TABLE "), .name table.database, .raw (str "."), .name table.table]

def probeParts (table : QualifiedTable) (columns : List ClickHouseColumn) : List (SqlPart Empty) :=
  .raw (str "SELECT ") ::
    (joinParts (str ", ") ((columns.map fun c => (c.name, c.castType)).map castParts) ++
      [.raw (str " FROM "), .name table.database, .raw (str "."), .name table.table,
        .raw (str " LIMIT 0")])

theorem buildDescribe_eq (table : QualifiedTable) (percent : Text) (hole : Empty → Text) :
    buildDescribe table = partsText percent hole (describeParts table) := by
  simp [buildDescribe, describeParts, QualifiedTable.sql]

theorem buildSchemaProbe_eq_ok {table : QualifiedTable} {columns : List ClickHouseColumn}
    {t : Text} (percent : Text) (hole : Empty → Text)
    (h : buildSchemaProbe table columns = .ok t) :
    t = partsText percent hole (probeParts table columns) := by
  obtain ⟨projection, hprojection, h⟩ := bind_eq_ok.mp h
  obtain ⟨expressions, hexpressions, hprojection⟩ := bind_eq_ok.mp hprojection
  have hmap := eq_map_of_mapM_eq_ok
    (g := fun c : ClickHouseColumn => partsText percent hole (castParts (c.name, c.castType)))
    (fun c t ht => castParts_text ht) hexpressions
  rw [← Except.ok.inj h, ← Except.ok.inj hprojection, hmap]
  simp [probeParts, partsText_joinParts, QualifiedTable.sql, Function.comp_def]

theorem separated_probeParts (table : QualifiedTable) (columns : List ClickHouseColumn) :
    Separated (probeParts table columns) := by
  refine Separated.append (separated_casts _) ?_ (follows_raw (by decide) (by decide))
  exact ⟨follows_raw (by decide) (by decide), follows_raw (by decide) (by decide), trivial⟩

theorem mem_partNames_probeParts {table : QualifiedTable} {columns : List ClickHouseColumn}
    {n : Text} : n ∈ partNames (probeParts table columns) ↔
      n ∈ columns.map ClickHouseColumn.name ++ [table.database, table.table] := by
  simp only [probeParts, partNames_raw, partNames_append, partNames_name, partNames_nil,
    partNames_joinParts, List.flatMap_map, List.mem_append, List.mem_flatMap, partNames_castParts,
    List.mem_map, eq_comm]

/-! ## Closed names -/

/-- A quoted name is read back, and nothing of the text after it, exactly when the
name has no backslash and the text does not open with a backtick.  Hence the names of
a SELECT, a DESCRIBE and a schema probe, whatever stands for their percent signs and
values, are closed tokens exactly when no name has a backslash. -/
theorem closed_names_iff {name token : Text} (hname : quoteIdentifier name = .ok token)
    (rest : Text) {a : SelectArguments} {r : Text × List (Text × PyValue)}
    (hselect : buildSelect a = .ok r) {table : QualifiedTable} {columns : List ClickHouseColumn}
    {probe : Text} (hprobe : buildSchemaProbe table columns = .ok probe) :
    (lexIdentifier .clickHouse (token ++ rest) = some (name, rest) ↔
      PyChar.scalar '\\' ∉ name ∧ rest.head? ≠ some (PyChar.scalar '`')) ∧
    (r.1 = boundText (if r.2 ≠ [] then str "%%" else str "%") a.statement.parts ∧
      ∀ percent hole, ClosedNames percent hole a.statement.parts ↔
        ∀ name ∈ a.statement.identifiers, PyChar.scalar '\\' ∉ name) ∧
    ∀ percent hole,
      (buildDescribe table = partsText percent hole (describeParts table) ∧
        (ClosedNames percent hole (describeParts table) ↔
          ∀ name ∈ [table.database, table.table], PyChar.scalar '\\' ∉ name)) ∧
      (probe = partsText percent hole (probeParts table columns) ∧
        (ClosedNames percent hole (probeParts table columns) ↔
          ∀ name ∈ columns.map ClickHouseColumn.name ++ [table.database, table.table],
            PyChar.scalar '\\' ∉ name)) := by
  refine ⟨?_, ⟨(buildSelect_eq_ok hselect).1, fun percent hole => ?_⟩, fun percent hole =>
    ⟨⟨buildDescribe_eq table percent hole, closedNames_iff ?_⟩,
      buildSchemaProbe_eq_ok percent hole hprobe, ?_⟩⟩
  · rw [(quoteIdentifier_eq_ok hname).2]
    exact lexIdentifier_clickHouse_iff
  · rw [closedNames_iff (separated_statement a)]
    simp only [mem_partNames_statement]
  · exact ⟨follows_raw (by decide) (by decide), trivial, trivial⟩
  · rw [closedNames_iff (separated_probeParts table columns)]
    simp only [mem_partNames_probeParts]

/-- A scan of one column for the rows in which it is 1. -/
def equalsOne (name : Text) (hname : ValidIdentifier name) : SelectArguments where
  table := exampleTable
  columns := [name]
  predicate := some (.equalsOne name hname)

/-- The names of a plain scan are closed tokens, also once its value is bound. -/
theorem closedNames_equalsOne :
    lexIdentifier .clickHouse (str "`id` FROM `d`") = some (str "id", str " FROM `d`") ∧
    ClosedNames (str "%") (fun _ => str "1") (equalsOne (str "id") (by decide)).statement.parts := by
  have hclosed := @closed_names_iff (str "id") (str "`id`") rfl (str " FROM `d`")
    (equalsOne (str "id") (by decide))
    (str "SELECT `id` FROM `d`.`t` WHERE (`id` = %(__daft_olap_0)s)",
      [(str "__daft_olap_0", .int 1)]) rfl
    ⟨str "d", str "t", by decide, by decide⟩ [⟨str "id", str "Int64", str "Int64"⟩]
    (str "SELECT `id` FROM `d`.`t` LIMIT 0") rfl
  exact ⟨hclosed.1.mpr (by decide), (hclosed.2.1.2 _ _).mpr (by decide)⟩

/-- Of the quoted form of this name only three characters are read, as one backtick;
the rest is read as SQL. -/
theorem quoteIdentifier_escaped :
    quoteIdentifier (str "\\` FROM u") = .ok (str "`\\`` FROM u`") ∧
    lexIdentifier .clickHouse (str "`\\`` FROM u`" ++ str " FROM `d`.`t`") =
      some (str "`", str " FROM u` FROM `d`.`t`") ∧
    ¬ ∀ name token rest, quoteIdentifier name = .ok token →
      lexIdentifier .clickHouse (token ++ rest) = some (name, rest) := by
  refine ⟨rfl, by decide, fun h => ?_⟩
  have hread := h (str "\\` FROM u") (str "`\\`` FROM u`") (str " FROM `d`.`t`") rfl
  exact absurd hread (by decide)

end ClickHouse
end DaftOlap
