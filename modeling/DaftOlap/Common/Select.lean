/-
What the SELECT builders of the two dialects share.

The LIMIT and WHERE clauses are built the same way.  A statement is a list of
parts: text of its own, percent signs of a trusted fragment, values, and names,
which are quoted.  `closedNames_iff` says when every name of a statement is read
back as one closed token under the ClickHouse rule.
-/
import DaftOlap.Common.Renderer

namespace DaftOlap

open Python

/-! ## Clauses -/

/-- A value that passes the check on limits: a non-negative integer, not a `bool`. -/
def limit? : PyValue → Option Int
  | .int z => if 0 ≤ z then some z else none
  | _ => none

/-- The LIMIT clause, empty when there is none; a count has no limit. -/
def renderLimit (countOutputName : Option Text) : Option PyValue → Except PyException Text
  | none => .ok []
  | some limit =>
    if countOutputName ≠ none then .ok []
    else
      match limit? limit with
      | some z => do return str " LIMIT " ++ (← strInt z)
      | none => .error (configurationError "limit must be a non-negative integer")

def limitText : Option Int → Text
  | none => []
  | some n => str " LIMIT " ++ intText n

/-- The limit a SELECT has in the end. -/
def effectiveLimit (countOutputName : Option Text) (limit : Option PyValue) : Option Int :=
  if countOutputName = none then limit.bind limit? else none

/-- A limit that is a natural number stays. -/
theorem effectiveLimit_natCast (limit : Option Nat) :
    effectiveLimit none (limit.map fun n : Nat => .int n) = limit.map fun n : Nat => (n : Int) := by
  cases limit with
  | none => rfl
  | some n =>
    have hlimit : limit? (.int n) = some (n : Int) := by
      rw [limit?, if_pos (Int.natCast_nonneg n)]
    simp [effectiveLimit, hlimit]

theorem effectiveLimit_nat (limit : Option Nat) :
    (effectiveLimit none (limit.map fun n : Nat => .int n)).map Int.toNat = limit := by
  rw [effectiveLimit_natCast, Option.map_map]
  cases limit <;> rfl

theorem renderLimit_eq_ok {countOutputName : Option Text} {limit : Option PyValue} {t : Text}
    (h : renderLimit countOutputName limit = .ok t) :
    t = limitText (effectiveLimit countOutputName limit) := by
  unfold effectiveLimit
  cases limit with
  | none =>
    rw [← Except.ok.inj h]
    split <;> rfl
  | some limit =>
    simp only [renderLimit] at h
    split at h
    · next hcount =>
      rw [if_neg hcount, ← Except.ok.inj h]
      rfl
    · next hcount =>
      rw [if_pos (not_not.mp hcount), Option.bind_some]
      split at h
      · next z hz =>
        obtain ⟨n, hn, h⟩ := bind_eq_ok.mp h
        rw [← Except.ok.inj h, hz, strInt_eq_ok hn]
        rfl
      · cases h

/-- The WHERE clause of the rendered clauses, empty when there are none. -/
def renderWhere (clauses : List Text) : Text :=
  if clauses = [] then [] else str " WHERE " ++ Text.join (str " AND ") clauses

/-! ## Percent signs -/

theorem not_mem_of_isNumberText {c : PyChar} (hc : c.isNumberChar = false) {t : Text}
    (ht : IsNumberText t) : c ∉ t := by
  intro hmem
  rw [ht c hmem] at hc
  cases hc

theorem percent_not_mem_join {sep : Text} (hsep : PyChar.scalar '%' ∉ sep) {parts : List Text} :
    PyChar.scalar '%' ∉ Text.join sep parts ↔ ∀ t ∈ parts, PyChar.scalar '%' ∉ t := by
  rw [← List.count_eq_zero, Text.count_join _ hsep, List.sum_eq_zero_iff_forall_eq_nat,
    List.forall_mem_map]
  simp only [List.count_eq_zero]

theorem percent_not_mem_quoted {name : Text} :
    PyChar.scalar '%' ∉ quoted name ↔ PyChar.scalar '%' ∉ name :=
  not_congr (mem_quoted (by decide))

theorem percent_not_mem_limitText (limit : Option Int) : PyChar.scalar '%' ∉ limitText limit := by
  cases limit with
  | none => simp [limitText]
  | some n =>
    rw [limitText, List.mem_append, not_or]
    exact ⟨by decide, not_mem_of_isNumberText (by decide) (isNumberText_intText n)⟩

theorem percent_not_mem_table {table : QualifiedTable} :
    PyChar.scalar '%' ∉ table.sql ↔
      PyChar.scalar '%' ∉ table.database ∧ PyChar.scalar '%' ∉ table.table := by
  rw [QualifiedTable.sql, List.mem_append, List.mem_append, not_or, not_or, percent_not_mem_quoted,
    percent_not_mem_quoted]
  simp [str]

/-! ## Statements as parts -/

/-- A part of a statement. -/
inductive SqlPart (κ : Type)
  /-- Text of the builder or of a trusted fragment. -/
  | raw (t : Text)
  /-- A percent sign of a trusted fragment. -/
  | percent
  /-- A value. -/
  | hole (k : κ)
  /-- A name, which is quoted. -/
  | name (n : Text)
deriving DecidableEq

section Parts

variable {κ : Type}

/-- The piece of a template a part is. -/
def SqlPart.piece : SqlPart κ → Piece κ
  | .raw t => .text t
  | .percent => .percent
  | .hole k => .hole k
  | .name n => .text (quoted n)

def SqlPart.name? : SqlPart κ → Option Text
  | .name n => some n
  | _ => none

/-- The template of a statement. -/
def partsTemplate (parts : List (SqlPart κ)) : Template κ := parts.map SqlPart.piece

/-- The names of a statement. -/
def partNames (parts : List (SqlPart κ)) : List Text := parts.filterMap SqlPart.name?

/-- Parts with text between them. -/
def joinParts (sep : Text) : List (List (SqlPart κ)) → List (SqlPart κ)
  | [] => []
  | [p] => p
  | p :: q :: rest => p ++ .raw sep :: joinParts sep (q :: rest)

/-- The parts of a WHERE clause. -/
def whereParts (clauses : List (List (SqlPart κ))) : List (SqlPart κ) :=
  if clauses = [] then [] else .raw (str " WHERE ") :: joinParts (str " AND ") clauses

@[simp] theorem partsTemplate_nil : partsTemplate ([] : List (SqlPart κ)) = [] := rfl

@[simp] theorem partsTemplate_cons (p : SqlPart κ) (parts : List (SqlPart κ)) :
    partsTemplate (p :: parts) = p.piece :: partsTemplate parts := rfl

@[simp] theorem partsTemplate_append (parts rest : List (SqlPart κ)) :
    partsTemplate (parts ++ rest) = partsTemplate parts ++ partsTemplate rest := by
  simp [partsTemplate]

theorem partsTemplate_joinParts (sep : Text) (groups : List (List (SqlPart κ))) :
    partsTemplate (joinParts sep groups) = Template.join sep (groups.map partsTemplate) := by
  induction groups with
  | nil => rfl
  | cons p groups ih =>
    cases groups with
    | nil => rfl
    | cons q groups =>
      rw [joinParts, partsTemplate_append, partsTemplate_cons, ih]
      rfl

@[simp] theorem partNames_append (parts rest : List (SqlPart κ)) :
    partNames (parts ++ rest) = partNames parts ++ partNames rest := by
  simp [partNames]

@[simp] theorem partNames_nil : partNames ([] : List (SqlPart κ)) = [] := rfl

@[simp] theorem partNames_name (n : Text) (parts : List (SqlPart κ)) :
    partNames (.name n :: parts) = n :: partNames parts := rfl

@[simp] theorem partNames_raw (t : Text) (parts : List (SqlPart κ)) :
    partNames (.raw t :: parts) = partNames parts := rfl

@[simp] theorem partNames_percent (parts : List (SqlPart κ)) :
    partNames (.percent :: parts) = partNames parts := rfl

@[simp] theorem partNames_hole (k : κ) (parts : List (SqlPart κ)) :
    partNames (.hole k :: parts) = partNames parts := rfl

theorem partNames_joinParts (sep : Text) (groups : List (List (SqlPart κ))) :
    partNames (joinParts sep groups) = groups.flatMap partNames := by
  induction groups with
  | nil => rfl
  | cons p groups ih =>
    cases groups with
    | nil => simp [joinParts]
    | cons q groups => rw [joinParts, partNames_append, partNames_raw, ih, ← List.flatMap_cons]

@[simp] theorem partNames_whereParts (clauses : List (List (SqlPart κ))) :
    partNames (whereParts clauses) = clauses.flatMap partNames := by
  unfold whereParts
  split
  · next h => rw [h]; rfl
  · rw [partNames_raw, partNames_joinParts]

/-- The text of the builder, casts included, has no percent sign. -/
def CleanRaw : List (SqlPart κ) → Prop
  | [] => True
  | .raw t :: parts => PyChar.scalar '%' ∉ t ∧ CleanRaw parts
  | _ :: parts => CleanRaw parts

@[simp] theorem cleanRaw_append {parts rest : List (SqlPart κ)} :
    CleanRaw (parts ++ rest) ↔ CleanRaw parts ∧ CleanRaw rest := by
  induction parts with
  | nil => simp [CleanRaw]
  | cons p parts ih => cases p <;> simp [CleanRaw, ih, and_assoc]

theorem cleanRaw_joinParts {sep : Text} (hsep : PyChar.scalar '%' ∉ sep)
    {groups : List (List (SqlPart κ))} :
    CleanRaw (joinParts sep groups) ↔ ∀ g ∈ groups, CleanRaw g := by
  induction groups with
  | nil => simp [joinParts, CleanRaw]
  | cons p groups ih =>
    cases groups with
    | nil => simp [joinParts]
    | cons q groups =>
      rw [joinParts, cleanRaw_append, CleanRaw, ih, List.forall_mem_cons (a := p)]
      simp [hsep]

theorem cleanRaw_whereParts {clauses : List (List (SqlPart κ))} :
    CleanRaw (whereParts clauses) ↔ ∀ g ∈ clauses, CleanRaw g := by
  unfold whereParts
  split
  · next h => simp [h, CleanRaw]
  · rw [CleanRaw, cleanRaw_joinParts (by decide)]
    simp [str]

/-- The percent signs in the literal text of a statement are those of the builder's
text and those of the names. -/
theorem stray_partsTemplate_eq_zero_iff {parts : List (SqlPart κ)} :
    (partsTemplate parts).stray = 0 ↔
      CleanRaw parts ∧ ∀ n ∈ partNames parts, PyChar.scalar '%' ∉ n := by
  rw [Template.stray_eq_zero_iff]
  induction parts with
  | nil => simp [CleanRaw]
  | cons p parts ih =>
    rw [partsTemplate_cons, List.forall_mem_cons, ih]
    cases p with
    | raw t => simp [SqlPart.piece, CleanRaw, and_assoc]
    | percent => simp [SqlPart.piece, CleanRaw]
    | hole k => simp [SqlPart.piece, CleanRaw]
    | name n =>
      simp only [SqlPart.piece, Piece.clean_text, CleanRaw, partNames_name, List.forall_mem_cons,
        percent_not_mem_quoted]
      exact and_left_comm

/-- The text of a statement under a choice for percent signs and values. -/
def partsText (percent : Text) (hole : κ → Text) (parts : List (SqlPart κ)) : Text :=
  (partsTemplate parts).render percent hole

@[simp] theorem partsText_nil (percent : Text) (hole : κ → Text) :
    partsText percent hole [] = [] := rfl

@[simp] theorem partsText_raw (percent : Text) (hole : κ → Text) (t : Text)
    (parts : List (SqlPart κ)) :
    partsText percent hole (.raw t :: parts) = t ++ partsText percent hole parts := rfl

@[simp] theorem partsText_percent (percent : Text) (hole : κ → Text) (parts : List (SqlPart κ)) :
    partsText percent hole (.percent :: parts) = percent ++ partsText percent hole parts := rfl

@[simp] theorem partsText_hole (percent : Text) (hole : κ → Text) (k : κ)
    (parts : List (SqlPart κ)) :
    partsText percent hole (.hole k :: parts) = hole k ++ partsText percent hole parts := rfl

@[simp] theorem partsText_name (percent : Text) (hole : κ → Text) (n : Text)
    (parts : List (SqlPart κ)) :
    partsText percent hole (.name n :: parts) = quoted n ++ partsText percent hole parts := rfl

@[simp] theorem partsText_append (percent : Text) (hole : κ → Text)
    (parts rest : List (SqlPart κ)) :
    partsText percent hole (parts ++ rest) =
      partsText percent hole parts ++ partsText percent hole rest := by
  simp [partsText]

theorem partsText_joinParts (percent : Text) (hole : κ → Text) (sep : Text)
    (groups : List (List (SqlPart κ))) :
    partsText percent hole (joinParts sep groups) =
      Text.join sep (groups.map (partsText percent hole)) := by
  rw [partsText, partsTemplate_joinParts, Template.render_join, List.map_map]
  rfl

theorem partsText_whereParts (percent : Text) (hole : κ → Text)
    (clauses : List (List (SqlPart κ))) :
    partsText percent hole (whereParts clauses) =
      renderWhere (clauses.map (partsText percent hole)) := by
  unfold whereParts renderWhere
  split
  · next h => simp [h]
  · next h =>
    rw [if_neg (by simpa using h), partsText_raw, partsText_joinParts]

/-! ## Names as closed tokens -/

/-- Every name of a statement, read from its first backtick under the ClickHouse
rule, is that name, and reading stops where the next part starts. -/
def ClosedNames (percent : Text) (hole : κ → Text) (parts : List (SqlPart κ)) : Prop :=
  ∀ before n after, parts = before ++ .name n :: after →
    lexIdentifier .clickHouse (partsText percent hole (.name n :: after)) =
      some (n, partsText percent hole after)

/-- What may come after a name: the end, or text that does not open with a backtick. -/
def Follows : List (SqlPart κ) → Prop
  | [] => True
  | .raw (c :: _) :: _ => c ≠ '`'
  | _ => False

/-- No name is followed by anything that could be read as part of it. -/
def Separated : List (SqlPart κ) → Prop
  | [] => True
  | .name _ :: rest => Follows rest ∧ Separated rest
  | _ :: rest => Separated rest

theorem follows_raw {t : Text} {rest : List (SqlPart κ)} (hne : t ≠ [])
    (hhead : t.head? ≠ some (PyChar.scalar '`')) : Follows (.raw t :: rest) := by
  cases t with
  | nil => exact absurd rfl hne
  | cons c t => simpa [Follows] using hhead

theorem Follows.append {parts rest : List (SqlPart κ)} (h : Follows parts) (hrest : Follows rest) :
    Follows (parts ++ rest) := by
  cases parts with
  | nil => exact hrest
  | cons p parts =>
    cases p with
    | raw t =>
      cases t with
      | nil => cases h
      | cons c t => exact h
    | percent => cases h
    | hole k => cases h
    | name n => cases h

theorem Separated.append {parts rest : List (SqlPart κ)} (h : Separated parts)
    (hrest : Separated rest) (hfollows : Follows rest) : Separated (parts ++ rest) := by
  induction parts with
  | nil => exact hrest
  | cons p parts ih =>
    cases p with
    | name n => exact ⟨h.1.append hfollows, ih h.2⟩
    | raw t => exact ih h
    | percent => exact ih h
    | hole k => exact ih h

theorem separated_joinParts {sep : Text} (hsep : Follows [(.raw sep : SqlPart κ)])
    {groups : List (List (SqlPart κ))} (h : ∀ g ∈ groups, Separated g) :
    Separated (joinParts sep groups) := by
  induction groups with
  | nil => trivial
  | cons g groups ih =>
    have hg := h g List.mem_cons_self
    cases groups with
    | nil => exact hg
    | cons q groups =>
      have hrest := ih fun g hg => h g (List.mem_cons_of_mem _ hg)
      have hnext : Follows (.raw sep :: joinParts sep (q :: groups)) := by
        cases sep with
        | nil => cases hsep
        | cons c sep => exact hsep
      exact Separated.append hg hrest hnext

theorem head?_partsText_of_follows {percent : Text} {hole : κ → Text} {parts : List (SqlPart κ)}
    (h : Follows parts) : (partsText percent hole parts).head? ≠ some (PyChar.scalar '`') := by
  cases parts with
  | nil => simp [partsText]
  | cons p parts =>
    cases p with
    | raw t =>
      cases t with
      | nil => cases h
      | cons c t =>
        have hc : c ≠ PyChar.scalar '`' := h
        simpa [partsText, SqlPart.piece] using hc
    | percent => cases h
    | hole k => cases h
    | name n => cases h

theorem lexIdentifier_name_iff {percent : Text} {hole : κ → Text} {n : Text}
    {after : List (SqlPart κ)} (h : Follows after) :
    lexIdentifier .clickHouse (partsText percent hole (.name n :: after)) =
        some (n, partsText percent hole after) ↔ PyChar.scalar '\\' ∉ n := by
  have hhead : (partsText percent hole after).head? ≠ some (PyChar.scalar '`') :=
    head?_partsText_of_follows h
  exact lexIdentifier_clickHouse_iff.trans (and_iff_left hhead)

theorem closedNames_cons {percent : Text} {hole : κ → Text} {p : SqlPart κ}
    {parts : List (SqlPart κ)} (hp : p.name? = none) :
    ClosedNames percent hole (p :: parts) ↔ ClosedNames percent hole parts := by
  constructor
  · intro hclosed before n after hsplit
    exact hclosed (p :: before) n after (by rw [hsplit, List.cons_append])
  · intro hclosed before n after hsplit
    cases before with
    | nil =>
      rw [(List.cons.inj hsplit).1] at hp
      cases hp
    | cons q before => exact hclosed before n after (List.cons.inj hsplit).2

theorem closedNames_name {percent : Text} {hole : κ → Text} {m : Text}
    {parts : List (SqlPart κ)} (hparts : Follows parts) :
    ClosedNames percent hole (.name m :: parts) ↔
      PyChar.scalar '\\' ∉ m ∧ ClosedNames percent hole parts := by
  constructor
  · intro hclosed
    refine ⟨(lexIdentifier_name_iff hparts).mp (hclosed [] m parts rfl), ?_⟩
    intro before n after hsplit
    exact hclosed (.name m :: before) n after (by rw [hsplit, List.cons_append])
  · rintro ⟨hm, hclosed⟩ before n after hsplit
    cases before with
    | nil =>
      obtain ⟨hn, rfl⟩ := List.cons.inj hsplit
      obtain rfl := SqlPart.name.inj hn
      exact (lexIdentifier_name_iff hparts).mpr hm
    | cons q before => exact hclosed before n after (List.cons.inj hsplit).2

/-- The names of a statement whose names are separated are closed tokens exactly when
none of them has a backslash. -/
theorem closedNames_iff {percent : Text} {hole : κ → Text} {parts : List (SqlPart κ)}
    (h : Separated parts) :
    ClosedNames percent hole parts ↔ ∀ n ∈ partNames parts, PyChar.scalar '\\' ∉ n := by
  induction parts with
  | nil => simp [ClosedNames, partNames]
  | cons p parts ih =>
    cases p with
    | name m =>
      rw [closedNames_name h.1, ih h.2, partNames_name, List.forall_mem_cons]
    | raw t => exact (closedNames_cons rfl).trans (ih h)
    | percent => exact (closedNames_cons rfl).trans (ih h)
    | hole k => exact (closedNames_cons rfl).trans (ih h)

end Parts

/-! ## Predicates as parts -/

def Value.parts : Value → List (SqlPart PyValue)
  | .column c => [.name c.name]
  | .literal l => [.hole l.value]

/-- The parts of a rendered predicate. -/
def Predicate.parts : Predicate → List (SqlPart PyValue)
  | .compare operator left right =>
    .raw (str "(") :: (left.parts ++ [.raw (str " "), .raw (str operator.symbol), .raw (str " ")] ++
      right.parts ++ [.raw (str ")")])
  | .and left right =>
    .raw (str "(") :: (left.parts ++ [.raw (str " AND ")] ++ right.parts ++ [.raw (str ")")])
  | .or left right =>
    .raw (str "(") :: (left.parts ++ [.raw (str " OR ")] ++ right.parts ++ [.raw (str ")")])
  | .not operand => .raw (str "(NOT ") :: (operand.parts ++ [.raw (str ")")])
  | .isNull operand negated =>
    [.raw (str "("), .name operand.name, .raw (str " "),
      .raw (str (if negated then "IS NOT NULL" else "IS NULL")), .raw (str ")")]
  | .inValues operand values =>
    .raw (str "(") :: .name operand.name :: .raw (str " IN (") ::
      (joinParts (str ", ") (values.values.map fun l => [.hole l.value]) ++ [.raw (str "))")])

theorem Value.partsTemplate_parts (v : Value) : partsTemplate v.parts = v.template := by
  cases v <;> rfl

theorem Predicate.partsTemplate_parts (p : Predicate) : partsTemplate p.parts = p.template := by
  induction p with
  | compare operator left right =>
    simp [parts, template, SqlPart.piece, Value.partsTemplate_parts]
  | and left right ihl ihr => simp [parts, template, SqlPart.piece, ihl, ihr]
  | or left right ihl ihr => simp [parts, template, SqlPart.piece, ihl, ihr]
  | not operand ih => simp [parts, template, SqlPart.piece, ih]
  | isNull operand negated => rfl
  | inValues operand values =>
    simp only [parts, template, partsTemplate_cons, partsTemplate_append, partsTemplate_joinParts,
      List.map_map, SqlPart.piece, literalsTemplate]
    rfl

theorem Value.partNames_parts (v : Value) : partNames v.parts = v.columns := by
  cases v <;> rfl

theorem partNames_holes {κ : Type} (sep : Text) (ks : List κ) :
    partNames (joinParts sep (ks.map fun k => [(.hole k : SqlPart κ)])) = [] := by
  rw [partNames_joinParts, List.flatMap_map]
  simp

/-- The names of a rendered predicate are the columns it references. -/
theorem Predicate.partNames_parts (p : Predicate) : partNames p.parts = p.referencedColumns := by
  induction p with
  | compare operator left right => simp [parts, referencedColumns, Value.partNames_parts]
  | and left right ihl ihr => simp [parts, referencedColumns, ihl, ihr]
  | or left right ihl ihr => simp [parts, referencedColumns, ihl, ihr]
  | not operand ih => simp [parts, referencedColumns, ih]
  | isNull operand negated => rfl
  | inValues operand values =>
    have hholes := partNames_holes (str ", ") (values.values.map Literal.value)
    rw [List.map_map] at hholes
    simp only [parts, referencedColumns, partNames_raw, partNames_name, partNames_append]
    exact congrArg (operand.name :: ·) (by rw [partNames_nil, List.append_nil]; exact hholes)

theorem Predicate.cleanRaw_parts (p : Predicate) : CleanRaw p.parts := by
  have hvalue : ∀ v : Value, CleanRaw v.parts := by
    intro v
    cases v <;> trivial
  have hsymbol : ∀ operator : CompareOperator, PyChar.scalar '%' ∉ str operator.symbol := by
    intro operator
    cases operator <;> decide
  induction p with
  | compare operator left right =>
    simp only [parts, CleanRaw, cleanRaw_append, hvalue, hsymbol]
    decide
  | and left right ihl ihr =>
    simp only [parts, CleanRaw, cleanRaw_append, ihl, ihr]
    decide
  | or left right ihl ihr =>
    simp only [parts, CleanRaw, cleanRaw_append, ihl, ihr]
    decide
  | not operand ih =>
    simp only [parts, CleanRaw, cleanRaw_append, ih]
    decide
  | isNull operand negated =>
    simp only [parts, CleanRaw]
    cases negated <;> decide
  | inValues operand values =>
    have hholes : ∀ g ∈ values.values.map fun l => [(.hole l.value : SqlPart PyValue)],
        CleanRaw g := by
      intro g hg
      obtain ⟨l, -, rfl⟩ := List.mem_map.mp hg
      trivial
    simp only [parts, CleanRaw, cleanRaw_append, cleanRaw_joinParts (show PyChar.scalar '%' ∉
      str ", " by decide)]
    exact ⟨by decide, by decide, hholes, by decide, trivial⟩

/-- In a rendered predicate every name is followed by a space or a parenthesis. -/
theorem Predicate.separated_parts (p : Predicate) : Separated p.parts := by
  have hvalue : ∀ v : Value, Separated v.parts := by
    intro v
    cases v <;> trivial
  have hclose : ∀ {parts : List (SqlPart PyValue)}, Separated parts →
      Separated (parts ++ [.raw (str ")")]) :=
    fun h => h.append trivial (follows_raw (by decide) (by decide))
  induction p with
  | compare operator left right =>
    simp only [parts, List.append_assoc, List.cons_append, List.nil_append]
    exact (hvalue left).append (hclose (hvalue right)) (follows_raw (by decide) (by decide))
  | and left right ihl ihr =>
    simp only [parts, List.append_assoc, List.cons_append, List.nil_append]
    exact ihl.append (hclose ihr) (follows_raw (by decide) (by decide))
  | or left right ihl ihr =>
    simp only [parts, List.append_assoc, List.cons_append, List.nil_append]
    exact ihl.append (hclose ihr) (follows_raw (by decide) (by decide))
  | not operand ih => exact hclose ih
  | isNull operand negated => exact ⟨follows_raw (by decide) (by decide), trivial⟩
  | inValues operand values =>
    have hholes : ∀ g ∈ values.values.map fun l => [(.hole l.value : SqlPart PyValue)],
        Separated g := by
      intro g hg
      obtain ⟨l, -, rfl⟩ := List.mem_map.mp hg
      trivial
    have hmembers : Separated (joinParts (str ", ") (values.values.map fun l =>
        [(.hole l.value : SqlPart PyValue)])) :=
      separated_joinParts (follows_raw (by decide) (by decide)) hholes
    exact ⟨follows_raw (by decide) (by decide),
      hmembers.append trivial (follows_raw (by decide) (by decide))⟩

end DaftOlap
