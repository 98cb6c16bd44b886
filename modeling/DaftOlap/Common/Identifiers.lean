/-
Identifier validation and quoting (`_common/identifiers.py`).

`quoteIdentifier` encloses a name in backticks and doubles the backticks inside.
`lexIdentifier` reads such a token back under one of two rules.  The MySQL rule
knows only doubling.  The ClickHouse rule, which the connector's own type scanner
follows, also lets a backslash escape the next character inside the quotes.
-/
import DaftOlap.Common.Errors
import DaftOlap.Python.Except

namespace DaftOlap

open Python

/-- What `validate_identifier` accepts. -/
def ValidIdentifier (value : Text) : Prop := value ≠ [] ∧ PyChar.scalar '\x00' ∉ value

instance (value : Text) : Decidable (ValidIdentifier value) := inferInstanceAs (Decidable (_ ∧ _))

/-- Validate one unqualified identifier while preserving database case semantics. -/
def validateIdentifier (kind : String) (value : Text) : Except PyException Text :=
  if value = [] then .error (configurationError [.text kind, .text " must be a non-empty string"])
  else if PyChar.scalar '\x00' ∈ value then
    .error (configurationError [.text kind, .text " must not contain a NUL character"])
  else .ok value

theorem validateIdentifier_of_valid {kind : String} {value : Text} (h : ValidIdentifier value) :
    validateIdentifier kind value = .ok value := by
  rw [validateIdentifier, if_neg h.1, if_neg h.2]

theorem validateIdentifier_eq_ok {kind : String} {value result : Text}
    (h : validateIdentifier kind value = .ok result) : ValidIdentifier value ∧ result = value := by
  unfold validateIdentifier at h
  split at h
  · cases h
  · split at h
    · cases h
    · exact ⟨⟨by assumption, by assumption⟩, (Except.ok.inj h).symm⟩

/-- `value` with every backtick doubled. -/
def doubleBackticks (value : Text) : Text := Text.replaceChar '`' (str "``") value

/-- The quoted form of a validated name. -/
def quoted (value : Text) : Text := PyChar.scalar '`' :: (doubleBackticks value ++ [PyChar.scalar '`'])

/-- Quote one ClickHouse/MySQL identifier, including embedded backticks. -/
def quoteIdentifier (value : Text) : Except PyException Text := do
  let validated ← validateIdentifier "identifier" value
  .ok (quoted validated)

theorem quoteIdentifier_of_valid {value : Text} (h : ValidIdentifier value) :
    quoteIdentifier value = .ok (quoted value) := by
  rw [quoteIdentifier, validateIdentifier_of_valid h]
  rfl

theorem quoteIdentifier_eq_ok {value result : Text} (h : quoteIdentifier value = .ok result) :
    ValidIdentifier value ∧ result = quoted value := by
  unfold quoteIdentifier at h
  cases hv : validateIdentifier "identifier" value with
  | error e => simp [hv, bind, Except.bind] at h
  | ok v =>
    obtain ⟨hvalid, rfl⟩ := validateIdentifier_eq_ok hv
    exact ⟨hvalid, by simpa [hv, bind, Except.bind, eq_comm] using h⟩

/-- A validated database and physical table pair. -/
structure QualifiedTable where
  database : Text
  table : Text
  database_valid : ValidIdentifier database
  table_valid : ValidIdentifier table
deriving DecidableEq

/-- The table `d.t`. -/
def exampleTable : QualifiedTable := ⟨str "d", str "t", by decide, by decide⟩

/-- Render the two identifiers as a safely quoted qualified name. -/
def QualifiedTable.sql (t : QualifiedTable) : Text :=
  quoted t.database ++ str "." ++ quoted t.table

/-- `QualifiedTable(database, table)`. -/
def qualifiedTable (database table : Text) : Except PyException QualifiedTable :=
  match hd : validateIdentifier "database" database, ht : validateIdentifier "table" table with
  | .error e, _ => .error e
  | .ok _, .error e => .error e
  | .ok _, .ok _ =>
    .ok ⟨database, table, (validateIdentifier_eq_ok hd).1, (validateIdentifier_eq_ok ht).1⟩

/-- Validate, deduplicate, and freeze a projection. -/
def normalizeColumns (columns : List Text) : Except PyException (List Text) := do
  let normalized ← columns.mapM (validateIdentifier "column")
  if normalized = [] then
    .error (configurationError "columns must be None or a non-empty iterable")
  else if ¬ normalized.Nodup then
    .error (configurationError "columns must not contain duplicates")
  else .ok normalized

/-- Render a non-empty sequence of quoted column names. -/
def quoteColumns (columns : List Text) : Except PyException Text := do
  let normalized ← normalizeColumns columns
  let names ← normalized.mapM quoteIdentifier
  .ok (Text.join (str ", ") names)

/-- What `normalize_columns` accepts. -/
def ValidColumns (columns : List Text) : Prop :=
  columns ≠ [] ∧ columns.Nodup ∧ ∀ c ∈ columns, ValidIdentifier c

theorem normalizeColumns_eq_ok_iff {columns result : List Text} :
    normalizeColumns columns = .ok result ↔ ValidColumns columns ∧ result = columns := by
  unfold normalizeColumns
  rw [bind_eq_ok]
  constructor
  · rintro ⟨normalized, hmap, h⟩
    have hid : normalized = columns := by
      rw [eq_map_of_mapM_eq_ok (g := id) (fun a b hab => (validateIdentifier_eq_ok hab).2) hmap,
        List.map_id]
    subst hid
    have hvalid : ∀ c ∈ normalized, ValidIdentifier c := by
      intro c hc
      obtain ⟨v, hv⟩ := exists_of_mapM_eq_ok hmap c hc
      exact (validateIdentifier_eq_ok hv).1
    split at h
    · cases h
    · split at h
      · cases h
      · exact ⟨⟨by assumption, by simp_all, hvalid⟩, (Except.ok.inj h).symm⟩
  · rintro ⟨⟨hne, hnodup, hvalid⟩, rfl⟩
    have hmap := mapM_eq_ok_map (f := validateIdentifier "column") (g := id)
      (fun c hc => validateIdentifier_of_valid (hvalid c hc))
    rw [List.map_id] at hmap
    exact ⟨result, hmap, by simp [hne, hnodup]⟩

theorem quoteColumns_eq_ok_iff {columns : List Text} {result : Text} :
    quoteColumns columns = .ok result ↔
      ValidColumns columns ∧ result = Text.join (str ", ") (columns.map quoted) := by
  unfold quoteColumns
  rw [bind_eq_ok]
  constructor
  · rintro ⟨normalized, hn, h⟩
    obtain ⟨hvalid, rfl⟩ := normalizeColumns_eq_ok_iff.mp hn
    obtain ⟨names, hnames, h⟩ := bind_eq_ok.mp h
    rw [eq_map_of_mapM_eq_ok (g := quoted) (fun a b hab => (quoteIdentifier_eq_ok hab).2) hnames]
      at h
    exact ⟨hvalid, (Except.ok.inj h).symm⟩
  · rintro ⟨hvalid, rfl⟩
    refine ⟨columns, normalizeColumns_eq_ok_iff.mpr ⟨hvalid, rfl⟩, ?_⟩
    rw [mapM_eq_ok_map (g := quoted) (fun c hc => quoteIdentifier_of_valid (hvalid.2.2 c hc))]
    rfl

theorem doubleBackticks_cons (c : PyChar) (value : Text) :
    doubleBackticks (c :: value) =
      (if c = PyChar.scalar '`' then str "``" else [c]) ++ doubleBackticks value := rfl

theorem mem_doubleBackticks {c : PyChar} {value : Text} :
    c ∈ doubleBackticks value ↔ c ∈ value := by
  induction value with
  | nil => rfl
  | cons d value ih =>
    rw [doubleBackticks_cons, List.mem_append, ih, List.mem_cons]
    by_cases hd : d = PyChar.scalar '`'
    · simp [hd, str]
    · simp [hd]

/-- Apart from the backticks around it, a quoted name has the characters of the
name. -/
theorem mem_quoted {c : PyChar} {value : Text} (hc : c ≠ PyChar.scalar '`') :
    c ∈ quoted value ↔ c ∈ value := by
  simp [quoted, mem_doubleBackticks, hc]

theorem count_doubleBackticks {c : PyChar} (hc : c ≠ PyChar.scalar '`') (value : Text) :
    (doubleBackticks value).count c = value.count c := by
  induction value with
  | nil => rfl
  | cons d value ih =>
    rw [doubleBackticks_cons, List.count_append, ih]
    by_cases hd : d = PyChar.scalar '`'
    · have hnone : c ∉ str "``" := by simpa [str] using hc
      rw [if_pos hd, List.count_eq_zero_of_not_mem hnone, hd, List.count_cons_of_ne hc.symm,
        Nat.zero_add]
    · rw [if_neg hd, List.count_singleton, List.count_cons, Nat.add_comm]

/-! ## Reading quoted tokens -/

/-- Which characters escape inside backticks. -/
inductive QuoteRule
  /-- A doubled backtick stands for a backtick. -/
  | mysql
  /-- In addition, a backslash escapes the next character. -/
  | clickHouse
deriving DecidableEq

def QuoteRule.escapes : QuoteRule → PyChar → Bool
  | .mysql, _ => false
  | .clickHouse, c => c == '\\'

/-- Read the rest of a quoted token, after its opening backtick: the name it
denotes and the text that follows its closing backtick. -/
def lexQuoted (rule : QuoteRule) : Text → Option (Text × Text)
  | [] => none
  | [c] => if c = '`' then some ([], []) else none
  | c :: d :: rest =>
    if rule.escapes c = true then (lexQuoted rule rest).map fun r => (d :: r.1, r.2)
    else if c = '`' then
      if d = '`' then (lexQuoted rule rest).map fun r => (d :: r.1, r.2)
      else some ([], d :: rest)
    else (lexQuoted rule (d :: rest)).map fun r => (c :: r.1, r.2)

/-- Read a quoted identifier at the start of a text. -/
def lexIdentifier (rule : QuoteRule) : Text → Option (Text × Text)
  | [] => none
  | c :: rest => if c = '`' then lexQuoted rule rest else none

theorem lexIdentifier_quoted (rule : QuoteRule) (name rest : Text) :
    lexIdentifier rule (quoted name ++ rest) =
      lexQuoted rule (doubleBackticks name ++ PyChar.scalar '`' :: rest) := by
  simp [lexIdentifier, quoted]

/-- Names without an escape character are read back one character at a time. -/
theorem lexQuoted_doubleBackticks {rule : QuoteRule} {name : Text}
    (hname : ∀ c ∈ name, rule.escapes c = false) {rest : Text} (hrest : rest ≠ []) :
    lexQuoted rule (doubleBackticks name ++ rest) =
      (lexQuoted rule rest).map fun r => (name ++ r.1, r.2) := by
  have hbacktick : rule.escapes (PyChar.scalar '`') = false := by cases rule <;> rfl
  induction name with
  | nil =>
    show lexQuoted rule rest = _
    cases lexQuoted rule rest <;> rfl
  | cons c name ih =>
    have hrec := ih (fun d hd => hname d (List.mem_cons_of_mem _ hd))
    rw [doubleBackticks_cons, List.append_assoc]
    by_cases hc : c = PyChar.scalar '`'
    · subst hc
      rw [if_pos rfl]
      show lexQuoted rule (PyChar.scalar '`' :: PyChar.scalar '`' :: (doubleBackticks name ++ rest))
        = _
      rw [lexQuoted, hbacktick, hrec]
      cases lexQuoted rule rest <;> simp
    · obtain ⟨d, tail, htail⟩ : ∃ d tail, doubleBackticks name ++ rest = d :: tail :=
        List.exists_cons_of_ne_nil (by simp [hrest])
      rw [if_neg hc, List.singleton_append, htail, lexQuoted, ← htail, hrec]
      cases lexQuoted rule rest <;> simp [hname c List.mem_cons_self, hc]

theorem lexQuoted_close {rule : QuoteRule} {rest : Text}
    (hrest : rest.head? ≠ some (PyChar.scalar '`')) :
    lexQuoted rule (PyChar.scalar '`' :: rest) = some ([], rest) := by
  have hbacktick : rule.escapes (PyChar.scalar '`') = false := by cases rule <;> rfl
  cases rest with
  | nil => rfl
  | cons d rest =>
    have hd : d ≠ PyChar.scalar '`' := by simpa using hrest
    simp [lexQuoted, hbacktick, hd]

/-- Under the doubling rule every quoted name is read back. -/
theorem lexIdentifier_mysql (name : Text) {rest : Text}
    (hrest : rest.head? ≠ some (PyChar.scalar '`')) :
    lexIdentifier .mysql (quoted name ++ rest) = some (name, rest) := by
  rw [lexIdentifier_quoted, lexQuoted_doubleBackticks (fun _ _ => rfl) (by simp),
    lexQuoted_close hrest]
  simp

theorem lexQuoted_doubled (rule : QuoteRule) (rest : Text) :
    lexQuoted rule (PyChar.scalar '`' :: PyChar.scalar '`' :: rest) =
      (lexQuoted rule rest).map fun r => (PyChar.scalar '`' :: r.1, r.2) := by
  have hbacktick : rule.escapes (PyChar.scalar '`') = false := by cases rule <;> rfl
  rw [lexQuoted]
  simp [hbacktick]

/-- The backslashes a reader under the ClickHouse rule consumes: one for each
escape, and those it yields are among the escaped characters. -/
theorem lexQuoted_clickHouse_backslashes {t name rest : Text}
    (h : lexQuoted .clickHouse t = some (name, rest)) :
    ∃ used escapes, t = used ++ rest ∧
      used.count (PyChar.scalar '\\') = name.count (PyChar.scalar '\\') + escapes ∧
      name.count (PyChar.scalar '\\') ≤ escapes := by
  induction t using lexQuoted.induct .clickHouse generalizing name with
  | case1 => cases h
  | case2 =>
    simp only [lexQuoted, if_true, Option.some.injEq, Prod.mk.injEq] at h
    obtain ⟨rfl, rfl⟩ := h
    exact ⟨[PyChar.scalar '`'], 0, rfl, rfl, Nat.le_refl 0⟩
  | case3 c hc => simp [lexQuoted, hc] at h
  | case4 c d tail hesc ih =>
    have hc : c = PyChar.scalar '\\' := by simpa [QuoteRule.escapes] using hesc
    simp only [lexQuoted, hesc, if_true, Option.map_eq_some_iff] at h
    obtain ⟨⟨n, r⟩, hr, h⟩ := h
    simp only [Prod.mk.injEq] at h
    obtain ⟨rfl, rfl⟩ := h
    obtain ⟨used, escapes, rfl, hcount, hle⟩ := ih hr
    refine ⟨c :: d :: used, escapes + 1, rfl, ?_, ?_⟩
    · rw [hc, List.count_cons_self, List.count_cons, List.count_cons]
      omega
    · rw [List.count_cons]
      split <;> omega
  | case5 tail hesc ih =>
    rw [lexQuoted_doubled, Option.map_eq_some_iff] at h
    obtain ⟨⟨n, r⟩, hr, h⟩ := h
    simp only [Prod.mk.injEq] at h
    obtain ⟨rfl, rfl⟩ := h
    obtain ⟨used, escapes, rfl, hcount, hle⟩ := ih hr
    refine ⟨PyChar.scalar '`' :: PyChar.scalar '`' :: used, escapes, rfl, ?_, ?_⟩
    · simpa using hcount
    · simpa using hle
  | case6 d tail hd hesc =>
    rw [lexQuoted_close (by simpa using hd)] at h
    simp only [Option.some.injEq, Prod.mk.injEq] at h
    obtain ⟨rfl, rfl⟩ := h
    exact ⟨[PyChar.scalar '`'], 0, rfl, rfl, Nat.le_refl 0⟩
  | case7 c d tail hesc hc ih =>
    have hne : c ≠ PyChar.scalar '\\' := by simpa [QuoteRule.escapes] using hesc
    rw [lexQuoted, if_neg hesc, if_neg hc, Option.map_eq_some_iff] at h
    obtain ⟨⟨n, r⟩, hr, h⟩ := h
    simp only [Prod.mk.injEq] at h
    obtain ⟨rfl, rfl⟩ := h
    obtain ⟨used, escapes, hused, hcount, hle⟩ := ih hr
    refine ⟨c :: used, escapes, by rw [hused, List.cons_append], ?_, ?_⟩
    · rw [List.count_cons_of_ne hne, List.count_cons_of_ne hne, hcount]
    · rw [List.count_cons_of_ne hne]
      exact hle

/-- Under the ClickHouse rule a quoted name is read back, with nothing of the
following text, exactly when it has no backslash and the text does not open with
a backtick. -/
theorem lexIdentifier_clickHouse_iff {name rest : Text} :
    lexIdentifier .clickHouse (quoted name ++ rest) = some (name, rest) ↔
      PyChar.scalar '\\' ∉ name ∧ rest.head? ≠ some (PyChar.scalar '`') := by
  have hescapes : PyChar.scalar '\\' ∉ name →
      ∀ c ∈ name, QuoteRule.clickHouse.escapes c = false := by
    intro hname c hc
    have : c ≠ PyChar.scalar '\\' := fun h => hname (h ▸ hc)
    simpa [QuoteRule.escapes] using this
  rw [lexIdentifier_quoted]
  constructor
  · intro h
    have hname : PyChar.scalar '\\' ∉ name := by
      obtain ⟨used, escapes, hused, hcount, hle⟩ := lexQuoted_clickHouse_backslashes h
      have hsplit : doubleBackticks name ++ [PyChar.scalar '`'] = used :=
        List.append_cancel_right (by simpa using hused)
      have hclosing : [PyChar.scalar '`'].count (PyChar.scalar '\\') = 0 := by decide
      rw [← hsplit, List.count_append, count_doubleBackticks (by decide), hclosing] at hcount
      exact List.count_eq_zero.mp (by omega)
    refine ⟨hname, fun hrest => ?_⟩
    cases rest with
    | nil => cases hrest
    | cons d rest =>
      -- the closing backtick and the one that follows are read as one doubled backtick
      have hd : d = PyChar.scalar '`' := by simpa using hrest
      subst hd
      rw [lexQuoted_doubleBackticks (hescapes hname) (by simp), lexQuoted_doubled] at h
      cases hr : lexQuoted .clickHouse rest with
      | none => simp [hr] at h
      | some r => simp [hr] at h
  · rintro ⟨hname, hrest⟩
    rw [lexQuoted_doubleBackticks (hescapes hname) (by simp), lexQuoted_close hrest]
    simp

end DaftOlap
