/-
Reading rendered predicates back.

`readPredicate` is a recursive-descent reader of the SQL the renderers write.  It
takes the reader of literals as a parameter, as the renderer takes their writer, and
threads a state of unused parameters through the text.  The theorem this file exists
for is `readWith_renderWith`: a reader of literals that undoes the writer makes a
reader of predicates that undoes the renderer, whatever characters the column names
have.
-/
import DaftOlap.Common.Renderer

namespace DaftOlap

open Python

/-! ## Trees -/

/-- A side of a comparison as a reader sees it. -/
inductive Operand (L : Type)
  | column (name : Text)
  | literal (l : L)
deriving DecidableEq

/-- A predicate as a reader sees it, over the literals it recovers. -/
inductive Tree (L : Type)
  | compare (operator : CompareOperator) (left right : Operand L)
  | and (left right : Tree L)
  | or (left right : Tree L)
  | not (operand : Tree L)
  | isNull (name : Text) (negated : Bool)
  | inValues (name : Text) (members : List L)
deriving DecidableEq

section Trees

variable {L : Type} (value : PyValue → L)

def Value.operand : Value → Operand L
  | .column c => .column c.name
  | .literal l => .literal (value l.value)

/-- The tree of a predicate, each literal as what a reader recovers of it. -/
def Predicate.tree : Predicate → Tree L
  | .compare operator left right => .compare operator (left.operand value) (right.operand value)
  | .and left right => .and left.tree right.tree
  | .or left right => .or left.tree right.tree
  | .not operand => .not operand.tree
  | .isNull operand negated => .isNull operand.name negated
  | .inValues operand values => .inValues operand.name (values.values.map fun l => value l.value)

end Trees

theorem Value.operand_injective : Function.Injective (Value.operand (id : PyValue → PyValue)) := by
  intro v w h
  cases v with
  | column c =>
    cases w with
    | column d =>
      obtain ⟨cn, hc⟩ := c
      obtain ⟨dn, hd⟩ := d
      obtain rfl : cn = dn := Operand.column.inj h
      rfl
    | literal m => cases h
  | literal l =>
    cases w with
    | column d => cases h
    | literal m =>
      obtain ⟨lv, hl⟩ := l
      obtain ⟨mv, hm⟩ := m
      obtain rfl : lv = mv := Operand.literal.inj h
      rfl

/-- A predicate is determined by its tree. -/
theorem Predicate.tree_injective : Function.Injective (Predicate.tree (id : PyValue → PyValue)) := by
  have hcolumn : ∀ {c d : Column}, c.name = d.name → c = d := by
    rintro ⟨cn, hc⟩ ⟨dn, hd⟩ h
    cases h
    rfl
  have hliteral : Function.Injective Literal.value := by
    rintro ⟨lv, hl⟩ ⟨mv, hm⟩ h
    cases h
    rfl
  have hset : ∀ {s t : InSet}, s.values = t.values → s = t := by
    rintro ⟨sv, hs, hsn⟩ ⟨tv, ht, htn⟩ h
    cases h
    rfl
  intro p q h
  induction p generalizing q with
  | compare operator left right =>
    cases q with
    | compare operator' left' right' =>
      obtain ⟨rfl, hleft, hright⟩ := Tree.compare.inj h
      rw [Value.operand_injective hleft, Value.operand_injective hright]
    | _ => cases h
  | and left right ihl ihr =>
    cases q with
    | and left' right' =>
      obtain ⟨hleft, hright⟩ := Tree.and.inj h
      rw [ihl hleft, ihr hright]
    | _ => cases h
  | or left right ihl ihr =>
    cases q with
    | or left' right' =>
      obtain ⟨hleft, hright⟩ := Tree.or.inj h
      rw [ihl hleft, ihr hright]
    | _ => cases h
  | not operand ih =>
    cases q with
    | not operand' => rw [ih (Tree.not.inj h)]
    | _ => cases h
  | isNull operand negated =>
    cases q with
    | isNull operand' negated' =>
      obtain ⟨hname, rfl⟩ := Tree.isNull.inj h
      rw [hcolumn hname]
    | _ => cases h
  | inValues operand values =>
    cases q with
    | inValues operand' values' =>
      obtain ⟨hname, hmembers⟩ := Tree.inValues.inj h
      rw [hcolumn hname, hset (List.map_injective_iff.mpr hliteral hmembers)]
    | _ => cases h

/-! ## Readers -/

/-- The rest of `input` after `t`, when it opens with `t`. -/
def expect : Text → Text → Option Text
  | [], input => some input
  | _ :: _, [] => none
  | c :: t, d :: input => if c = d then expect t input else none

@[simp] theorem expect_append (t rest : Text) : expect t (t ++ rest) = some rest := by
  induction t with
  | nil => rfl
  | cons c t ih => rw [List.cons_append, expect, if_pos rfl, ih]

/-- A reader of literals: what it recovers, the state after it and the rest of the
text. -/
abbrev LiteralReader (S L : Type) := S → Text → Option (L × S × Text)

/-- Read a comparison operator and the space after it. -/
def readOperator (input : Text) : Option (CompareOperator × Text) :=
  [CompareOperator.eq, .ne, .lt, .le, .gt, .ge].findSome? fun operator =>
    (expect (str operator.symbol ++ str " ") input).map fun rest => (operator, rest)

section Readers

variable {S L : Type} (readLiteral : LiteralReader S L)

def readOperand (state : S) (input : Text) : Option (Operand L × S × Text) :=
  if input.head? = some (PyChar.scalar '`') then
    (lexIdentifier .mysql input).map fun r => (.column r.1, state, r.2)
  else (readLiteral state input).map fun r => (.literal r.1, r.2)

/-- Read the members of an IN set, at most `fuel` of them. -/
def readMembers : (fuel : Nat) → S → Text → Option (List L × S × Text)
  | 0, _, _ => none
  | fuel + 1, state, input => do
    let (member, state, input) ← readLiteral state input
    match expect (str ", ") input with
    | some input => do
      let (members, state, input) ← readMembers fuel state input
      some (member :: members, state, input)
    | none => some ([member], state, input)

/-- Read a comparison from its operator on. -/
def readCompare (left : Operand L) (state : S) (input : Text) : Option (Tree L × S × Text) := do
  let input ← expect (str " ") input
  let (operator, input) ← readOperator input
  let (right, state, input) ← readOperand readLiteral state input
  let input ← expect (str ")") input
  some (.compare operator left right, state, input)

/-- Read a NULL test from its last words on. -/
def readNullTest (name : Text) (state : S) (input : Text) : Option (Tree L × S × Text) :=
  match expect (str "NOT NULL)") input with
  | some input => some (.isNull name true, state, input)
  | none => (expect (str "NULL)") input).map fun input => (.isNull name false, state, input)

/-- Read the members of an IN set and its closing parentheses. -/
def readIn (name : Text) (state : S) (input : Text) : Option (Tree L × S × Text) := do
  let (members, state, input) ← readMembers readLiteral input.length state input
  let input ← expect (str "))") input
  some (.inValues name members, state, input)

/-- Read a predicate without predicates in it, after its opening parenthesis. -/
def readLeaf (state : S) (input : Text) : Option (Tree L × S × Text) := do
  let (left, state, input) ← readOperand readLiteral state input
  match left with
  | .literal _ => readCompare readLiteral left state input
  | .column name =>
    match expect (str " IS ") input with
    | some input => readNullTest name state input
    | none =>
      match expect (str " IN (") input with
      | some input => readIn readLiteral name state input
      | none => readCompare readLiteral left state input

/-- Read a predicate nested at most `fuel` deep. -/
def readPredicate : (fuel : Nat) → S → Text → Option (Tree L × S × Text)
  | 0, _, _ => none
  | fuel + 1, state, input => do
    let input ← expect (str "(") input
    if input.head? = some (PyChar.scalar '(') then do
      let (left, state, input) ← readPredicate fuel state input
      match expect (str " AND ") input with
      | some input => do
        let (right, state, input) ← readPredicate fuel state input
        let input ← expect (str ")") input
        some (.and left right, state, input)
      | none => do
        let input ← expect (str " OR ") input
        let (right, state, input) ← readPredicate fuel state input
        let input ← expect (str ")") input
        some (.or left right, state, input)
    else
      match expect (str "NOT ") input with
      | some input => do
        let (operand, state, input) ← readPredicate fuel state input
        let input ← expect (str ")") input
        some (.not operand, state, input)
      | none => readLeaf readLiteral state input

/-- Read a whole text as one predicate. -/
def readWith (state : S) (text : Text) : Option (Tree L × S) :=
  match readPredicate readLiteral text.length state text with
  | some (tree, state, []) => some (tree, state)
  | _ => none

end Readers

/-! ## Reading undoes rendering -/

/-- What may come after a literal. -/
def Terminates (rest : Text) : Prop :=
  ∃ c tail, rest = c :: tail ∧ (c = PyChar.scalar ' ' ∨ c = PyChar.scalar ',' ∨
    c = PyChar.scalar ')')

theorem Terminates.head_ne_backtick {rest : Text} (h : Terminates rest) :
    rest.head? ≠ some (PyChar.scalar '`') := by
  obtain ⟨c, tail, rfl, rfl | rfl | rfl⟩ := h <;> simp

/-- A reader of literals undoes a writer, over the parameters `final` of the whole
text: `state` is what the reader has left once the writer has bound its argument. -/
structure ReadsLiterals {P S L : Type} (write : LiteralWriter P) (readLiteral : LiteralReader S L)
    (value : PyValue → L) (final : List P) (state : List P → S) : Prop where
  extends_params : ∀ {params v t params'}, write params v = .ok (t, params') → params <+: params'
  opens : ∀ {params v t params'}, v ≠ .none → write params v = .ok (t, params') →
    ∃ c tail, t = c :: tail ∧ c ≠ PyChar.scalar '`' ∧ c ≠ PyChar.scalar '(' ∧ c ≠ PyChar.scalar 'N'
  reads : ∀ {params v t params' rest}, write params v = .ok (t, params') → params' <+: final →
    Terminates rest → readLiteral (state params) (t ++ rest) = some (value v, state params', rest)

section Correct

variable {P S L : Type} {write : LiteralWriter P} {readLiteral : LiteralReader S L}
  {value : PyValue → L} {final : List P} {state : List P → S}

theorem readOperator_symbol (operator : CompareOperator) (rest : Text) :
    readOperator (str operator.symbol ++ (str " " ++ rest)) = some (operator, rest) := by
  cases operator <;> rfl

theorem quoted_head? (name rest : Text) :
    (quoted name ++ rest).head? = some (PyChar.scalar '`') := rfl

theorem renderValue_literal_eq_ok {params : List P} {l : Literal} {r : Text × List P}
    (h : renderValue write params (.literal l) = .ok r) :
    l.value ≠ .none ∧ write params l.value = .ok r := by
  rw [renderValue] at h
  split at h
  · cases h
  · next hnull => exact ⟨hnull, h⟩

theorem renderValue_column_eq_ok {params : List P} {c : Column} {r : Text × List P}
    (h : renderValue write params (.column c) = .ok r) : r = (quoted c.name, params) := by
  obtain ⟨name, hname, h⟩ := bind_eq_ok.mp h
  rw [← Except.ok.inj h, (quoteIdentifier_eq_ok hname).2]

namespace ReadsLiterals

theorem extends_value (hreads : ReadsLiterals write readLiteral value final state)
    {params params' : List P} {v : Value} {t : Text}
    (h : renderValue write params v = .ok (t, params')) : params <+: params' := by
  cases v with
  | column c =>
    obtain ⟨-, rfl⟩ := Prod.mk.inj (renderValue_column_eq_ok h)
    exact List.prefix_rfl
  | literal l => exact hreads.extends_params (renderValue_literal_eq_ok h).2

/-- An operand is read back. -/
theorem readOperand (hreads : ReadsLiterals write readLiteral value final state)
    {params params' : List P} {v : Value} {t rest : Text}
    (h : renderValue write params v = .ok (t, params')) (hfinal : params' <+: final)
    (hrest : Terminates rest) :
    readOperand readLiteral (state params) (t ++ rest) =
      some (v.operand value, state params', rest) := by
  cases v with
  | column c =>
    obtain ⟨rfl, rfl⟩ := Prod.mk.inj (renderValue_column_eq_ok h)
    rw [DaftOlap.readOperand, if_pos (quoted_head? c.name rest),
      lexIdentifier_mysql c.name hrest.head_ne_backtick]
    rfl
  | literal l =>
    obtain ⟨hnull, hwrite⟩ := renderValue_literal_eq_ok h
    obtain ⟨c, tail, rfl, hbacktick, -, -⟩ := hreads.opens hnull hwrite
    have hhead : (c :: tail ++ rest).head? ≠ some (PyChar.scalar '`') := by simpa using hbacktick
    rw [DaftOlap.readOperand, if_neg hhead, hreads.reads hwrite hfinal hrest]
    rfl

theorem extends_literals (hreads : ReadsLiterals write readLiteral value final state)
    {params params' : List P} {ls : List Literal} {texts : List Text}
    (h : renderLiterals write params ls = .ok (texts, params')) : params <+: params' := by
  induction ls generalizing params texts with
  | nil =>
    obtain ⟨-, rfl⟩ := Prod.mk.inj (Except.ok.inj h)
    exact List.prefix_rfl
  | cons l ls ih =>
    obtain ⟨⟨t, params₁⟩, ht, h⟩ := bind_eq_ok.mp h
    obtain ⟨⟨ts, params₂⟩, hts, h⟩ := bind_eq_ok.mp h
    obtain ⟨-, rfl⟩ := Prod.mk.inj (Except.ok.inj h)
    exact (hreads.extends_value ht).trans (ih hts)

/-- The members of an IN set are read back, up to the parentheses that close it. -/
theorem readMembers (hreads : ReadsLiterals write readLiteral value final state)
    {params params' : List P} {ls : List Literal} {texts : List Text} {rest : Text} {fuel : Nat}
    (hne : ls ≠ []) (h : renderLiterals write params ls = .ok (texts, params'))
    (hfinal : params' <+: final) (hfuel : ls.length ≤ fuel) :
    readMembers readLiteral fuel (state params)
        (Text.join (str ", ") texts ++ (str "))" ++ rest)) =
      some (ls.map fun l => value l.value, state params', str "))" ++ rest) := by
  have hclose : Terminates (str "))" ++ rest) := ⟨_, _, rfl, Or.inr (Or.inr rfl)⟩
  induction ls generalizing params texts fuel with
  | nil => exact absurd rfl hne
  | cons l ls ih =>
    obtain ⟨fuel, rfl⟩ := Nat.exists_eq_add_of_lt (Nat.lt_of_lt_of_le (Nat.succ_pos _) hfuel)
    rw [Nat.zero_add] at hfuel ⊢
    obtain ⟨⟨t, params₁⟩, ht, h⟩ := bind_eq_ok.mp h
    obtain ⟨⟨ts, params₂⟩, hts, h⟩ := bind_eq_ok.mp h
    obtain ⟨rfl, rfl⟩ := Prod.mk.inj (Except.ok.inj h)
    have hwrite := (renderValue_literal_eq_ok ht).2
    cases ls with
    | nil =>
      obtain ⟨rfl, rfl⟩ := Prod.mk.inj (Except.ok.inj hts)
      have hnone : expect (str ", ") (str "))" ++ rest) = none := rfl
      rw [DaftOlap.readMembers, Text.join_singleton, hreads.reads hwrite hfinal hclose]
      simp only [Option.bind_eq_bind, Option.bind_some, hnone, List.map_cons, List.map_nil]
    | cons m ls =>
      obtain ⟨u, us, rfl⟩ : ∃ u us, ts = u :: us :=
        List.exists_cons_of_length_eq_add_one (renderLiterals_length hts)
      have hmembers := ih (List.cons_ne_nil m ls) hts (Nat.le_of_succ_le_succ hfuel)
      have hcomma : Terminates (str ", " ++ (Text.join (str ", ") (u :: us) ++
          (str "))" ++ rest))) := ⟨_, _, rfl, Or.inr (Or.inl rfl)⟩
      rw [DaftOlap.readMembers, Text.join_cons_cons, List.append_assoc, List.append_assoc,
        hreads.reads hwrite ((hreads.extends_literals hts).trans hfinal) hcomma]
      simp only [Option.bind_eq_bind, Option.bind_some, expect_append, hmembers, List.map_cons]

end ReadsLiterals

/-! ### Predicates -/

/-- A text in parentheses that opens neither with one nor with `NOT` is read as a
predicate without predicates in it. -/
theorem readPredicate_leaf {fuel : Nat} {s : S} {c : PyChar} {tail : Text}
    (hopen : c ≠ PyChar.scalar '(') (hnot : c ≠ PyChar.scalar 'N') :
    readPredicate readLiteral (fuel + 1) s (str "(" ++ c :: tail) =
      readLeaf readLiteral s (c :: tail) := by
  have hhead : ((c :: tail : Text)).head? ≠ some (PyChar.scalar '(') := by simpa using hopen
  have hnone : expect (str "NOT ") (c :: tail) = none := if_neg (Ne.symm hnot)
  rw [readPredicate, expect_append]
  simp only [Option.bind_eq_bind, Option.bind_some, if_neg hhead, hnone]

/-- A rendered predicate opens with a parenthesis. -/
theorem renderWith_opens {params : List P} {p : Predicate} {r : Text × List P}
    (h : renderWith write params p = .ok r) : ∃ tail, r.1 = PyChar.scalar '(' :: tail := by
  cases p with
  | compare operator left right =>
    obtain ⟨l, -, h⟩ := bind_eq_ok.mp h
    obtain ⟨r, -, h⟩ := bind_eq_ok.mp h
    exact ⟨_, by rw [← Except.ok.inj h]; rfl⟩
  | and left right =>
    obtain ⟨l, -, h⟩ := bind_eq_ok.mp h
    obtain ⟨r, -, h⟩ := bind_eq_ok.mp h
    exact ⟨_, by rw [← Except.ok.inj h]; rfl⟩
  | or left right =>
    obtain ⟨l, -, h⟩ := bind_eq_ok.mp h
    obtain ⟨r, -, h⟩ := bind_eq_ok.mp h
    exact ⟨_, by rw [← Except.ok.inj h]; rfl⟩
  | not operand =>
    obtain ⟨l, -, h⟩ := bind_eq_ok.mp h
    exact ⟨_, by rw [← Except.ok.inj h]; rfl⟩
  | isNull operand negated =>
    obtain ⟨name, -, h⟩ := bind_eq_ok.mp h
    exact ⟨_, by rw [← Except.ok.inj h]; rfl⟩
  | inValues operand values =>
    obtain ⟨texts, -, h⟩ := bind_eq_ok.mp h
    obtain ⟨name, -, h⟩ := bind_eq_ok.mp h
    exact ⟨_, by rw [← Except.ok.inj h]; rfl⟩

section Nested

variable {fuel : Nat} {s s₁ s₂ : S} {l r rest : Text} {left right : Tree L}

theorem readPredicate_and (hopen : ∃ tail, l = PyChar.scalar '(' :: tail)
    (hleft : readPredicate readLiteral fuel s (l ++ (str " AND " ++ (r ++ (str ")" ++ rest)))) =
      some (left, s₁, str " AND " ++ (r ++ (str ")" ++ rest))))
    (hright : readPredicate readLiteral fuel s₁ (r ++ (str ")" ++ rest)) =
      some (right, s₂, str ")" ++ rest)) :
    readPredicate readLiteral (fuel + 1) s
        (str "(" ++ (l ++ (str " AND " ++ (r ++ (str ")" ++ rest))))) =
      some (.and left right, s₂, rest) := by
  have hhead : (l ++ (str " AND " ++ (r ++ (str ")" ++ rest)))).head? =
      some (PyChar.scalar '(') := by
    obtain ⟨tail, rfl⟩ := hopen
    rfl
  rw [readPredicate, expect_append]
  simp only [Option.bind_eq_bind, Option.bind_some, if_pos hhead, hleft, expect_append, hright]

theorem readPredicate_or (hopen : ∃ tail, l = PyChar.scalar '(' :: tail)
    (hleft : readPredicate readLiteral fuel s (l ++ (str " OR " ++ (r ++ (str ")" ++ rest)))) =
      some (left, s₁, str " OR " ++ (r ++ (str ")" ++ rest))))
    (hright : readPredicate readLiteral fuel s₁ (r ++ (str ")" ++ rest)) =
      some (right, s₂, str ")" ++ rest)) :
    readPredicate readLiteral (fuel + 1) s
        (str "(" ++ (l ++ (str " OR " ++ (r ++ (str ")" ++ rest))))) =
      some (.or left right, s₂, rest) := by
  have hhead : (l ++ (str " OR " ++ (r ++ (str ")" ++ rest)))).head? =
      some (PyChar.scalar '(') := by
    obtain ⟨tail, rfl⟩ := hopen
    rfl
  have hand : expect (str " AND ") (str " OR " ++ (r ++ (str ")" ++ rest))) = none := rfl
  rw [readPredicate, expect_append]
  simp only [Option.bind_eq_bind, Option.bind_some, if_pos hhead, hleft, hand, expect_append,
    hright]

theorem readPredicate_not (h : readPredicate readLiteral fuel s (l ++ (str ")" ++ rest)) =
      some (left, s₁, str ")" ++ rest)) :
    readPredicate readLiteral (fuel + 1) s (str "(NOT " ++ (l ++ (str ")" ++ rest))) =
      some (.not left, s₁, rest) := by
  have hopen : expect (str "(") (str "(NOT " ++ (l ++ (str ")" ++ rest))) =
      some (str "NOT " ++ (l ++ (str ")" ++ rest))) := rfl
  have hhead : (str "NOT " ++ (l ++ (str ")" ++ rest))).head? ≠ some (PyChar.scalar '(') := by
    show some (PyChar.scalar 'N') ≠ some (PyChar.scalar '(')
    decide
  rw [readPredicate, hopen]
  simp only [Option.bind_eq_bind, Option.bind_some, if_neg hhead, expect_append, h]

end Nested

/-- How deep predicates are nested in a predicate. -/
def Predicate.depth : Predicate → Nat
  | .and left right => max left.depth right.depth + 1
  | .or left right => max left.depth right.depth + 1
  | .not operand => operand.depth + 1
  | _ => 0

/-- A rendered predicate is longer than it is deep. -/
theorem depth_lt_length {params params' : List P} {p : Predicate} {t : Text}
    (h : renderWith write params p = .ok (t, params')) : p.depth < t.length := by
  induction p generalizing params params' t with
  | compare operator left right =>
    obtain ⟨l, -, h⟩ := bind_eq_ok.mp h
    obtain ⟨r, -, h⟩ := bind_eq_ok.mp h
    obtain ⟨rfl, -⟩ := Prod.mk.inj (Except.ok.inj h)
    simp [Predicate.depth, str]
  | and left right ihl ihr =>
    obtain ⟨l, hl, h⟩ := bind_eq_ok.mp h
    obtain ⟨r, hr, h⟩ := bind_eq_ok.mp h
    obtain ⟨rfl, -⟩ := Prod.mk.inj (Except.ok.inj h)
    have hleft := ihl hl
    have hright := ihr hr
    simp only [Predicate.depth, List.length_append]
    omega
  | or left right ihl ihr =>
    obtain ⟨l, hl, h⟩ := bind_eq_ok.mp h
    obtain ⟨r, hr, h⟩ := bind_eq_ok.mp h
    obtain ⟨rfl, -⟩ := Prod.mk.inj (Except.ok.inj h)
    have hleft := ihl hl
    have hright := ihr hr
    have hopen : 0 < (str "(").length := by decide
    simp only [Predicate.depth, List.length_append]
    omega
  | not operand ih =>
    obtain ⟨l, hl, h⟩ := bind_eq_ok.mp h
    obtain ⟨rfl, -⟩ := Prod.mk.inj (Except.ok.inj h)
    have hoperand := ih hl
    have hopen : 0 < (str "(NOT ").length := by decide
    simp only [Predicate.depth, List.length_append]
    omega
  | isNull operand negated =>
    obtain ⟨name, -, h⟩ := bind_eq_ok.mp h
    obtain ⟨rfl, -⟩ := Prod.mk.inj (Except.ok.inj h)
    simp [Predicate.depth, str]
  | inValues operand values =>
    obtain ⟨texts, -, h⟩ := bind_eq_ok.mp h
    obtain ⟨name, -, h⟩ := bind_eq_ok.mp h
    obtain ⟨rfl, -⟩ := Prod.mk.inj (Except.ok.inj h)
    simp [Predicate.depth, str]

namespace ReadsLiterals

theorem extends_predicate (hreads : ReadsLiterals write readLiteral value final state)
    {params params' : List P} {p : Predicate} {t : Text}
    (h : renderWith write params p = .ok (t, params')) : params <+: params' := by
  induction p generalizing params params' t with
  | compare operator left right =>
    obtain ⟨⟨l, params₁⟩, hl, h⟩ := bind_eq_ok.mp h
    obtain ⟨⟨r, params₂⟩, hr, h⟩ := bind_eq_ok.mp h
    obtain ⟨-, rfl⟩ := Prod.mk.inj (Except.ok.inj h)
    exact (hreads.extends_value hl).trans (hreads.extends_value hr)
  | and left right ihl ihr =>
    obtain ⟨⟨l, params₁⟩, hl, h⟩ := bind_eq_ok.mp h
    obtain ⟨⟨r, params₂⟩, hr, h⟩ := bind_eq_ok.mp h
    obtain ⟨-, rfl⟩ := Prod.mk.inj (Except.ok.inj h)
    exact (ihl hl).trans (ihr hr)
  | or left right ihl ihr =>
    obtain ⟨⟨l, params₁⟩, hl, h⟩ := bind_eq_ok.mp h
    obtain ⟨⟨r, params₂⟩, hr, h⟩ := bind_eq_ok.mp h
    obtain ⟨-, rfl⟩ := Prod.mk.inj (Except.ok.inj h)
    exact (ihl hl).trans (ihr hr)
  | not operand ih =>
    obtain ⟨⟨l, params₁⟩, hl, h⟩ := bind_eq_ok.mp h
    obtain ⟨-, rfl⟩ := Prod.mk.inj (Except.ok.inj h)
    exact ih hl
  | isNull operand negated =>
    obtain ⟨name, -, h⟩ := bind_eq_ok.mp h
    obtain ⟨-, rfl⟩ := Prod.mk.inj (Except.ok.inj h)
    exact List.prefix_rfl
  | inValues operand values =>
    obtain ⟨⟨texts, params₁⟩, htexts, h⟩ := bind_eq_ok.mp h
    obtain ⟨name, -, h⟩ := bind_eq_ok.mp h
    obtain ⟨-, rfl⟩ := Prod.mk.inj (Except.ok.inj h)
    exact hreads.extends_literals htexts

/-- The text of an operand does not open as a predicate does. -/
theorem opens_operand (hreads : ReadsLiterals write readLiteral value final state)
    {params : List P} {v : Value} {t : Text} {params' : List P}
    (h : renderValue write params v = .ok (t, params')) :
    ∃ c tail, t = c :: tail ∧ c ≠ PyChar.scalar '(' ∧ c ≠ PyChar.scalar 'N' := by
  cases v with
  | column c =>
    obtain ⟨rfl, -⟩ := Prod.mk.inj (renderValue_column_eq_ok h)
    exact ⟨_, _, rfl, by decide, by decide⟩
  | literal l =>
    obtain ⟨hnull, hwrite⟩ := renderValue_literal_eq_ok h
    obtain ⟨c, tail, rfl, -, hopen, hnot⟩ := hreads.opens hnull hwrite
    exact ⟨c, tail, rfl, hopen, hnot⟩

/-- After its left side a comparison is read back. -/
theorem readCompare (hreads : ReadsLiterals write readLiteral value final state)
    {params params' : List P} {operator : CompareOperator} {left : Operand L} {v : Value}
    {t rest : Text} (h : renderValue write params v = .ok (t, params'))
    (hfinal : params' <+: final) :
    readCompare readLiteral left (state params)
        (str " " ++ (str operator.symbol ++ (str " " ++ (t ++ (str ")" ++ rest))))) =
      some (.compare operator left (v.operand value), state params', rest) := by
  have hclose : Terminates (str ")" ++ rest) := ⟨_, _, rfl, Or.inr (Or.inr rfl)⟩
  rw [DaftOlap.readCompare, expect_append]
  simp only [Option.bind_eq_bind, Option.bind_some, readOperator_symbol,
    hreads.readOperand h hfinal hclose, expect_append]

theorem readLeaf_compare (hreads : ReadsLiterals write readLiteral value final state)
    {params params₁ params' : List P} {operator : CompareOperator} {v w : Value}
    {l r rest : Text} (hl : renderValue write params v = .ok (l, params₁))
    (hr : renderValue write params₁ w = .ok (r, params')) (hfinal : params' <+: final) :
    readLeaf readLiteral (state params)
        (l ++ (str " " ++ (str operator.symbol ++ (str " " ++ (r ++ (str ")" ++ rest)))))) =
      some (.compare operator (v.operand value) (w.operand value), state params', rest) := by
  have hspace : Terminates (str " " ++ (str operator.symbol ++ (str " " ++
      (r ++ (str ")" ++ rest))))) := ⟨_, _, rfl, Or.inl rfl⟩
  have hleft := hreads.readOperand hl ((hreads.extends_value hr).trans hfinal) hspace
  have hcompare : ∀ left : Operand L, DaftOlap.readCompare readLiteral left (state params₁)
      (str " " ++ (str operator.symbol ++ (str " " ++ (r ++ (str ")" ++ rest))))) =
        some (.compare operator left (w.operand value), state params', rest) :=
    fun left => hreads.readCompare hr hfinal
  rw [readLeaf, hleft]
  simp only [Option.bind_eq_bind, Option.bind_some]
  cases v with
  | literal l => exact hcompare _
  | column c =>
    -- an operator opens neither `IS` nor `IN`
    have his : expect (str " IS ") (str " " ++ (str operator.symbol ++ (str " " ++
        (r ++ (str ")" ++ rest))))) = none := by cases operator <;> rfl
    have hin : expect (str " IN (") (str " " ++ (str operator.symbol ++ (str " " ++
        (r ++ (str ")" ++ rest))))) = none := by cases operator <;> rfl
    simp only [Value.operand, his, hin]
    exact hcompare _

theorem readLeaf_isNull (s : S) (name : Text) (negated : Bool) (rest : Text) :
    readLeaf readLiteral s (quoted name ++ (str " " ++
        (str (if negated then "IS NOT NULL" else "IS NULL") ++ (str ")" ++ rest)))) =
      some (.isNull name negated, s, rest) := by
  have hspace : Terminates (str " " ++ (str (if negated then "IS NOT NULL" else "IS NULL") ++
      (str ")" ++ rest))) := ⟨_, _, rfl, Or.inl rfl⟩
  rw [readLeaf, DaftOlap.readOperand, if_pos (quoted_head? name _),
    lexIdentifier_mysql name hspace.head_ne_backtick]
  cases negated <;> rfl

theorem readLeaf_inValues (hreads : ReadsLiterals write readLiteral value final state)
    {params params' : List P} {name : Text} {values : InSet} {texts : List Text} {rest : Text}
    (h : renderLiterals write params values.values = .ok (texts, params'))
    (hfinal : params' <+: final) :
    readLeaf readLiteral (state params)
        (quoted name ++ (str " IN (" ++ (Text.join (str ", ") texts ++ (str "))" ++ rest)))) =
      some (.inValues name (values.values.map fun l => value l.value), state params', rest) := by
  have hspace : Terminates (str " IN (" ++ (Text.join (str ", ") texts ++ (str "))" ++ rest))) :=
    ⟨_, _, rfl, Or.inl rfl⟩
  have his : expect (str " IS ")
      (str " IN (" ++ (Text.join (str ", ") texts ++ (str "))" ++ rest))) = none := rfl
  -- every member but the last has a comma after it, so the text is long enough
  have hlength : ∀ texts : List Text,
      texts.length ≤ (Text.join (str ", ") texts ++ (str "))" ++ rest)).length := by
    intro texts
    induction texts with
    | nil => exact Nat.zero_le _
    | cons t texts ih =>
      cases texts with
      | nil =>
        have hclose : (str "))").length = 2 := by decide
        rw [List.length_append, List.length_append, List.length_singleton]
        omega
      | cons u texts =>
        rw [Text.join_cons_cons, List.length_cons, List.append_assoc, List.append_assoc,
          List.length_append, List.length_append]
        have hcomma : (str ", ").length = 2 := by decide
        omega
  have hfuel : values.values.length ≤
      (Text.join (str ", ") texts ++ (str "))" ++ rest)).length :=
    renderLiterals_length h ▸ hlength texts
  rw [readLeaf, DaftOlap.readOperand, if_pos (quoted_head? name _),
    lexIdentifier_mysql name hspace.head_ne_backtick]
  simp only [Option.map_some, Option.bind_eq_bind, Option.bind_some, his, expect_append, readIn,
    hreads.readMembers values.nonempty h hfinal hfuel]

/-- A rendered predicate is read back, and nothing of the text after it. -/
theorem readPredicate (hreads : ReadsLiterals write readLiteral value final state) {p : Predicate}
    {params params' : List P} {t rest : Text} {fuel : Nat}
    (h : renderWith write params p = .ok (t, params')) (hfinal : params' <+: final)
    (hfuel : p.depth < fuel) :
    readPredicate readLiteral fuel (state params) (t ++ rest) =
      some (p.tree value, state params', rest) := by
  induction p generalizing params params' t rest fuel with
  | compare operator left right =>
    obtain ⟨⟨l, params₁⟩, hl, h⟩ := bind_eq_ok.mp h
    obtain ⟨⟨r, params₂⟩, hr, h⟩ := bind_eq_ok.mp h
    obtain ⟨rfl, rfl⟩ := Prod.mk.inj (Except.ok.inj h)
    obtain ⟨fuel, rfl⟩ := Nat.exists_eq_add_of_lt hfuel
    obtain ⟨c, tail, rfl, hopen, hnot⟩ := hreads.opens_operand hl
    simp only [List.append_assoc, List.cons_append]
    rw [readPredicate_leaf hopen hnot]
    exact hreads.readLeaf_compare hl hr hfinal
  | and left right ihl ihr =>
    obtain ⟨⟨l, params₁⟩, hl, h⟩ := bind_eq_ok.mp h
    obtain ⟨⟨r, params₂⟩, hr, h⟩ := bind_eq_ok.mp h
    obtain ⟨rfl, rfl⟩ := Prod.mk.inj (Except.ok.inj h)
    obtain ⟨fuel, rfl⟩ := Nat.exists_eq_succ_of_ne_zero (Nat.ne_zero_of_lt hfuel)
    have hdepth : max left.depth right.depth < fuel := Nat.lt_of_succ_lt_succ hfuel
    simp only [List.append_assoc]
    exact readPredicate_and (renderWith_opens hl) (ihl hl ((hreads.extends_predicate hr).trans
      hfinal) (Nat.lt_of_le_of_lt (Nat.le_max_left _ _) hdepth)) (ihr hr hfinal
        (Nat.lt_of_le_of_lt (Nat.le_max_right _ _) hdepth))
  | or left right ihl ihr =>
    obtain ⟨⟨l, params₁⟩, hl, h⟩ := bind_eq_ok.mp h
    obtain ⟨⟨r, params₂⟩, hr, h⟩ := bind_eq_ok.mp h
    obtain ⟨rfl, rfl⟩ := Prod.mk.inj (Except.ok.inj h)
    obtain ⟨fuel, rfl⟩ := Nat.exists_eq_succ_of_ne_zero (Nat.ne_zero_of_lt hfuel)
    have hdepth : max left.depth right.depth < fuel := Nat.lt_of_succ_lt_succ hfuel
    simp only [List.append_assoc]
    exact readPredicate_or (renderWith_opens hl) (ihl hl ((hreads.extends_predicate hr).trans
      hfinal) (Nat.lt_of_le_of_lt (Nat.le_max_left _ _) hdepth)) (ihr hr hfinal
        (Nat.lt_of_le_of_lt (Nat.le_max_right _ _) hdepth))
  | not operand ih =>
    obtain ⟨⟨l, params₁⟩, hl, h⟩ := bind_eq_ok.mp h
    obtain ⟨rfl, rfl⟩ := Prod.mk.inj (Except.ok.inj h)
    obtain ⟨fuel, rfl⟩ := Nat.exists_eq_succ_of_ne_zero (Nat.ne_zero_of_lt hfuel)
    simp only [List.append_assoc]
    exact readPredicate_not (ih hl hfinal (Nat.lt_of_succ_lt_succ hfuel))
  | isNull operand negated =>
    obtain ⟨name, hname, h⟩ := bind_eq_ok.mp h
    obtain ⟨rfl, rfl⟩ := Prod.mk.inj (Except.ok.inj h)
    obtain ⟨-, rfl⟩ := quoteIdentifier_eq_ok hname
    obtain ⟨fuel, rfl⟩ := Nat.exists_eq_add_of_lt hfuel
    simp only [List.append_assoc]
    exact (readPredicate_leaf (by decide) (by decide)).trans
      (readLeaf_isNull _ operand.name negated rest)
  | inValues operand values =>
    obtain ⟨⟨texts, params₁⟩, htexts, h⟩ := bind_eq_ok.mp h
    obtain ⟨name, hname, h⟩ := bind_eq_ok.mp h
    obtain ⟨rfl, rfl⟩ := Prod.mk.inj (Except.ok.inj h)
    obtain ⟨-, rfl⟩ := quoteIdentifier_eq_ok hname
    obtain ⟨fuel, rfl⟩ := Nat.exists_eq_add_of_lt hfuel
    simp only [List.append_assoc]
    exact (readPredicate_leaf (by decide) (by decide)).trans
      (hreads.readLeaf_inValues htexts hfinal)

/-- A rendered predicate is read back as a whole text. -/
theorem readWith_renderWith (hreads : ReadsLiterals write readLiteral value final state)
    {p : Predicate} {params : List P} {t : Text}
    (h : renderWith write params p = .ok (t, final)) :
    readWith readLiteral (state params) t = some (p.tree value, state final) := by
  have hread : DaftOlap.readPredicate readLiteral t.length (state params) (t ++ []) =
      some (p.tree value, state final, []) :=
    hreads.readPredicate h List.prefix_rfl (depth_lt_length h)
  rw [List.append_nil] at hread
  rw [readWith, hread]

end ReadsLiterals

end Correct

end DaftOlap
