/-
Doris types and their Arrow types (`doris/schema.py`).

`Declares` is the grammar of the declarations the mapping is for.  The mapping reads
numbers with `str.isdigit` and `int`, which take more than plain numerals: `Misread`
says for which declarations that shows.
-/
import DaftOlap.Common.Errors
import DaftOlap.Python.Digits
import DaftOlap.Python.Except

namespace DaftOlap
namespace Doris

open Python

/-! ## The mapping -/

inductive ArrowType
  | bool
  | int8
  | int16
  | int32
  | int64
  | float32
  | float64
  | string
  | date32
  | timestampMicros
  | decimal128 (precision scale : Int)
deriving DecidableEq

def unsupportedPrefixes : List Text := ["ARRAY<", "MAP<", "STRUCT<"].map str

def unsupportedTypes : List Text :=
  ["AGG_STATE", "BITMAP", "HLL", "LARGEINT", "QUANTILE_STATE", "VARIANT"].map str

def maxDecimalPrecision : Nat := 38

def maxDatetimePrecision : Nat := 6

def stringLengthLimits : List (Text × Nat) := [(str "CHAR", 255), (str "VARCHAR", 65533)]

def simpleTypes : List (Text × ArrowType) :=
  [(str "BOOLEAN", .bool), (str "TINYINT", .int8), (str "SMALLINT", .int16), (str "INT", .int32),
    (str "INTEGER", .int32), (str "BIGINT", .int64), (str "FLOAT", .float32),
    (str "DOUBLE", .float64), (str "STRING", .string), (str "TEXT", .string),
    (str "JSON", .string), (str "JSONB", .string), (str "DATE", .date32), (str "DATEV2", .date32)]

def datetimeTypes : List Text := ["DATETIME", "DATETIMEV2"].map str

def decimalTypes : List Text :=
  ["DECIMAL", "DECIMALV2", "DECIMALV3", "DECIMAL32", "DECIMAL64", "DECIMAL128",
    "DECIMAL256"].map str

/-- `[A-Z0-9_]`. -/
def isTypeChar (c : PyChar) : Bool := c.isUpper || c.isAsciiDigit || c == '_'

/-- `_TYPE_PATTERN.fullmatch`, with its groups. -/
def typePattern? (t : Text) : Option (Text × Option Text) :=
  match t with
  | [] => none
  | c :: _ =>
    if ¬ c.isUpper then none
    else
      let base := t.takeWhile isTypeChar
      match (t.dropWhile isTypeChar).dropWhile PyChar.isSpace with
      | [] => some (base, none)
      | d :: rest =>
        if d = '(' ∧ rest.getLast? = some (PyChar.scalar ')') ∧ PyChar.scalar ')' ∉ rest.dropLast
        then some (base, some rest.dropLast)
        else none

/-- `invalid Doris {kind} {what} for column {column_name!r}`. -/
def invalidArgument (kind what : String) (columnName : Text) : PyException :=
  schemaError [.text ("invalid Doris " ++ kind ++ what ++ " for column "), .repr columnName]

def unsupportedType (what : String) (dorisType columnName : Text) : PyException :=
  schemaError [.text (what ++ " Doris type for column "), .repr columnName, .text ": ",
    .repr dorisType]

/-- `_bounded_integer_argument`. -/
def boundedIntegerArgument (u : CaseData) (arguments : Option Text) (kind : String)
    (columnName : Text) (minimum maximum : Int) : Except PyException Int :=
  match arguments with
  | none => .error (invalidArgument kind " type" columnName)
  | some text =>
    if ¬ Text.isDigit u (Text.strip text) then .error (invalidArgument kind " type" columnName)
    else
      match parseInt u.toUnicodeData (Text.strip text) with
      | none => .error .valueError
      | some value =>
        if ¬ (minimum ≤ value ∧ value ≤ maximum) then
          .error (invalidArgument kind " bounds" columnName)
        else .ok value

/-- `_decimal_to_arrow`. -/
def decimalToArrow (u : CaseData) (arguments : Option Text) (columnName : Text) :
    Except PyException ArrowType :=
  match arguments with
  | none =>
    .error (schemaError [.text "Doris decimal column ", .repr columnName,
      .text " has no precision and scale"])
  | some text =>
    match (text.splitOn (PyChar.scalar ',')).map Text.strip with
    | [precisionText, scaleText] =>
      match parseInt u.toUnicodeData precisionText, parseInt u.toUnicodeData scaleText with
      | some precision, some scale =>
        if precision ≤ 0 ∨ maxDecimalPrecision < precision ∨ scale < 0 ∨ precision < scale then
          .error (invalidArgument "decimal" " bounds" columnName)
        else .ok (.decimal128 precision scale)
      | _, _ => .error (invalidArgument "decimal" " type" columnName)
    | _ => .error (invalidArgument "decimal" " type" columnName)

/-- `doris_type.strip().upper()`. -/
def normalizedType (u : CaseData) (dorisType : Text) : Text := Text.upper u (Text.strip dorisType)

/-- Map one supported Doris scalar type without value-based inference. -/
def dorisTypeToArrow (u : CaseData) (dorisType columnName : Text) :
    Except PyException ArrowType :=
  let normalized := normalizedType u dorisType
  if unsupportedPrefixes.any (·.isPrefixOf normalized) then
    .error (unsupportedType "unsupported" dorisType columnName)
  else
    match typePattern? normalized with
    | none => .error (unsupportedType "unsupported" dorisType columnName)
    | some (base, arguments) =>
      if base ∈ unsupportedTypes then .error (unsupportedType "unsupported" dorisType columnName)
      else
        match simpleTypes.lookup base with
        | some type =>
          if arguments ≠ none then .error (unsupportedType "invalid" dorisType columnName)
          else .ok type
        | none =>
          match stringLengthLimits.lookup base with
          | some maximum => do
            let _ ← boundedIntegerArgument u arguments "string" columnName 1 maximum
            .ok .string
          | none =>
            if base ∈ datetimeTypes then
              if arguments ≠ none then do
                let _ ← boundedIntegerArgument u arguments "datetime" columnName 0
                  maxDatetimePrecision
                .ok .timestampMicros
              else .ok .timestampMicros
            else if base ∈ decimalTypes then decimalToArrow u arguments columnName
            else .error (unsupportedType "unsupported" dorisType columnName)

/-! ## The grammar -/

/-- A plain numeral between white space. -/
def Numeral (n : Nat) (t : Text) : Prop :=
  ∃ before digits after, White before ∧ IsNumeral digits ∧ White after ∧
    t = before ++ digits ++ after ∧ numeralValue digits = n

/-- `name(n, ..., n)`, with white space before the parenthesis and around the numerals. -/
def Applied (name : Text) (ns : List Nat) (t : Text) : Prop :=
  ∃ space arguments, White space ∧ List.Forall₂ Numeral ns arguments ∧
    t = name ++ space ++ str "(" ++ Text.join (str ",") arguments ++ str ")"

/-- A declaration and the Arrow type it stands for. -/
inductive Declares : Text → ArrowType → Prop
  | simple {name : Text} {type : ArrowType} (hname : (name, type) ∈ simpleTypes) :
      Declares name type
  | string {name t : Text} {limit n : Nat} (hname : (name, limit) ∈ stringLengthLimits)
      (happlied : Applied name [n] t) (hmin : 1 ≤ n) (hmax : n ≤ limit) : Declares t .string
  | datetime {name : Text} (hname : name ∈ datetimeTypes) : Declares name .timestampMicros
  | datetimePrecision {name t : Text} {p : Nat} (hname : name ∈ datetimeTypes)
      (happlied : Applied name [p] t) (hmax : p ≤ maxDatetimePrecision) :
      Declares t .timestampMicros
  | decimal {name t : Text} {p s : Nat} (hname : name ∈ decimalTypes)
      (happlied : Applied name [p, s] t) (hmin : 1 ≤ p) (hmax : p ≤ maxDecimalPrecision)
      (hscale : s ≤ p) : Declares t (.decimal128 p s)

/-! ## The type pattern -/

/-- A name of the pattern. -/
def IsTypeName (t : Text) : Prop :=
  t.head?.any PyChar.isUpper = true ∧ ∀ c ∈ t, isTypeChar c = true

instance (t : Text) : Decidable (IsTypeName t) := inferInstanceAs (Decidable (_ ∧ _))

theorem ord_of_isTypeChar {c : PyChar} (h : isTypeChar c = true) :
    (65 ≤ c.ord ∧ c.ord ≤ 90) ∨ (48 ≤ c.ord ∧ c.ord ≤ 57) ∨ c.ord = 95 := by
  simp only [isTypeChar, Bool.or_eq_true, beq_iff_eq] at h
  rcases h with (hupper | hdigit) | hunderscore
  · exact Or.inl (ord_of_isUpper hupper)
  · exact Or.inr (Or.inl (ord_of_isAsciiDigit hdigit))
  · rw [hunderscore]
    exact Or.inr (Or.inr rfl)

theorem isTypeChar_of_isSpace {c : PyChar} (h : c.isSpace = true) : ¬ isTypeChar c = true := by
  intro htype
  have := ord_of_isTypeChar htype
  have := ord_of_isSpace h
  omega

/-- What the pattern takes after the name: white space, and perhaps one pair of
parentheses. -/
def patternRest (space : Text) : Option Text → Text
  | none => space
  | some arguments => space ++ str "(" ++ arguments ++ str ")"

theorem patternRest_head {space : Text} (hspace : White space) (arguments : Option Text) :
    ∀ c, (patternRest space arguments).head? = some c → ¬ isTypeChar c = true := by
  intro c hc
  cases space with
  | cons d space =>
    have hd : (patternRest (d :: space) arguments).head? = some d := by
      cases arguments <;> rfl
    rw [hd] at hc
    rw [← Option.some.inj hc]
    exact isTypeChar_of_isSpace (hspace d List.mem_cons_self)
  | nil =>
    cases arguments with
    | none => cases hc
    | some a =>
      rw [← Option.some.inj hc]
      decide

theorem takeWhile_name {name rest : Text} (hname : ∀ c ∈ name, isTypeChar c = true)
    (hrest : ∀ c, rest.head? = some c → ¬ isTypeChar c = true) :
    (name ++ rest).takeWhile isTypeChar = name ∧ (name ++ rest).dropWhile isTypeChar = rest := by
  rw [List.takeWhile_append_of_pos hname, List.dropWhile_append_of_pos hname]
  cases rest with
  | nil => simp
  | cons c rest =>
    have hc := hrest c rfl
    rw [List.takeWhile_cons_of_neg hc, List.dropWhile_cons_of_neg hc, List.append_nil]
    exact ⟨rfl, rfl⟩

theorem typePattern?_text {base space : Text} {arguments : Option Text}
    (hbase : IsTypeName base) (hspace : White space)
    (harguments : ∀ a, arguments = some a → PyChar.scalar ')' ∉ a) :
    typePattern? (base ++ patternRest space arguments) = some (base, arguments) := by
  obtain ⟨htake, hdrop⟩ := takeWhile_name hbase.2 (patternRest_head hspace arguments)
  obtain ⟨c, rest, rfl⟩ : ∃ c rest, base = c :: rest := by
    cases base with
    | nil => cases hbase.1
    | cons c rest => exact ⟨c, rest, rfl⟩
  have hupper : c.isUpper = true := hbase.1
  rw [List.cons_append] at htake hdrop ⊢
  simp only [typePattern?, hupper, not_true_eq_false, if_false, htake, hdrop]
  cases arguments with
  | none => rw [patternRest, List.dropWhile_eq_nil_iff.mpr hspace]
  | some a =>
    have hopen : (patternRest space (some a)).dropWhile PyChar.isSpace =
        PyChar.scalar '(' :: (a ++ str ")") := by
      rw [patternRest, List.append_assoc, List.append_assoc, List.dropWhile_append_of_pos hspace]
      exact List.dropWhile_cons_of_neg (by decide)
    have hlast : (a ++ str ")").getLast? = some (PyChar.scalar ')') := List.getLast?_concat
    have hfront : (a ++ str ")").dropLast = a := List.dropLast_concat
    rw [hopen]
    simp only [hlast, hfront, harguments a rfl, not_false_eq_true, and_self, if_true]

/-- The pattern takes exactly these texts. -/
theorem typePattern?_eq_some {t base : Text} {arguments : Option Text}
    (h : typePattern? t = some (base, arguments)) :
    IsTypeName base ∧ (∀ a, arguments = some a → PyChar.scalar ')' ∉ a) ∧
      ∃ space, White space ∧ t = base ++ patternRest space arguments := by
  cases t with
  | nil => cases h
  | cons c rest =>
    have hsplit : (c :: rest).takeWhile isTypeChar ++ (c :: rest).dropWhile isTypeChar = c :: rest :=
      List.takeWhile_append_dropWhile
    have hspaces : ((c :: rest).dropWhile isTypeChar).takeWhile PyChar.isSpace ++
        ((c :: rest).dropWhile isTypeChar).dropWhile PyChar.isSpace =
        (c :: rest).dropWhile isTypeChar := List.takeWhile_append_dropWhile
    have hwhite : White (((c :: rest).dropWhile isTypeChar).takeWhile PyChar.isSpace) :=
      fun d hd => List.mem_takeWhile_imp hd
    simp only [typePattern?] at h
    split at h
    · cases h
    · next hupper =>
      rw [not_not] at hupper
      have hname : IsTypeName ((c :: rest).takeWhile isTypeChar) := by
        refine ⟨?_, fun d hd => List.mem_takeWhile_imp hd⟩
        rw [List.takeWhile_cons_of_pos (by simp [isTypeChar, hupper])]
        exact hupper
      split at h
      · next hnone =>
        obtain ⟨hb, ha⟩ := Prod.mk.inj (Option.some.inj h)
        subst hb ha
        refine ⟨hname, fun a ha => absurd ha (by simp), _, hwhite, ?_⟩
        rw [hnone, List.append_nil] at hspaces
        rw [patternRest, hspaces, hsplit]
      · next d after hsome =>
        split at h
        · next hparens =>
          obtain ⟨hopen, hclose, hinside⟩ := hparens
          obtain ⟨hb, ha⟩ := Prod.mk.inj (Option.some.inj h)
          subst hb ha
          refine ⟨hname, fun a ha => Option.some.inj ha ▸ hinside, _, hwhite, ?_⟩
          have hafter : after.dropLast ++ str ")" = after :=
            List.dropLast_append_getLast? _ hclose
          rw [patternRest, List.append_assoc, List.append_assoc, hafter]
          rw [hsome, hopen] at hspaces
          rw [show str "(" ++ after = PyChar.scalar '(' :: after from rfl, hspaces, hsplit]
        · cases h

/-! ## Arguments -/

theorem numeral_iff {n : Nat} {t : Text} :
    Numeral n t ↔ IsNumeral (Text.strip t) ∧ numeralValue (Text.strip t) = n := by
  constructor
  · intro h
    obtain ⟨before, digits, after, hbefore, hdigits, hafter, rfl, hvalue⟩ := h
    rw [Text.strip_pad hbefore hafter, Text.strip_of_trimmed hdigits.trimmed]
    exact ⟨hdigits, hvalue⟩
  · intro h
    obtain ⟨before, after, hbefore, hafter, ht⟩ := Text.exists_pad t
    exact ⟨before, _, after, hbefore, h.1, hafter, ht, h.2⟩

/-- A numeral has neither the comma nor the parenthesis that would end it. -/
theorem Numeral.ord_of_mem {n : Nat} {t : Text} (h : Numeral n t) {c : PyChar} (hc : c ∈ t) :
    c.ord ≤ 32 ∨ (48 ≤ c.ord ∧ c.ord ≤ 57) ∨ 0x85 ≤ c.ord := by
  obtain ⟨before, digits, after, hbefore, hdigits, hafter, rfl, -⟩ := h
  rcases List.mem_append.mp hc with hc | hc
  · rcases List.mem_append.mp hc with hc | hc
    · have := ord_of_isSpace (hbefore c hc)
      omega
    · exact Or.inr (Or.inl (ord_of_isAsciiDigit (hdigits.2 c hc)))
  · have := ord_of_isSpace (hafter c hc)
    omega

theorem Numeral.not_mem {n : Nat} {t : Text} (h : Numeral n t) :
    PyChar.scalar ',' ∉ t ∧ PyChar.scalar ')' ∉ t := by
  constructor
  · intro hc
    have hord := h.ord_of_mem hc
    rw [show (PyChar.scalar ',').ord = 44 from rfl] at hord
    omega
  · intro hc
    have hord := h.ord_of_mem hc
    rw [show (PyChar.scalar ')').ord = 41 from rfl] at hord
    omega

theorem not_mem_join {ns : List Nat} {parts : List Text} (h : List.Forall₂ Numeral ns parts) :
    PyChar.scalar ')' ∉ Text.join (str ",") parts := by
  induction h with
  | nil => exact List.not_mem_nil
  | @cons n part ns parts hpart hrest ih =>
    cases parts with
    | nil => simpa using hpart.not_mem.2
    | cons next parts =>
      rw [Text.join_cons_cons]
      intro hmem
      rcases List.mem_append.mp hmem with hmem | hmem
      · rcases List.mem_append.mp hmem with hmem | hmem
        · exact hpart.not_mem.2 hmem
        · exact absurd hmem (by decide)
      · exact ih hmem

theorem applied_iff {name base t : Text} {ns : List Nat} {arguments : Option Text}
    (h : typePattern? t = some (base, arguments)) (hname : IsTypeName name) :
    Applied name ns t ↔ name = base ∧ ∃ parts, List.Forall₂ Numeral ns parts ∧
      arguments = some (Text.join (str ",") parts) := by
  constructor
  · intro happlied
    obtain ⟨space, parts, hspace, hparts, ht⟩ := happlied
    have htext : t = name ++ patternRest space (some (Text.join (str ",") parts)) := by
      rw [ht, patternRest]
      simp only [List.append_assoc]
    rw [htext, typePattern?_text hname hspace (fun a ha => Option.some.inj ha ▸ not_mem_join hparts)]
      at h
    obtain ⟨hbase, harguments⟩ := Prod.mk.inj (Option.some.inj h)
    exact ⟨hbase, parts, hparts, harguments.symm⟩
  · intro hparts
    obtain ⟨rfl, parts, hparts, harguments⟩ := hparts
    obtain ⟨-, -, space, hspace, ht⟩ := typePattern?_eq_some h
    refine ⟨space, parts, hspace, hparts, ?_⟩
    rw [ht, harguments, patternRest]
    simp only [List.append_assoc]

theorem forall₂_one {n : Nat} {a : Text} :
    (∃ parts, List.Forall₂ Numeral [n] parts ∧ some a = some (Text.join (str ",") parts)) ↔
      Numeral n a := by
  constructor
  · intro h
    obtain ⟨parts, hparts, ha⟩ := h
    cases hparts with
    | cons hpart hrest =>
      cases hrest
      rw [Option.some.inj ha, Text.join_singleton]
      exact hpart
  · intro h
    exact ⟨[a], .cons h .nil, by rw [Text.join_singleton]⟩

theorem forall₂_two {p s : Nat} {a : Text} :
    (∃ parts, List.Forall₂ Numeral [p, s] parts ∧ some a = some (Text.join (str ",") parts)) ↔
      ∃ x y, a.splitOn (PyChar.scalar ',') = [x, y] ∧ Numeral p x ∧ Numeral s y := by
  constructor
  · intro h
    obtain ⟨parts, hparts, ha⟩ := h
    cases hparts with
    | cons hp hrest =>
      cases hrest with
      | cons hs hrest =>
        cases hrest
        refine ⟨_, _, ?_, hp, hs⟩
        rw [Option.some.inj ha]
        refine List.splitOn_intercalate _ ?_ (List.cons_ne_nil _ _)
        intro l hl
        rcases List.mem_cons.mp hl with rfl | hl
        · exact hp.not_mem.1
        · rw [List.mem_singleton.mp hl]
          exact hs.not_mem.1
  · intro h
    obtain ⟨x, y, hsplit, hp, hs⟩ := h
    refine ⟨[x, y], .cons hp (.cons hs .nil), ?_⟩
    rw [← hsplit, Text.join]
    exact congrArg some (List.intercalate_splitOn _).symm

/-! ## Where the mapping misreads numbers -/

/-- Digits to `str.isdigit` that are no plain numeral `int` reads, unless `int` reads a
number beyond the bounds from them. -/
def MisreadArgument (u : CaseData) (low high : Nat) (argument : Text) : Prop :=
  Text.isDigit u (Text.strip argument) = true ∧
  ¬ (IsNumeral (Text.strip argument) ∧ (Text.strip argument).length ≤ maxStrDigits) ∧
  ∀ v, parseInt u.toUnicodeData (Text.strip argument) = some v → (low : Int) ≤ v ∧ v ≤ high

/-- The bounds of a decimal type. -/
def DecimalBounds (precision scale : Int) : Prop :=
  1 ≤ precision ∧ precision ≤ maxDecimalPrecision ∧ 0 ≤ scale ∧ scale ≤ precision

/-- Two numbers within the bounds for `int`, not both plain numerals; or two plain
numerals within the bounds, one of them too long for `int`. -/
def MisreadDecimal (u : CaseData) (arguments : Text) : Prop :=
  ∃ x y, arguments.splitOn (PyChar.scalar ',') = [x, y] ∧
    ((∃ p s, parseInt u.toUnicodeData (Text.strip x) = some p ∧
        parseInt u.toUnicodeData (Text.strip y) = some s ∧ DecimalBounds p s ∧
        ¬ (IsNumeral (Text.strip x) ∧ IsNumeral (Text.strip y))) ∨
      (IsNumeral (Text.strip x) ∧ IsNumeral (Text.strip y) ∧
        DecimalBounds (numeralValue (Text.strip x)) (numeralValue (Text.strip y)) ∧
        (maxStrDigits < (Text.strip x).length ∨ maxStrDigits < (Text.strip y).length)))

/-- The types with one argument, and its bounds. -/
def argumentBounds : List (Text × Nat × Nat) :=
  [(str "CHAR", 1, 255), (str "VARCHAR", 1, 65533), (str "DATETIME", 0, 6), (str "DATETIMEV2", 0, 6)]

def Misread (u : CaseData) (t : Text) : Prop :=
  ∃ base arguments, typePattern? t = some (base, some arguments) ∧
    ((∃ low high, (base, low, high) ∈ argumentBounds ∧ MisreadArgument u low high arguments) ∨
      (base ∈ decimalTypes ∧ MisreadDecimal u arguments))

/-- A computation returns what the relation asks for and otherwise fails with
`SchemaError`. -/
def Agrees {α : Type} (result : Except PyException α) (expected : α → Prop) : Prop :=
  (∀ e, result = .error e → e.kind? = some .schema) ∧ ∀ a, result = .ok a ↔ expected a

theorem agrees_error {α : Type} {e : PyException} {expected : α → Prop}
    (he : e.kind? = some .schema) : Agrees (.error e) expected ↔ ∀ a, ¬ expected a := by
  constructor
  · intro h a ha
    cases (h.2 a).mpr ha
  · intro h
    refine ⟨fun e' he' => Except.error.inj he' ▸ he, fun a => ⟨fun ha => ?_, fun ha => ?_⟩⟩
    · cases ha
    · exact absurd ha (h a)

theorem not_agrees_error {α : Type} {e : PyException} {expected : α → Prop}
    (he : e.kind? ≠ some .schema) : ¬ Agrees (.error e) expected := by
  intro h
  exact he (h.1 e rfl)

theorem agrees_ok {α : Type} {a : α} {expected : α → Prop} :
    Agrees (.ok a) expected ↔ ∀ b, expected b ↔ b = a := by
  constructor
  · intro h b
    rw [← h.2 b, Except.ok.injEq, eq_comm]
  · intro h
    refine ⟨fun e he => (by cases he), fun b => ?_⟩
    rw [h b, Except.ok.injEq, eq_comm]

/-- What `int` makes of a plain numeral. -/
theorem parseInt_cases {t : Text} (h : IsNumeral t) (u : UnicodeData) :
    (maxStrDigits < t.length ∧ parseInt u t = none) ∨
      (t.length ≤ maxStrDigits ∧ parseInt u t = some (numeralValue t : Int)) := by
  rw [h.parseInt_eq]
  by_cases hlong : maxStrDigits < t.length
  · exact Or.inl ⟨hlong, if_pos hlong⟩
  · exact Or.inr ⟨by omega, if_neg hlong⟩

theorem value_of_parseInt {t : Text} (h : IsNumeral t) {u : UnicodeData} {v : Int}
    (hint : parseInt u t = some v) : t.length ≤ maxStrDigits ∧ v = numeralValue t := by
  rcases parseInt_cases h u with ⟨-, hnone⟩ | ⟨hshort, hsome⟩
  · rw [hint] at hnone
    cases hnone
  · rw [hint] at hsome
    exact ⟨hshort, Option.some.inj hsome⟩

theorem agrees_boundedInteger (u : CaseData) (type : ArrowType) (kind : String)
    (columnName argument : Text) (low high : Nat) :
    Agrees (do
        let _ ← boundedIntegerArgument u (some argument) kind columnName low high
        .ok type)
      (fun t => ∃ n, Numeral n argument ∧ low ≤ n ∧ n ≤ high ∧ t = type) ↔
    ¬ MisreadArgument u low high argument := by
  simp only [boundedIntegerArgument]
  by_cases hdigit : Text.isDigit u (Text.strip argument) = true
  · rw [if_neg (not_not.mpr hdigit)]
    cases hint : parseInt u.toUnicodeData (Text.strip argument) with
    | none =>
      rw [error_bind]
      refine iff_of_false (not_agrees_error (by simp [PyException.kind?])) ?_
      rw [not_not]
      refine ⟨hdigit, fun hplain => ?_, fun v hv => by rw [hint] at hv; cases hv⟩
      rcases parseInt_cases hplain.1 u.toUnicodeData with ⟨hlong, -⟩ | ⟨-, hsome⟩
      · exact absurd hplain.2 (Nat.not_le_of_lt hlong)
      · rw [hint] at hsome
        cases hsome
    | some v =>
      simp only
      by_cases hbounds : (low : Int) ≤ v ∧ v ≤ high
      · rw [if_neg (not_not.mpr hbounds), ok_bind, agrees_ok]
        constructor
        · intro h hmisread
          obtain ⟨n, hn, -⟩ := (h type).mpr rfl
          obtain ⟨hnumeral, -⟩ := numeral_iff.mp hn
          exact hmisread.2.1 ⟨hnumeral, (value_of_parseInt hnumeral hint).1⟩
        · intro h b
          have hplain : IsNumeral (Text.strip argument) := by
            by_contra hno
            refine h ⟨hdigit, fun hp => hno hp.1, fun w hw => ?_⟩
            rw [hint] at hw
            rw [← Option.some.inj hw]
            exact hbounds
          have hvalue := (value_of_parseInt hplain hint).2
          constructor
          · intro hb
            obtain ⟨n, -, -, -, hb⟩ := hb
            exact hb
          · intro hb
            exact ⟨_, numeral_iff.mpr ⟨hplain, rfl⟩, by omega, by omega, hb⟩
      · rw [if_pos hbounds, error_bind, agrees_error rfl]
        refine iff_of_true ?_ ?_
        · intro t ht
          obtain ⟨n, hn, hlow, hhigh, -⟩ := ht
          obtain ⟨hnumeral, hvalue⟩ := numeral_iff.mp hn
          have hread := (value_of_parseInt hnumeral hint).2
          omega
        · intro hmisread
          exact hbounds (hmisread.2.2 v hint)
  · rw [if_pos hdigit, error_bind, agrees_error rfl]
    refine iff_of_true ?_ fun hmisread => hdigit hmisread.1
    intro t ht
    obtain ⟨n, hn, -⟩ := ht
    exact hdigit ((numeral_iff.mp hn).1.isDigit u)

theorem agrees_congr {α : Type} {result : Except PyException α} {expected expected' : α → Prop}
    (h : ∀ a, expected a ↔ expected' a) : Agrees result expected ↔ Agrees result expected' := by
  rw [funext fun a => propext (h a)]

/-- The decimal type of two texts, which is misread in these two ways. -/
theorem agrees_decimalTexts (u : UnicodeData) (columnName x y : Text) :
    Agrees
      (match parseInt u x, parseInt u y with
      | some precision, some scale =>
        if precision ≤ 0 ∨ maxDecimalPrecision < precision ∨ scale < 0 ∨ precision < scale then
          .error (invalidArgument "decimal" " bounds" columnName)
        else .ok (.decimal128 precision scale)
      | _, _ => .error (invalidArgument "decimal" " type" columnName))
      (fun t => IsNumeral x ∧ IsNumeral y ∧ DecimalBounds (numeralValue x) (numeralValue y) ∧
        t = ArrowType.decimal128 (numeralValue x) (numeralValue y)) ↔
    ¬ ((∃ p s, parseInt u x = some p ∧ parseInt u y = some s ∧ DecimalBounds p s ∧
          ¬ (IsNumeral x ∧ IsNumeral y)) ∨
        (IsNumeral x ∧ IsNumeral y ∧ DecimalBounds (numeralValue x) (numeralValue y) ∧
          (maxStrDigits < x.length ∨ maxStrDigits < y.length))) := by
  by_cases hread : ∃ p s, parseInt u x = some p ∧ parseInt u y = some s
  · obtain ⟨p, s, hp, hs⟩ := hread
    have hshort : IsNumeral x → IsNumeral y →
        p = numeralValue x ∧ s = numeralValue y ∧
          ¬ (maxStrDigits < x.length ∨ maxStrDigits < y.length) := by
      intro hx hy
      obtain ⟨hxl, hxv⟩ := value_of_parseInt hx hp
      obtain ⟨hyl, hyv⟩ := value_of_parseInt hy hs
      exact ⟨hxv, hyv, by omega⟩
    simp only [hp, hs]
    by_cases hbounds : DecimalBounds p s
    · have hif : ¬ (p ≤ 0 ∨ (maxDecimalPrecision : Int) < p ∨ s < 0 ∨ p < s) := by
        unfold DecimalBounds at hbounds
        omega
      rw [if_neg hif, agrees_ok]
      constructor
      · intro h
        obtain ⟨hx, hy, -⟩ := (h _).mpr rfl
        rintro (⟨p', s', -, -, -, hno⟩ | ⟨-, -, -, hlong⟩)
        · exact hno ⟨hx, hy⟩
        · exact (hshort hx hy).2.2 hlong
      · intro h b
        have hplain : IsNumeral x ∧ IsNumeral y := by
          by_contra hno
          exact h (Or.inl ⟨p, s, rfl, rfl, hbounds, hno⟩)
        obtain ⟨hxv, hyv, -⟩ := hshort hplain.1 hplain.2
        rw [← hxv, ← hyv]
        exact ⟨fun hb => hb.2.2.2, fun hb => ⟨hplain.1, hplain.2, hbounds, hb⟩⟩
    · have hif : p ≤ 0 ∨ (maxDecimalPrecision : Int) < p ∨ s < 0 ∨ p < s := by
        unfold DecimalBounds at hbounds
        omega
      rw [if_pos hif, agrees_error rfl]
      refine iff_of_true ?_ ?_
      · intro t ht
        obtain ⟨hx, hy, hb, -⟩ := ht
        obtain ⟨hxv, hyv, -⟩ := hshort hx hy
        rw [← hxv, ← hyv] at hb
        exact hbounds hb
      · rintro (⟨p', s', hp', hs', hb, -⟩ | ⟨hx, hy, -, hlong⟩)
        · rw [← Option.some.inj hp', ← Option.some.inj hs'] at hb
          exact hbounds hb
        · exact (hshort hx hy).2.2 hlong
  · have hresult : (match parseInt u x, parseInt u y with
        | some precision, some scale =>
          if precision ≤ 0 ∨ maxDecimalPrecision < precision ∨ scale < 0 ∨ precision < scale then
            .error (invalidArgument "decimal" " bounds" columnName)
          else .ok (.decimal128 precision scale)
        | _, _ => .error (invalidArgument "decimal" " type" columnName)) =
        (.error (invalidArgument "decimal" " type" columnName) : Except PyException ArrowType) := by
      cases hx : parseInt u x with
      | none => rfl
      | some p =>
        cases hy : parseInt u y with
        | none => rfl
        | some s => exact absurd ⟨p, s, hx, hy⟩ hread
    rw [hresult, agrees_error rfl]
    constructor
    · intro h
      rintro (⟨p, s, hp, hs, -⟩ | ⟨hx, hy, hb, -⟩)
      · exact hread ⟨p, s, hp, hs⟩
      · exact h _ ⟨hx, hy, hb, rfl⟩
    · intro h t ht
      obtain ⟨hx, hy, hb, -⟩ := ht
      refine h (Or.inr ⟨hx, hy, hb, ?_⟩)
      rcases parseInt_cases hx u with ⟨hlong, -⟩ | ⟨-, hp⟩
      · exact Or.inl hlong
      · rcases parseInt_cases hy u with ⟨hlong, -⟩ | ⟨-, hs⟩
        · exact Or.inr hlong
        · exact absurd ⟨_, _, hp, hs⟩ hread

theorem agrees_decimalToArrow (u : CaseData) (columnName arguments : Text) :
    Agrees (decimalToArrow u (some arguments) columnName)
      (fun t => ∃ p s x y, arguments.splitOn (PyChar.scalar ',') = [x, y] ∧ Numeral p x ∧
        Numeral s y ∧ 1 ≤ p ∧ p ≤ maxDecimalPrecision ∧ s ≤ p ∧ t = .decimal128 p s) ↔
    ¬ MisreadDecimal u arguments := by
  by_cases htwo : ∃ x y, arguments.splitOn (PyChar.scalar ',') = [x, y]
  · obtain ⟨x, y, hsplit⟩ := htwo
    have hunique : ∀ {x' y' : Text}, arguments.splitOn (PyChar.scalar ',') = [x', y'] →
        x = x' ∧ y = y' := by
      intro x' y' h
      rw [hsplit] at h
      simpa using h
    have hdenotes : ∀ t : ArrowType,
        (∃ p s x' y', arguments.splitOn (PyChar.scalar ',') = [x', y'] ∧ Numeral p x' ∧
          Numeral s y' ∧ 1 ≤ p ∧ p ≤ maxDecimalPrecision ∧ s ≤ p ∧ t = .decimal128 p s) ↔
        (IsNumeral (Text.strip x) ∧ IsNumeral (Text.strip y) ∧
          DecimalBounds (numeralValue (Text.strip x)) (numeralValue (Text.strip y)) ∧
          t = .decimal128 (numeralValue (Text.strip x)) (numeralValue (Text.strip y))) := by
      intro t
      constructor
      · intro h
        obtain ⟨p, s, x', y', hsplit', hp, hs, hmin, hmax, hscale, ht⟩ := h
        obtain ⟨rfl, rfl⟩ := hunique hsplit'
        obtain ⟨hx, rfl⟩ := numeral_iff.mp hp
        obtain ⟨hy, rfl⟩ := numeral_iff.mp hs
        exact ⟨hx, hy, ⟨by omega, by omega, by omega, by omega⟩, ht⟩
      · intro h
        obtain ⟨hx, hy, ⟨hmin, hmax, -, hscale⟩, ht⟩ := h
        exact ⟨_, _, x, y, hsplit, numeral_iff.mpr ⟨hx, rfl⟩, numeral_iff.mpr ⟨hy, rfl⟩, by omega,
          by omega, by omega, ht⟩
    have hmap : (arguments.splitOn (PyChar.scalar ',')).map Text.strip =
        [Text.strip x, Text.strip y] := by rw [hsplit]; rfl
    rw [agrees_congr hdenotes]
    simp only [decimalToArrow, hmap]
    rw [agrees_decimalTexts, not_iff_not]
    constructor
    · intro h
      exact ⟨x, y, hsplit, h⟩
    · intro h
      obtain ⟨x', y', hsplit', h⟩ := h
      obtain ⟨rfl, rfl⟩ := hunique hsplit'
      exact h
  · have hresult : decimalToArrow u (some arguments) columnName =
        .error (invalidArgument "decimal" " type" columnName) := by
      simp only [decimalToArrow]
      split
      · next x y hmap =>
        obtain ⟨x', rest, hx, -, hrest⟩ := List.map_eq_cons_iff.mp hmap
        obtain ⟨y', others, hy, -, hnone⟩ := List.map_eq_cons_iff.mp hrest
        rw [List.map_eq_nil_iff.mp hnone] at hy
        rw [hy] at hx
        exact absurd ⟨x', y', hx⟩ htwo
      · rfl
    rw [hresult, agrees_error rfl]
    refine iff_of_true ?_ ?_
    · intro t ht
      obtain ⟨p, s, x, y, hsplit, -⟩ := ht
      exact htwo ⟨x, y, hsplit⟩
    · intro h
      obtain ⟨x, y, hsplit, -⟩ := h
      exact htwo ⟨x, y, hsplit⟩

/-! ## The whole mapping -/

theorem isTypeName_simpleTypes : ∀ p ∈ simpleTypes, IsTypeName p.1 := by decide +kernel

theorem isTypeName_stringLengthLimits : ∀ p ∈ stringLengthLimits, IsTypeName p.1 := by decide

theorem isTypeName_datetimeTypes : ∀ name ∈ datetimeTypes, IsTypeName name := by decide

theorem isTypeName_decimalTypes : ∀ name ∈ decimalTypes, IsTypeName name := by decide

theorem lookup_simpleTypes : ∀ p ∈ simpleTypes, simpleTypes.lookup p.1 = some p.2 := by decide +kernel

theorem lookup_stringLengthLimits :
    ∀ p ∈ stringLengthLimits, stringLengthLimits.lookup p.1 = some p.2 := by decide

theorem mem_of_lookup {α β : Type} [BEq α] [LawfulBEq α] {l : List (α × β)} {a : α} {b : β}
    (h : l.lookup a = some b) : (a, b) ∈ l := by
  obtain ⟨l₁, l₂, rfl, -⟩ := List.lookup_eq_some_iff.mp h
  exact List.mem_append_right _ List.mem_cons_self

/-- A bare name is its own text when nothing trails it. -/
theorem patternRest_none {base space t : Text} (htrim : Trimmed t) (hspace : White space)
    (h : t = base ++ patternRest space none) : t = base := by
  rcases List.eq_nil_or_concat space with hnil | ⟨front, c, hlast⟩
  · rw [h, patternRest, hnil, List.append_nil]
  · rw [List.concat_eq_append] at hlast
    exfalso
    have hc := htrim.2 c (by rw [h, patternRest, hlast, ← List.append_assoc, List.getLast?_concat])
    rw [hspace c (by rw [hlast]; exact List.mem_append_right _ (List.mem_singleton_self c))] at hc
    cases hc

/-- The pattern takes a bare name. -/
theorem typePattern?_name {name : Text} (h : IsTypeName name) :
    typePattern? name = some (name, none) := by
  have htext : typePattern? (name ++ patternRest [] none) = some (name, none) :=
    typePattern?_text h (fun c hc => absurd hc List.not_mem_nil) (fun a ha => absurd ha (by simp))
  rwa [patternRest, List.append_nil] at htext

/-- The grammar by the groups of the pattern. -/
theorem declares_iff {t base : Text} {arguments : Option Text} (htrim : Trimmed t)
    (h : typePattern? t = some (base, arguments)) (type : ArrowType) :
    Declares t type ↔
      (arguments = none ∧ simpleTypes.lookup base = some type) ∨
      (∃ a limit, arguments = some a ∧ stringLengthLimits.lookup base = some limit ∧
        ∃ n, Numeral n a ∧ 1 ≤ n ∧ n ≤ limit ∧ type = .string) ∨
      (base ∈ datetimeTypes ∧ arguments = none ∧ type = .timestampMicros) ∨
      (base ∈ datetimeTypes ∧ ∃ a, arguments = some a ∧
        ∃ n, Numeral n a ∧ 0 ≤ n ∧ n ≤ maxDatetimePrecision ∧ type = .timestampMicros) ∨
      (base ∈ decimalTypes ∧ ∃ a, arguments = some a ∧
        ∃ p s x y, a.splitOn (PyChar.scalar ',') = [x, y] ∧ Numeral p x ∧ Numeral s y ∧ 1 ≤ p ∧
          p ≤ maxDecimalPrecision ∧ s ≤ p ∧ type = .decimal128 p s) := by
  have hone : ∀ {name : Text} {n : Nat}, IsTypeName name → Applied name [n] t →
      name = base ∧ ∃ a, arguments = some a ∧ Numeral n a := by
    intro name n hname happlied
    obtain ⟨hbase, parts, hparts, harguments⟩ := (applied_iff h hname).mp happlied
    exact ⟨hbase, _, harguments, forall₂_one.mp ⟨parts, hparts, rfl⟩⟩
  constructor
  · intro hdeclares
    cases hdeclares with
    | simple hname =>
      obtain ⟨hbase, harguments⟩ := Prod.mk.inj (Option.some.inj
        ((typePattern?_name (isTypeName_simpleTypes _ hname)).symm.trans h))
      rw [← hbase]
      exact Or.inl ⟨harguments.symm, lookup_simpleTypes _ hname⟩
    | string hname happlied hmin hmax =>
      obtain ⟨rfl, a, harguments, hnumeral⟩ :=
        hone (isTypeName_stringLengthLimits _ hname) happlied
      exact Or.inr (Or.inl ⟨a, _, harguments, lookup_stringLengthLimits _ hname, _, hnumeral, hmin,
        hmax, rfl⟩)
    | datetime hname =>
      obtain ⟨hbase, harguments⟩ := Prod.mk.inj (Option.some.inj
        ((typePattern?_name (isTypeName_datetimeTypes _ hname)).symm.trans h))
      rw [← hbase]
      exact Or.inr (Or.inr (Or.inl ⟨hname, harguments.symm, rfl⟩))
    | datetimePrecision hname happlied hmax =>
      obtain ⟨rfl, a, harguments, hnumeral⟩ := hone (isTypeName_datetimeTypes _ hname) happlied
      exact Or.inr (Or.inr (Or.inr (Or.inl ⟨hname, a, harguments, _, hnumeral, Nat.zero_le _, hmax,
        rfl⟩)))
    | decimal hname happlied hmin hmax hscale =>
      obtain ⟨rfl, parts, hparts, harguments⟩ :=
        (applied_iff h (isTypeName_decimalTypes _ hname)).mp happlied
      obtain ⟨x, y, hsplit, hp, hs⟩ := forall₂_two.mp ⟨parts, hparts, rfl⟩
      exact Or.inr (Or.inr (Or.inr (Or.inr ⟨hname, _, harguments, _, _, x, y, hsplit, hp, hs, hmin,
        hmax, hscale, rfl⟩)))
  · intro hparts
    have hbare : arguments = none → t = base := by
      intro hnone
      obtain ⟨-, -, space, hspace, ht⟩ := typePattern?_eq_some h
      rw [hnone] at ht
      exact patternRest_none htrim hspace ht
    rcases hparts with ⟨hnone, hlookup⟩ | ⟨a, limit, hsome, hlookup, n, hn, hmin, hmax, rfl⟩ |
      ⟨hname, hnone, rfl⟩ | ⟨hname, a, hsome, n, hn, -, hmax, rfl⟩ |
      ⟨hname, a, hsome, p, s, x, y, hsplit, hp, hs, hmin, hmax, hscale, rfl⟩
    · rw [hbare hnone]
      exact .simple (mem_of_lookup hlookup)
    · have hname := mem_of_lookup hlookup
      obtain ⟨parts, hparts, ha⟩ := forall₂_one.mpr hn
      exact .string hname ((applied_iff h (isTypeName_stringLengthLimits _ hname)).mpr
        ⟨rfl, parts, hparts, hsome.trans ha⟩) hmin hmax
    · rw [hbare hnone]
      exact .datetime hname
    · obtain ⟨parts, hparts, ha⟩ := forall₂_one.mpr hn
      exact .datetimePrecision hname ((applied_iff h (isTypeName_datetimeTypes _ hname)).mpr
        ⟨rfl, parts, hparts, hsome.trans ha⟩) hmax
    · obtain ⟨parts, hparts, ha⟩ := forall₂_two.mpr ⟨x, y, hsplit, hp, hs⟩
      exact .decimal hname ((applied_iff h (isTypeName_decimalTypes _ hname)).mpr
        ⟨rfl, parts, hparts, hsome.trans ha⟩) hmin hmax hscale

theorem exists_typePattern? {t : Text} {type : ArrowType} (h : Declares t type) :
    ∃ groups, typePattern? t = some groups := by
  have happ : ∀ {name : Text} {ns : List Nat}, IsTypeName name → Applied name ns t →
      ∃ groups, typePattern? t = some groups := by
    intro name ns hname happlied
    obtain ⟨space, parts, hspace, hparts, ht⟩ := happlied
    refine ⟨(name, some (Text.join (str ",") parts)), ?_⟩
    rw [show t = name ++ patternRest space (some (Text.join (str ",") parts)) by
      rw [ht, patternRest]; simp only [List.append_assoc]]
    exact typePattern?_text hname hspace fun a ha => Option.some.inj ha ▸ not_mem_join hparts
  cases h with
  | simple hname => exact ⟨_, typePattern?_name (isTypeName_simpleTypes _ hname)⟩
  | string hname happlied => exact happ (isTypeName_stringLengthLimits _ hname) happlied
  | datetime hname => exact ⟨_, typePattern?_name (isTypeName_datetimeTypes _ hname)⟩
  | datetimePrecision hname happlied => exact happ (isTypeName_datetimeTypes _ hname) happlied
  | decimal hname happlied => exact happ (isTypeName_decimalTypes _ hname) happlied

/-- What follows the name in the pattern starts with white space or a parenthesis. -/
theorem typePattern?_base {name rest base : Text} {arguments : Option Text}
    (hname : ∀ c ∈ name, isTypeChar c = true)
    (hrest : ∀ c, rest.head? = some c → ¬ isTypeChar c = true)
    (h : typePattern? (name ++ rest) = some (base, arguments)) :
    base = name ∧ ∃ space, White space ∧ rest = patternRest space arguments := by
  obtain ⟨hbase, -, space, hspace, ht⟩ := typePattern?_eq_some h
  obtain ⟨htake, hdrop⟩ := takeWhile_name hname hrest
  obtain ⟨htake', hdrop'⟩ := takeWhile_name hbase.2 (patternRest_head hspace arguments)
  rw [ht] at htake hdrop
  exact ⟨htake'.symm.trans htake, space, hspace, hdrop.symm.trans hdrop'⟩

/-- No text with an unsupported prefix is in the pattern. -/
theorem not_prefix_of_pattern {t base : Text} {arguments : Option Text}
    (h : typePattern? t = some (base, arguments)) :
    ¬ (unsupportedPrefixes.any (·.isPrefixOf t)) = true := by
  intro hany
  obtain ⟨unsupported, hmem, hpre⟩ := List.any_eq_true.mp hany
  obtain ⟨rest, rfl⟩ := List.isPrefixOf_iff_prefix.mp hpre
  obtain ⟨name, hname, rfl⟩ : ∃ name, (∀ c ∈ name, isTypeChar c = true) ∧
      unsupported = name ++ str "<" := by
    have hall : ∀ p ∈ unsupportedPrefixes,
        (∀ c ∈ p.dropLast, isTypeChar c = true) ∧ p = p.dropLast ++ str "<" := by decide
    exact ⟨_, hall _ hmem⟩
  rw [List.append_assoc] at h
  obtain ⟨-, space, hspace, hrest⟩ := typePattern?_base hname
    (fun c hc => by rw [← Option.some.inj hc]; decide) h
  cases space with
  | cons c space =>
    have hc : PyChar.scalar '<' = c := by
      cases arguments with
      | none => exact (List.cons.inj hrest).1
      | some a => exact (List.cons.inj hrest).1
    have := hspace c List.mem_cons_self
    rw [← hc] at this
    exact absurd this (by decide)
  | nil =>
    cases arguments with
    | none => cases hrest
    | some a => exact absurd (List.cons.inj hrest).1 (by decide)

/-- The types that are always rejected. -/
def rejectedTypes : List Text :=
  ["ARRAY", "MAP", "STRUCT", "LARGEINT", "VARIANT", "AGG_STATE", "BITMAP", "HLL",
    "QUANTILE_STATE"].map str

/-- The mapping accepts exactly what the grammar declares, raises nothing but
`SchemaError`, and rejects some types whatever their arguments. -/
structure MapsExactly (u : CaseData) (dorisType columnName : Text) : Prop where
  agrees : Agrees (dorisTypeToArrow u dorisType columnName) (Declares (normalizedType u dorisType))
  rejects : ∀ name ∈ rejectedTypes, ∀ rest,
    (∀ c, rest.head? = some c → ¬ isTypeChar c = true) → normalizedType u dorisType = name ++ rest →
    ∃ e, dorisTypeToArrow u dorisType columnName = .error e ∧ e.kind? = some .schema

/-! The families of base names do not overlap. -/

theorem simpleTypes_disjoint : ∀ p ∈ simpleTypes, p.1 ∉ unsupportedTypes ∧
    stringLengthLimits.lookup p.1 = none ∧ p.1 ∉ datetimeTypes ∧ p.1 ∉ decimalTypes ∧
      p.1 ∉ argumentBounds.map Prod.fst := by decide +kernel

theorem stringLengthLimits_disjoint : ∀ p ∈ stringLengthLimits, p.1 ∉ unsupportedTypes ∧
    simpleTypes.lookup p.1 = none ∧ p.1 ∉ datetimeTypes ∧ p.1 ∉ decimalTypes ∧
      (p.1, 1, p.2) ∈ argumentBounds ∧ ∀ q ∈ argumentBounds, q.1 = p.1 → q.2 = (1, p.2) := by
  decide +kernel

theorem datetimeTypes_disjoint : ∀ name ∈ datetimeTypes, name ∉ unsupportedTypes ∧
    simpleTypes.lookup name = none ∧ stringLengthLimits.lookup name = none ∧ name ∉ decimalTypes ∧
      (name, 0, maxDatetimePrecision) ∈ argumentBounds ∧
      ∀ q ∈ argumentBounds, q.1 = name → q.2 = (0, maxDatetimePrecision) := by decide +kernel

theorem decimalTypes_disjoint : ∀ name ∈ decimalTypes, name ∉ unsupportedTypes ∧
    simpleTypes.lookup name = none ∧ stringLengthLimits.lookup name = none ∧
      name ∉ datetimeTypes := by decide +kernel

theorem argumentBounds_families : ∀ q ∈ argumentBounds,
    stringLengthLimits.lookup q.1 ≠ none ∨ q.1 ∈ datetimeTypes := by decide +kernel

section Families

variable {u : CaseData} {dorisType columnName base : Text} {arguments : Option Text}

theorem dorisTypeToArrow_none (h : typePattern? (normalizedType u dorisType) = none) :
    dorisTypeToArrow u dorisType columnName =
      .error (unsupportedType "unsupported" dorisType columnName) := by
  simp only [dorisTypeToArrow, h, ite_self]

variable (h : typePattern? (normalizedType u dorisType) = some (base, arguments))

include h

theorem dorisTypeToArrow_unsupported (hbase : base ∈ unsupportedTypes) :
    dorisTypeToArrow u dorisType columnName =
      .error (unsupportedType "unsupported" dorisType columnName) := by
  simp only [dorisTypeToArrow, h, if_neg (not_prefix_of_pattern h), if_pos hbase]

theorem dorisTypeToArrow_simple {type : ArrowType} (hlookup : simpleTypes.lookup base = some type) :
    dorisTypeToArrow u dorisType columnName =
      if arguments ≠ none then .error (unsupportedType "invalid" dorisType columnName)
      else .ok type := by
  have hsupported : base ∉ unsupportedTypes :=
    (simpleTypes_disjoint _ (mem_of_lookup hlookup)).1
  simp only [dorisTypeToArrow, h, if_neg (not_prefix_of_pattern h), if_neg hsupported, hlookup]

theorem dorisTypeToArrow_string {limit : Nat}
    (hlookup : stringLengthLimits.lookup base = some limit) :
    dorisTypeToArrow u dorisType columnName = (do
      let _ ← boundedIntegerArgument u arguments "string" columnName 1 limit
      .ok .string) := by
  obtain ⟨hsupported, hsimple, -⟩ := stringLengthLimits_disjoint _ (mem_of_lookup hlookup)
  simp only [dorisTypeToArrow, h, if_neg (not_prefix_of_pattern h), if_neg hsupported, hsimple,
    hlookup]

theorem dorisTypeToArrow_datetime (hname : base ∈ datetimeTypes) :
    dorisTypeToArrow u dorisType columnName =
      if arguments ≠ none then do
        let _ ← boundedIntegerArgument u arguments "datetime" columnName 0 maxDatetimePrecision
        .ok .timestampMicros
      else .ok .timestampMicros := by
  obtain ⟨hsupported, hsimple, hstring, -⟩ := datetimeTypes_disjoint _ hname
  simp only [dorisTypeToArrow, h, if_neg (not_prefix_of_pattern h), if_neg hsupported, hsimple,
    hstring, if_pos hname]

theorem dorisTypeToArrow_decimal (hname : base ∈ decimalTypes) :
    dorisTypeToArrow u dorisType columnName = decimalToArrow u arguments columnName := by
  obtain ⟨hsupported, hsimple, hstring, hdatetime⟩ := decimalTypes_disjoint _ hname
  simp only [dorisTypeToArrow, h, if_neg (not_prefix_of_pattern h), if_neg hsupported, hsimple,
    hstring, if_neg hdatetime, if_pos hname]

theorem dorisTypeToArrow_other (hsimple : simpleTypes.lookup base = none)
    (hstring : stringLengthLimits.lookup base = none) (hdatetime : base ∉ datetimeTypes)
    (hdecimal : base ∉ decimalTypes) :
    dorisTypeToArrow u dorisType columnName =
      .error (unsupportedType "unsupported" dorisType columnName) := by
  simp only [dorisTypeToArrow, h, if_neg (not_prefix_of_pattern h), hsimple, hstring,
    if_neg hdatetime, if_neg hdecimal, ite_self]

end Families

theorem rejected_of_pattern {u : CaseData} {dorisType columnName base : Text}
    {arguments : Option Text}
    (h : typePattern? (normalizedType u dorisType) = some (base, arguments))
    (hbase : base ∈ rejectedTypes) :
    dorisTypeToArrow u dorisType columnName =
      .error (unsupportedType "unsupported" dorisType columnName) := by
  have hall : ∀ name ∈ rejectedTypes, name ∈ unsupportedTypes ∨
      (simpleTypes.lookup name = none ∧ stringLengthLimits.lookup name = none ∧
        name ∉ datetimeTypes ∧ name ∉ decimalTypes) := by decide +kernel
  rcases hall base hbase with hunsupported | ⟨hsimple, hstring, hdatetime, hdecimal⟩
  · exact dorisTypeToArrow_unsupported h hunsupported
  · exact dorisTypeToArrow_other h hsimple hstring hdatetime hdecimal

theorem rejects_all (u : CaseData) (dorisType columnName : Text) : ∀ name ∈ rejectedTypes, ∀ rest,
    (∀ c, rest.head? = some c → ¬ isTypeChar c = true) → normalizedType u dorisType = name ++ rest →
    ∃ e, dorisTypeToArrow u dorisType columnName = .error e ∧ e.kind? = some .schema := by
  intro name hname rest hrest ht
  refine ⟨unsupportedType "unsupported" dorisType columnName, ?_, rfl⟩
  cases hpattern : typePattern? (normalizedType u dorisType) with
  | none => exact dorisTypeToArrow_none hpattern
  | some groups =>
    obtain ⟨base, arguments⟩ := groups
    have hchars : ∀ name ∈ rejectedTypes, ∀ c ∈ name, isTypeChar c = true := by decide
    have hsplit := hpattern
    rw [ht] at hsplit
    obtain ⟨hbase, -⟩ := typePattern?_base (hchars name hname) hrest hsplit
    exact rejected_of_pattern hpattern (hbase ▸ hname)

theorem misread_iff {u : CaseData} {t base : Text} {arguments : Option Text}
    (h : typePattern? t = some (base, arguments)) :
    Misread u t ↔ ∃ a, arguments = some a ∧
      ((∃ low high, (base, low, high) ∈ argumentBounds ∧ MisreadArgument u low high a) ∨
        (base ∈ decimalTypes ∧ MisreadDecimal u a)) := by
  constructor
  · intro hmisread
    obtain ⟨base', a, hpattern, hcases⟩ := hmisread
    rw [h] at hpattern
    obtain ⟨rfl, harguments⟩ := Prod.mk.inj (Option.some.inj hpattern)
    exact ⟨a, harguments, hcases⟩
  · intro hparts
    obtain ⟨a, harguments, hcases⟩ := hparts
    rw [harguments] at h
    exact ⟨base, a, h, hcases⟩

/-- One argument family of the mapping, with or without its argument. -/
theorem misreadArgument_iff {u : CaseData} {base a : Text} {low high : Nat}
    (hmem : (base, low, high) ∈ argumentBounds)
    (hunique : ∀ q ∈ argumentBounds, q.1 = base → q.2 = (low, high)) (hdecimal : base ∉ decimalTypes) :
    ((∃ low high, (base, low, high) ∈ argumentBounds ∧ MisreadArgument u low high a) ∨
      (base ∈ decimalTypes ∧ MisreadDecimal u a)) ↔ MisreadArgument u low high a := by
  constructor
  · rintro (⟨low', high', hmem', hmisread⟩ | ⟨hname, -⟩)
    · obtain ⟨rfl, rfl⟩ := Prod.mk.inj (hunique _ hmem' rfl)
      exact hmisread
    · exact absurd hname hdecimal
  · intro hmisread
    exact Or.inl ⟨low, high, hmem, hmisread⟩

section Families

variable {u : CaseData} {dorisType columnName base : Text} {arguments : Option Text}

/-- A simple type never misreads. -/
theorem agrees_simple (htrim : Trimmed (normalizedType u dorisType))
    (hpattern : typePattern? (normalizedType u dorisType) = some (base, arguments))
    {type : ArrowType} (hsimple : simpleTypes.lookup base = some type) :
    Agrees (dorisTypeToArrow u dorisType columnName) (Declares (normalizedType u dorisType)) ↔
      ¬ Misread u (normalizedType u dorisType) := by
  obtain ⟨-, hstring, hdatetime, hdecimal, hargument⟩ :=
    simpleTypes_disjoint _ (mem_of_lookup hsimple)
  rw [agrees_congr (declares_iff htrim hpattern), misread_iff hpattern]
  have hnot : ¬ ∃ a, arguments = some a ∧
      ((∃ low high, (base, low, high) ∈ argumentBounds ∧ MisreadArgument u low high a) ∨
        (base ∈ decimalTypes ∧ MisreadDecimal u a)) := by
    rintro ⟨a, -, ⟨low, high, hmem, -⟩ | ⟨hname, -⟩⟩
    · exact hargument (List.mem_map_of_mem (f := Prod.fst) hmem)
    · exact hdecimal hname
  rw [dorisTypeToArrow_simple hpattern hsimple, iff_true_right hnot]
  cases arguments with
  | none =>
    rw [if_neg (not_not.mpr rfl), agrees_ok]
    intro type'
    simp [hsimple, hstring, hdatetime, hdecimal, eq_comm]
  | some a =>
    rw [if_pos (Option.some_ne_none a), agrees_error rfl]
    intro type'
    simp [hstring, hdatetime, hdecimal]

/-- The character types need their length. -/
theorem agrees_string (htrim : Trimmed (normalizedType u dorisType))
    (hpattern : typePattern? (normalizedType u dorisType) = some (base, arguments))
    {limit : Nat} (hstring : stringLengthLimits.lookup base = some limit) :
    Agrees (dorisTypeToArrow u dorisType columnName) (Declares (normalizedType u dorisType)) ↔
      ¬ Misread u (normalizedType u dorisType) := by
  obtain ⟨-, hsimple, hdatetime, hdecimal, hmem, hunique⟩ :=
    stringLengthLimits_disjoint _ (mem_of_lookup hstring)
  rw [agrees_congr (declares_iff htrim hpattern), misread_iff hpattern,
    dorisTypeToArrow_string hpattern hstring]
  cases arguments with
  | none =>
    rw [boundedIntegerArgument, error_bind, agrees_error rfl]
    refine iff_of_true (fun type' => by simp [hsimple, hdatetime, hdecimal]) ?_
    rintro ⟨a, hnone, -⟩
    cases hnone
  | some a =>
    simp only [Option.some.injEq, exists_eq_left', misreadArgument_iff hmem hunique hdecimal]
    rw [← agrees_boundedInteger u .string "string" columnName a 1 limit]
    refine agrees_congr fun type' => ?_
    simp [hstring, hdatetime, hdecimal]

/-- The time types may have a precision. -/
theorem agrees_datetime (htrim : Trimmed (normalizedType u dorisType))
    (hpattern : typePattern? (normalizedType u dorisType) = some (base, arguments))
    (hdatetime : base ∈ datetimeTypes) :
    Agrees (dorisTypeToArrow u dorisType columnName) (Declares (normalizedType u dorisType)) ↔
      ¬ Misread u (normalizedType u dorisType) := by
  obtain ⟨-, hsimple, hstring, hdecimal, hmem, hunique⟩ := datetimeTypes_disjoint _ hdatetime
  rw [agrees_congr (declares_iff htrim hpattern), misread_iff hpattern,
    dorisTypeToArrow_datetime hpattern hdatetime]
  cases arguments with
  | none =>
    rw [if_neg (not_not.mpr rfl), agrees_ok]
    refine iff_of_true (fun type' => by simp [hsimple, hdatetime, hdecimal]) ?_
    rintro ⟨a, hnone, -⟩
    cases hnone
  | some a =>
    rw [if_pos (Option.some_ne_none a)]
    simp only [Option.some.injEq, exists_eq_left', misreadArgument_iff hmem hunique hdecimal]
    rw [← agrees_boundedInteger u .timestampMicros "datetime" columnName a 0 maxDatetimePrecision]
    refine agrees_congr fun type' => ?_
    simp [hstring, hdatetime, hdecimal]

/-- The remaining names are those of decimal types and of types that are refused. -/
theorem agrees_decimal_or_other (htrim : Trimmed (normalizedType u dorisType))
    (hpattern : typePattern? (normalizedType u dorisType) = some (base, arguments))
    (hsimple : simpleTypes.lookup base = none) (hstring : stringLengthLimits.lookup base = none)
    (hdatetime : base ∉ datetimeTypes) :
    Agrees (dorisTypeToArrow u dorisType columnName) (Declares (normalizedType u dorisType)) ↔
      ¬ Misread u (normalizedType u dorisType) := by
  have hbounds : ∀ a, ¬ ∃ low high, (base, low, high) ∈ argumentBounds ∧
      MisreadArgument u low high a := by
    intro a h
    obtain ⟨low, high, hmem, -⟩ := h
    rcases argumentBounds_families _ hmem with hlimit | hname
    · exact hlimit hstring
    · exact hdatetime hname
  rw [agrees_congr (declares_iff htrim hpattern), misread_iff hpattern]
  by_cases hdecimal : base ∈ decimalTypes
  · rw [dorisTypeToArrow_decimal hpattern hdecimal]
    cases arguments with
    | none =>
      rw [decimalToArrow, agrees_error rfl]
      refine iff_of_true (fun type' => by simp [hsimple, hdatetime]) ?_
      rintro ⟨a, hnone, -⟩
      cases hnone
    | some a =>
      simp only [Option.some.injEq, exists_eq_left', hbounds a, false_or, hdecimal, true_and]
      rw [← agrees_decimalToArrow u columnName a]
      refine agrees_congr fun type' => ?_
      simp [hstring, hdatetime]
  · rw [dorisTypeToArrow_other hpattern hsimple hstring hdatetime hdecimal, agrees_error rfl]
    refine iff_of_true (fun type' => by simp [hsimple, hstring, hdatetime, hdecimal]) ?_
    rintro ⟨a, -, h | ⟨hname, -⟩⟩
    · exact hbounds a h
    · exact hdecimal hname

end Families

/-- The mapping is exact on a declaration if and only if it does not misread a number
in it. -/
theorem mapsExactly_iff (u : CaseData) (dorisType columnName : Text) :
    MapsExactly u dorisType columnName ↔ ¬ Misread u (normalizedType u dorisType) := by
  have hagrees : MapsExactly u dorisType columnName ↔
      Agrees (dorisTypeToArrow u dorisType columnName) (Declares (normalizedType u dorisType)) :=
    ⟨MapsExactly.agrees, fun h => ⟨h, rejects_all u dorisType columnName⟩⟩
  have htrim : Trimmed (normalizedType u dorisType) := (Text.trimmed_strip _).upper u
  rw [hagrees]
  cases hpattern : typePattern? (normalizedType u dorisType) with
  | none =>
    rw [dorisTypeToArrow_none hpattern, agrees_error rfl]
    refine iff_of_true ?_ ?_
    · intro type hdeclares
      obtain ⟨groups, hsome⟩ := exists_typePattern? hdeclares
      rw [hpattern] at hsome
      cases hsome
    · intro hmisread
      obtain ⟨base, a, hsome, -⟩ := hmisread
      rw [hpattern] at hsome
      cases hsome
  | some groups =>
    obtain ⟨base, arguments⟩ := groups
    cases hsimple : simpleTypes.lookup base with
    | some type => exact agrees_simple htrim hpattern hsimple
    | none =>
      cases hstring : stringLengthLimits.lookup base with
      | some limit => exact agrees_string htrim hpattern hstring
      | none =>
        by_cases hdatetime : base ∈ datetimeTypes
        · exact agrees_datetime htrim hpattern hdatetime
        · exact agrees_decimal_or_other htrim hpattern hsimple hstring hdatetime

/-- A superscript two is a digit, and `int` does not read it. -/
theorem not_mapsExactly_superscript :
    dorisTypeToArrow .superscriptTwo (str "VARCHAR(²)") (str "c") = .error .valueError ∧
    ¬ MapsExactly .superscriptTwo (str "VARCHAR(²)") (str "c") := by
  have hraises : dorisTypeToArrow .superscriptTwo (str "VARCHAR(²)") (str "c") =
      .error .valueError := by decide
  refine ⟨hraises, fun h => ?_⟩
  exact absurd (h.agrees.1 _ hraises) (by decide)

end Doris
end DaftOlap
