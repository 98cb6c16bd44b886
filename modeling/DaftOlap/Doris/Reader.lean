/-
Reading Doris predicates back.

In the MySQL style a literal is a placeholder, which takes the next parameter.  In
the Flight style it is a SQL literal of its own, which gives back its value up to the
text it was written as.
-/
import DaftOlap.Common.Reader
import DaftOlap.Doris.Statement

namespace DaftOlap
namespace Doris

open Python

/-! ## The MySQL style -/

/-- Read a placeholder against the parameters not yet used. -/
def readPlaceholder : LiteralReader (List PyValue) PyValue
  | [], _ => none
  | v :: unused, input => (expect (str "%s") input).map fun input => (v, unused, input)

/-- Read a predicate that uses up its parameters. -/
def readMysql (r : Text × List PyValue) : Option (Tree PyValue) :=
  match readWith readPlaceholder r.2 r.1 with
  | some (tree, []) => some tree
  | _ => none

theorem readsLiterals_mysql (final : List PyValue) :
    ReadsLiterals (writeLiteral .mysql) readPlaceholder id final
      fun params => final.drop params.length where
  extends_params := by
    intro params v t params' h
    obtain ⟨-, rfl⟩ := Prod.mk.inj (Except.ok.inj h)
    exact List.prefix_append _ _
  opens := by
    intro params v t params' _ h
    obtain ⟨rfl, -⟩ := Prod.mk.inj (Except.ok.inj h)
    exact ⟨_, _, rfl, by decide, by decide, by decide⟩
  reads := by
    intro params v t params' rest h hfinal _
    obtain ⟨rfl, rfl⟩ := Prod.mk.inj (Except.ok.inj h)
    obtain ⟨unused, rfl⟩ := hfinal
    have hbefore : (params ++ [v] ++ unused).drop params.length = v :: unused := by simp
    have hafter : (params ++ [v] ++ unused).drop (params ++ [v]).length = unused := by simp
    rw [hbefore, hafter, readPlaceholder, expect_append]
    rfl

/-- A predicate rendered in the MySQL style is read back. -/
theorem readMysql_renderPredicate {p : Predicate} {r : Text × List PyValue}
    (h : renderPredicate p .mysql = .ok r) : readMysql r = some (p.tree id) := by
  obtain ⟨t, final⟩ := r
  have hread := (readsLiterals_mysql final).readWith_renderWith h
  rw [List.drop_length, List.length_nil, List.drop_zero] at hread
  rw [readMysql, hread]

/-! ## The Flight style -/

/-- A SQL literal of a Flight statement. -/
inductive SqlLiteral
  | null
  | bool (b : Bool)
  | number (t : Text)
  | bytes (b : List UInt8)
  | text (t : Text)
deriving DecidableEq

/-- The SQL literal of a value: text, dates, times and UUIDs are their text. -/
def sqlLiteral : PyValue → SqlLiteral
  | .none => .null
  | .bool b => .bool b
  | .int z => .number (intText z)
  | .float f => .number (reprFloat f)
  | .decimal d => .number (strDecimal d)
  | .bytes b => .bytes b
  | .date d => .text (strDate d)
  | .datetime d t => .text (strDate d ++ str " " ++ strTime t)
  | .time t => .text (strTime t)
  | .str t => .text t
  | .uuid u => .text (strUuid u)
  | .other _ => .null

/-- Read the characters up to a single quote. -/
def readQuoted : Text → Option (List Char × Text)
  | [] => none
  | .surrogate _ :: _ => none
  | .scalar c :: rest =>
    if c = '\'' then some ([], rest) else (readQuoted rest).map fun r => (c :: r.1, r.2)

/-- Read the rest of `X'…'`. -/
def readBytes (input : Text) : Option (SqlLiteral × Unit × Text) := do
  let (digits, input) ← readQuoted input
  let bytes ← decodeHex? digits
  some (.bytes bytes, (), input)

/-- Read the rest of `from_base64('…')`. -/
def readText (input : Text) : Option (SqlLiteral × Unit × Text) := do
  let (encoded, input) ← readQuoted input
  let bytes ← decodeBase64? encoded
  let text ← Text.decodeUtf8? bytes
  let input ← expect (str ")") input
  some (.text text, (), input)

def readNumber (input : Text) : Option (SqlLiteral × Unit × Text) :=
  match input.takeWhile PyChar.isNumberChar with
  | [] => none
  | number => some (.number number, (), input.dropWhile PyChar.isNumberChar)

/-- Read a SQL literal, which its first character tells apart. -/
def readSqlLiteral : LiteralReader Unit SqlLiteral
  | _, [] => none
  | _, c :: input =>
    if c = 'N' then (expect (str "ULL") input).map fun input => (.null, (), input)
    else if c = 'T' then (expect (str "RUE") input).map fun input => (.bool true, (), input)
    else if c = 'F' then (expect (str "ALSE") input).map fun input => (.bool false, (), input)
    else if c = 'X' then (expect (str "'") input).bind readBytes
    else if c = 'f' then (expect (str "rom_base64('") input).bind readText
    else readNumber (c :: input)

/-- Read a predicate that has no parameters. -/
def readFlight (r : Text × List PyValue) : Option (Tree SqlLiteral) :=
  if r.2 = [] then (readWith readSqlLiteral () r.1).map Prod.fst else none

theorem readQuoted_map_scalar {cs : List Char} (h : '\'' ∉ cs) (rest : Text) :
    readQuoted (cs.map PyChar.scalar ++ (str "'" ++ rest)) = some (cs, rest) := by
  induction cs with
  | nil => rfl
  | cons c cs ih =>
    rw [List.mem_cons, not_or] at h
    rw [List.map_cons, List.cons_append, readQuoted, if_neg (Ne.symm h.1), ih h.2]
    rfl

theorem readSqlLiteral_bytes (bytes : List UInt8) (rest : Text) :
    readSqlLiteral () (str "X'" ++ (hexBytes bytes).map PyChar.scalar ++ str "'" ++ rest) =
      some (.bytes bytes, (), rest) := by
  have hquote : '\'' ∉ hexBytes bytes := fun hmem => (hexBytes_clean hmem).1 rfl
  have hopen : readSqlLiteral () (str "X'" ++ ((hexBytes bytes).map PyChar.scalar ++
      (str "'" ++ rest))) = readBytes ((hexBytes bytes).map PyChar.scalar ++ (str "'" ++ rest)) :=
    rfl
  rw [List.append_assoc, List.append_assoc, hopen, readBytes, readQuoted_map_scalar hquote]
  simp [decodeHex?_hexBytes]

theorem readSqlLiteral_text {t : Text} {bytes : List UInt8} (h : Text.encodeUtf8? t = some bytes)
    (rest : Text) :
    readSqlLiteral () (str "from_base64('" ++ (encodeBase64 bytes).map PyChar.scalar ++ str "')" ++
      rest) = some (.text t, (), rest) := by
  have hquote : '\'' ∉ encodeBase64 bytes := fun hmem => (encodeBase64_clean hmem).1 rfl
  have hopen : readSqlLiteral () (str "from_base64('" ++ ((encodeBase64 bytes).map PyChar.scalar ++
      (str "'" ++ (str ")" ++ rest)))) =
        readText ((encodeBase64 bytes).map PyChar.scalar ++ (str "'" ++ (str ")" ++ rest))) := rfl
  have hclose : str "')" ++ rest = str "'" ++ (str ")" ++ rest) := rfl
  rw [List.append_assoc, List.append_assoc, hclose, hopen, readText, readQuoted_map_scalar hquote]
  simp [decodeBase64?_encodeBase64, Text.decodeUtf8?_of_encodeUtf8? h]

/-- A number is read up to the first character that no number has. -/
theorem readSqlLiteral_number {t rest : Text} (hne : t ≠ []) (ht : IsNumberText t)
    (hrest : Terminates rest) : readSqlLiteral () (t ++ rest) = some (.number t, (), rest) := by
  obtain ⟨c, tail, rfl⟩ := List.exists_cons_of_ne_nil hne
  obtain ⟨d, after, rfl, hd⟩ := hrest
  have hstop : d.isNumberChar = false := by rcases hd with rfl | rfl | rfl <;> decide
  have htake : ((c :: tail) ++ d :: after).takeWhile PyChar.isNumberChar = c :: tail := by
    rw [List.takeWhile_append_of_pos ht, List.takeWhile_cons_of_neg (by simp [hstop]),
      List.append_nil]
  have hdrop : ((c :: tail) ++ d :: after).dropWhile PyChar.isNumberChar = d :: after := by
    rw [List.dropWhile_append_of_pos ht, List.dropWhile_cons_of_neg (by simp [hstop])]
  have hc : ∀ x : PyChar, x.isNumberChar = false → c ≠ x := by
    rintro x hx rfl
    rw [ht c List.mem_cons_self] at hx
    cases hx
  have hnumber : readSqlLiteral () (c :: tail ++ d :: after) =
      readNumber (c :: tail ++ d :: after) := by
    rw [List.cons_append, readSqlLiteral, if_neg (hc _ (by decide)), if_neg (hc _ (by decide)),
      if_neg (hc _ (by decide)), if_neg (hc _ (by decide)), if_neg (hc _ (by decide))]
  rw [hnumber, readNumber, htake, hdrop]

/-- Every literal the Flight renderer writes is read back as its SQL literal. -/
theorem readSqlLiteral_renderFlightLiteral {v : PyValue} {t rest : Text}
    (h : renderFlightLiteral v = .ok t) (hrest : Terminates rest) :
    readSqlLiteral () (t ++ rest) = some (sqlLiteral v, (), rest) := by
  have hstring : ∀ {s t : Text}, flightStringLiteral s = .ok t →
      readSqlLiteral () (t ++ rest) = some (.text s, (), rest) := by
    intro s t h
    unfold flightStringLiteral at h
    split at h
    · next encoded hencoded =>
      rw [← Except.ok.inj h]
      exact readSqlLiteral_text hencoded rest
    · cases h
  have htemporal : ∀ {v : PyValue} {s t : Text}, renderTemporalLiteral v s = .ok t →
      readSqlLiteral () (t ++ rest) = some (.text s, (), rest) := by
    intro v s t h
    unfold renderTemporalLiteral at h
    split at h
    · cases h
    · exact hstring h
  cases v with
  | none =>
    rw [← Except.ok.inj h]
    rfl
  | bool b =>
    rw [← Except.ok.inj h]
    cases b <;> rfl
  | int z =>
    rw [strInt_eq_ok h]
    exact readSqlLiteral_number (intText_ne_nil z) (isNumberText_intText z) hrest
  | float f =>
    simp only [renderFlightLiteral] at h
    split at h
    · next hf =>
      rw [← Except.ok.inj h]
      exact readSqlLiteral_number (reprFloat_ne_nil f) (isNumberText_reprFloat hf) hrest
    · cases h
  | decimal d =>
    simp only [renderFlightLiteral] at h
    split at h
    · next hd =>
      rw [← Except.ok.inj h]
      exact readSqlLiteral_number (strDecimal_ne_nil d) (isNumberText_strDecimal hd) hrest
    · cases h
  | bytes b =>
    rw [← Except.ok.inj h]
    exact readSqlLiteral_bytes b rest
  | date d => exact htemporal h
  | datetime d t => exact htemporal h
  | time t => exact htemporal h
  | str t => exact hstring h
  | uuid u => exact hstring h
  | other typeName => cases h

/-- A written literal opens with none of the characters a predicate or a name opens
with. -/
theorem renderFlightLiteral_opens {v : PyValue} {t : Text} (hnull : v ≠ .none)
    (h : renderFlightLiteral v = .ok t) :
    ∃ c tail, t = c :: tail ∧ c ≠ PyChar.scalar '`' ∧ c ≠ PyChar.scalar '(' ∧
      c ≠ PyChar.scalar 'N' := by
  have hread : readSqlLiteral () (t ++ str ")") = some (sqlLiteral v, (), str ")") :=
    readSqlLiteral_renderFlightLiteral h ⟨_, _, rfl, Or.inr (Or.inr rfl)⟩
  cases t with
  | nil =>
    -- nothing is read from the parenthesis alone
    have hnone : readSqlLiteral () ([] ++ str ")") = none := rfl
    rw [hnone] at hread
    cases hread
  | cons c tail =>
    refine ⟨c, tail, rfl, ?_, ?_, ?_⟩
    · rintro rfl
      have hnone : readSqlLiteral () (PyChar.scalar '`' :: tail ++ str ")") = none := rfl
      rw [hnone] at hread
      cases hread
    · rintro rfl
      have hnone : readSqlLiteral () (PyChar.scalar '(' :: tail ++ str ")") = none := rfl
      rw [hnone] at hread
      cases hread
    · rintro rfl
      have hword : readSqlLiteral () (PyChar.scalar 'N' :: tail ++ str ")") =
          (expect (str "ULL") (tail ++ str ")")).map fun input => (.null, (), input) := rfl
      rw [hword, Option.map_eq_some_iff] at hread
      obtain ⟨rest, -, hliteral⟩ := hread
      cases v with
      | none => exact hnull rfl
      | other typeName => cases h
      | _ => cases (Prod.mk.inj hliteral).1

theorem readsLiterals_flight (final : List PyValue) :
    ReadsLiterals (writeLiteral .flight) readSqlLiteral sqlLiteral final fun _ => () where
  extends_params := by
    intro params v t params' h
    obtain ⟨text, -, h⟩ := bind_eq_ok.mp h
    obtain ⟨-, rfl⟩ := Prod.mk.inj (Except.ok.inj h)
    exact List.prefix_rfl
  opens := by
    intro params v t params' hnull h
    obtain ⟨text, htext, h⟩ := bind_eq_ok.mp h
    obtain ⟨rfl, -⟩ := Prod.mk.inj (Except.ok.inj h)
    exact renderFlightLiteral_opens hnull htext
  reads := by
    intro params v t params' rest h _ hrest
    obtain ⟨text, htext, h⟩ := bind_eq_ok.mp h
    obtain ⟨rfl, -⟩ := Prod.mk.inj (Except.ok.inj h)
    exact readSqlLiteral_renderFlightLiteral htext hrest

/-- A predicate rendered in the Flight style is read back. -/
theorem readFlight_renderPredicate {p : Predicate} {r : Text × List PyValue}
    (h : renderPredicate p .flight = .ok r) : readFlight r = some (p.tree sqlLiteral) := by
  obtain ⟨t, final⟩ := r
  have hparams : final = [] := by
    have hwrite := ((renderWith_eq_ok_iff (str "%")).mp h).2
    exact (Prod.mk.inj (write_flight_eq_ok_iff.mp hwrite).2).2
  have hread := (readsLiterals_flight final).readWith_renderWith h
  rw [readFlight, if_pos hparams, hread]
  rfl

end Doris
end DaftOlap
