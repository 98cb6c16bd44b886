/-
JSON strings (`json.dumps` of a `str`, and how such text is read).

`json.dumps` writes ASCII only: what is no printable ASCII character is written as one or two
escapes of UTF-16 code units.  Reading joins a high and a low surrogate that stand beside each
other, so a text that has such a pair is read as another one.
-/
import DaftOlap.Python.Bytes

namespace DaftOlap
namespace Python

/-! ## Writing -/

/-- Four hexadecimal digits. -/
def hexDigits4 (n : Nat) : List Char :=
  [hexDigit (n / 4096), hexDigit (n / 256), hexDigit (n / 16), hexDigit n]

/-- The escape of a UTF-16 code unit. -/
def unitEscape (n : Nat) : List Char := '\\' :: 'u' :: hexDigits4 n

/-- `ESCAPE_DCT`. -/
def shortEscapes : List (Char × Char) :=
  [('\\', '\\'), ('"', '"'), ('\x08', 'b'), ('\x0c', 'f'), ('\n', 'n'), ('\r', 'r'), ('\t', 't')]

/-- What one character is written as. -/
def jsonEscape : PyChar → List Char
  | .surrogate s => unitEscape (0xD800 + s.val)
  | .scalar c =>
    match shortEscapes.lookup c with
    | some letter => ['\\', letter]
    | none =>
      if 0x20 ≤ c.toNat ∧ c.toNat ≤ 0x7E then [c]
      else if c.toNat < 0x10000 then unitEscape c.toNat
      else
        unitEscape (0xD800 + (c.toNat - 0x10000) / 1024) ++
          unitEscape (0xDC00 + (c.toNat - 0x10000) % 1024)

/-- `json.dumps(text)`. -/
def jsonString (t : Text) : List Char := '"' :: t.flatMap jsonEscape ++ ['"']

/-! ## Reading -/

/-- A code unit on its own. -/
def unitChar (n : Nat) : PyChar :=
  if h : 0xD800 ≤ n ∧ n < 0xE000 then .surrogate ⟨n - 0xD800, by omega⟩
  else .scalar (Char.ofNat n)

/-- The code unit of four hexadecimal digits. -/
def readUnit (a b c d : Char) : Option PyChar := do
  let a ← hexDigitValue? a
  let b ← hexDigitValue? b
  let c ← hexDigitValue? c
  let d ← hexDigitValue? d
  some (unitChar (a * 4096 + b * 256 + c * 16 + d))

/-- The rest of a string, code unit by code unit, and what follows it. -/
def readUnits : List Char → Option (Text × List Char)
  | '"' :: rest => some ([], rest)
  | '\\' :: 'u' :: a :: b :: c :: d :: rest => do
    let unit ← readUnit a b c d
    let (units, after) ← readUnits rest
    some (unit :: units, after)
  | '\\' :: letter :: rest => do
    let c ← (shortEscapes.map Prod.swap).lookup letter
    let (units, after) ← readUnits rest
    some (PyChar.scalar c :: units, after)
  | c :: rest =>
    if c = '\\' ∨ c.toNat < 0x20 then none
    else (readUnits rest).map fun r => (PyChar.scalar c :: r.1, r.2)
  | [] => none

/-- Surrogates beside each other, the first high and the second low. -/
def IsPair (high low : PyChar) : Prop :=
  (0xD800 ≤ high.ord ∧ high.ord < 0xDC00) ∧ (0xDC00 ≤ low.ord ∧ low.ord < 0xE000)

instance (high low : PyChar) : Decidable (IsPair high low) := inferInstanceAs (Decidable (_ ∧ _))

/-- The character of a pair. -/
def joinPair (high low : PyChar) : PyChar :=
  .scalar (Char.ofNat (0x10000 + (high.ord - 0xD800) * 1024 + (low.ord - 0xDC00)))

/-- Join the pairs of a text. -/
def joinPairs : Text → Text
  | high :: low :: rest =>
    if IsPair high low then joinPair high low :: joinPairs rest
    else high :: joinPairs (low :: rest)
  | [c] => [c]
  | [] => []

/-- The string a text begins with, and what follows it. -/
def readJsonString : List Char → Option (Text × List Char)
  | '"' :: rest => (readUnits rest).map fun r => (joinPairs r.1, r.2)
  | _ => none

/-! ## Code units -/

/-- The UTF-16 code units of a character. -/
def codeUnits : PyChar → Text
  | .surrogate s => [.surrogate s]
  | .scalar c =>
    if c.toNat < 0x10000 then [.scalar c]
    else [unitChar (0xD800 + (c.toNat - 0x10000) / 1024), unitChar (0xDC00 + (c.toNat - 0x10000) % 1024)]

theorem codeUnits_small {c : Char} (h : c.toNat < 0x10000) :
    codeUnits (.scalar c) = [.scalar c] := if_pos h

theorem codeUnits_large {c : Char} (h : ¬ c.toNat < 0x10000) :
    codeUnits (.scalar c) = [unitChar (0xD800 + (c.toNat - 0x10000) / 1024),
      unitChar (0xDC00 + (c.toNat - 0x10000) % 1024)] := if_neg h

/-- A character is a code point, and no surrogate. -/
theorem toNat_valid (c : Char) : c.toNat < 0xD800 ∨ 0xDFFF < c.toNat ∧ c.toNat < 0x110000 := c.valid

theorem toNat_lt (c : Char) : c.toNat < 0x110000 := by
  have := toNat_valid c
  omega

theorem readUnit_hexDigits {n : Nat} (h : n < 0x10000) :
    readUnit (hexDigit (n / 4096)) (hexDigit (n / 256)) (hexDigit (n / 16)) (hexDigit n) =
      some (unitChar n) := by
  have hvalue : n / 4096 % 16 * 4096 + n / 256 % 16 * 256 + n / 16 % 16 * 16 + n % 16 = n := by
    omega
  simp only [readUnit, hexDigitValue?_hexDigit, Option.bind_eq_bind, Option.bind_some, hvalue]

theorem readUnits_unitEscape {n : Nat} (h : n < 0x10000) (rest : List Char) :
    readUnits (unitEscape n ++ rest) = (readUnits rest).map fun r => (unitChar n :: r.1, r.2) := by
  show readUnits ('\\' :: 'u' :: hexDigit (n / 4096) :: hexDigit (n / 256) :: hexDigit (n / 16) ::
    hexDigit n :: rest) = _
  rw [readUnits, readUnit_hexDigits h]
  simp only [Option.bind_eq_bind, Option.bind_some]
  cases readUnits rest with
  | none => rfl
  | some r => rfl

theorem unitChar_scalar {c : Char} (h : c.toNat < 0x10000) : unitChar c.toNat = .scalar c := by
  have hnot : ¬ (0xD800 ≤ c.toNat ∧ c.toNat < 0xE000) := by
    have := toNat_valid c
    omega
  rw [unitChar, dif_neg hnot, Char.ofNat_toNat]

theorem mem_of_lookup {c letter : Char} {escapes : List (Char × Char)}
    (h : escapes.lookup c = some letter) : (c, letter) ∈ escapes := by
  induction escapes with
  | nil => cases h
  | cons entry escapes ih =>
    obtain ⟨key, value⟩ := entry
    rw [List.lookup_cons] at h
    by_cases hkey : c = key
    · rw [hkey, beq_self_eq_true] at h
      rw [hkey, ← Option.some.inj h]
      exact List.mem_cons_self
    · rw [beq_eq_false_iff_ne.mpr hkey] at h
      exact List.mem_cons_of_mem _ (ih h)

theorem readUnits_short {c letter : Char} (h : shortEscapes.lookup c = some letter)
    (rest : List Char) :
    readUnits ('\\' :: letter :: rest) = (readUnits rest).map fun r => (.scalar c :: r.1, r.2) := by
  have hmem := mem_of_lookup h
  have hback : ∀ entry ∈ shortEscapes, entry.2 ≠ 'u' ∧
      (shortEscapes.map Prod.swap).lookup entry.2 = some entry.1 := by decide
  obtain ⟨hu, hlookup⟩ := hback _ hmem
  rw [readUnits.eq_def]
  split
  · next heq => cases (List.cons.inj heq).1
  · next heq => exact absurd (List.cons.inj (List.cons.inj heq).2).1 hu
  · next heq =>
    obtain ⟨rfl, rfl⟩ := List.cons.inj (List.cons.inj heq).2
    rw [hlookup]
    simp only [Option.bind_eq_bind, Option.bind_some]
    cases readUnits rest with
    | none => rfl
    | some r => rfl
  · next hnone heq =>
    exact (hnone letter rest (List.cons.inj heq).1.symm (List.cons.inj heq).2.symm).elim
  · next heq => cases heq

theorem readUnits_plain {c : Char} (hquote : c ≠ '"') (hslash : c ≠ '\\') (hspace : 0x20 ≤ c.toNat)
    (rest : List Char) :
    readUnits (c :: rest) = (readUnits rest).map fun r => (.scalar c :: r.1, r.2) := by
  rw [readUnits.eq_def]
  split
  · next heq => exact absurd (List.cons.inj heq).1 hquote
  · next heq => exact absurd (List.cons.inj heq).1 hslash
  · next heq => exact absurd (List.cons.inj heq).1 hslash
  · next heq =>
    obtain ⟨rfl, rfl⟩ := List.cons.inj heq
    exact if_neg (by simp only [hslash, false_or]; omega)
  · next heq => cases heq

/-- What a character is written as is read as its code units. -/
theorem readUnits_jsonEscape (c : PyChar) (rest : List Char) :
    readUnits (jsonEscape c ++ rest) = (readUnits rest).map fun r => (codeUnits c ++ r.1, r.2) := by
  cases c with
  | surrogate s =>
    have hlt := s.isLt
    have hunit : unitChar (0xD800 + s.val) = .surrogate s := by
      rw [unitChar, dif_pos (by omega)]
      exact congrArg PyChar.surrogate (Fin.ext (by simp))
    rw [jsonEscape, readUnits_unitEscape (by omega), hunit]
    rfl
  | scalar c =>
    cases hshort : shortEscapes.lookup c with
    | some letter =>
      have hsmall : ∀ entry ∈ shortEscapes, entry.1.toNat < 0x10000 := by decide
      rw [jsonEscape, hshort, codeUnits_small (hsmall _ (mem_of_lookup hshort))]
      exact readUnits_short hshort rest
    | none =>
      simp only [jsonEscape, hshort]
      by_cases hprintable : 0x20 ≤ c.toNat ∧ c.toNat ≤ 0x7E
      · have hquote : c ≠ '"' := by
          intro heq
          rw [heq] at hshort
          cases hshort
        have hslash : c ≠ '\\' := by
          intro heq
          rw [heq] at hshort
          cases hshort
        rw [if_pos hprintable, codeUnits_small (by omega)]
        exact readUnits_plain hquote hslash hprintable.1 rest
      · rw [if_neg hprintable]
        by_cases hsmall : c.toNat < 0x10000
        · rw [if_pos hsmall, codeUnits_small hsmall, readUnits_unitEscape hsmall,
            unitChar_scalar hsmall]
          rfl
        · have hlt := toNat_lt c
          rw [if_neg hsmall, codeUnits_large hsmall, List.append_assoc,
            readUnits_unitEscape (by omega), readUnits_unitEscape (by omega), Option.map_map]
          rfl

/-- A written text is read as its code units. -/
theorem readUnits_flatMap (t : Text) (rest : List Char) :
    readUnits (t.flatMap jsonEscape ++ '"' :: rest) = some (t.flatMap codeUnits, rest) := by
  induction t with
  | nil => rfl
  | cons c t ih =>
    rw [List.flatMap_cons, List.append_assoc, readUnits_jsonEscape, ih]
    rfl

/-! ## Pairs -/

theorem ord_unitChar {n : Nat} (h : 0xD800 ≤ n ∧ n < 0xE000) : (unitChar n).ord = n := by
  rw [unitChar, dif_pos h]
  show 0xD800 + (n - 0xD800) = n
  omega

theorem joinPairs_cons {c : PyChar} {t : Text} (h : ∀ d ∈ t.head?, ¬ IsPair c d) :
    joinPairs (c :: t) = c :: joinPairs t := by
  cases t with
  | nil => rfl
  | cons d t => rw [joinPairs, if_neg (h d rfl)]

theorem codeUnits_of_isPair {high low : PyChar} (h : IsPair high low) :
    codeUnits high = [high] ∧ codeUnits low = [low] := by
  obtain ⟨hhigh, hlow⟩ := h
  cases high with
  | scalar c =>
    have := toNat_valid c
    simp only [PyChar.ord] at hhigh
    omega
  | surrogate s =>
    cases low with
    | scalar c =>
      have := toNat_valid c
      simp only [PyChar.ord] at hlow
      omega
    | surrogate s' => exact ⟨rfl, rfl⟩

/-- The first code unit of a character is no low surrogate but the character itself. -/
theorem head_codeUnits (c : PyChar) : ∃ unit rest, codeUnits c = unit :: rest ∧
    ∀ high, IsPair high unit → unit = c := by
  cases c with
  | surrogate s => exact ⟨_, _, rfl, fun _ _ => rfl⟩
  | scalar c =>
    by_cases hsmall : c.toNat < 0x10000
    · exact ⟨_, _, codeUnits_small hsmall, fun _ _ => rfl⟩
    · refine ⟨_, _, codeUnits_large hsmall, fun high hpair => ?_⟩
      have hlt := toNat_lt c
      have hlow := hpair.2
      rw [ord_unitChar (by omega)] at hlow
      omega

theorem joinPairs_units {c : PyChar} {t : Text} (h : ∀ d ∈ t.head?, ¬ IsPair c d) :
    joinPairs (codeUnits c ++ t) = c :: joinPairs t := by
  cases c with
  | surrogate s => exact joinPairs_cons h
  | scalar c =>
    by_cases hsmall : c.toNat < 0x10000
    · rw [codeUnits_small hsmall]
      exact joinPairs_cons h
    · have hlt := toNat_lt c
      have hhigh := @ord_unitChar (0xD800 + (c.toNat - 0x10000) / 1024) (by omega)
      have hlow := @ord_unitChar (0xDC00 + (c.toNat - 0x10000) % 1024) (by omega)
      have hpair : IsPair (unitChar (0xD800 + (c.toNat - 0x10000) / 1024))
          (unitChar (0xDC00 + (c.toNat - 0x10000) % 1024)) := by
        refine ⟨?_, ?_⟩
        · rw [hhigh]
          omega
        · rw [hlow]
          omega
      have hjoined : joinPair (unitChar (0xD800 + (c.toNat - 0x10000) / 1024))
          (unitChar (0xDC00 + (c.toNat - 0x10000) % 1024)) = .scalar c := by
        have hvalue : 0x10000 + (0xD800 + (c.toNat - 0x10000) / 1024 - 0xD800) * 1024 +
            (0xDC00 + (c.toNat - 0x10000) % 1024 - 0xDC00) = c.toNat := by omega
        rw [joinPair, hhigh, hlow, hvalue, Char.ofNat_toNat]
      rw [codeUnits_large hsmall]
      show joinPairs (_ :: _ :: t) = _
      rw [joinPairs, if_pos hpair, hjoined]

/-- Joining the code units of a text is joining its pairs. -/
theorem joinPairs_codeUnits (t : Text) : joinPairs (t.flatMap codeUnits) = joinPairs t := by
  induction t using joinPairs.induct with
  | case1 high low rest hpair ih =>
    obtain ⟨hhigh, hlow⟩ := codeUnits_of_isPair hpair
    rw [List.flatMap_cons, List.flatMap_cons, hhigh, hlow]
    show joinPairs (high :: low :: rest.flatMap codeUnits) = _
    rw [joinPairs, joinPairs, if_pos hpair, if_pos hpair, ih]
  | case2 high low rest hpair ih =>
    have hhead : ∀ d ∈ ((low :: rest).flatMap codeUnits).head?, ¬ IsPair high d := by
      intro d hd hpair'
      obtain ⟨unit, units, hunits, hfirst⟩ := head_codeUnits low
      rw [List.flatMap_cons, hunits] at hd
      obtain rfl : unit = d := Option.some.inj hd
      rw [hfirst high hpair'] at hpair'
      exact hpair hpair'
    rw [List.flatMap_cons, joinPairs_units hhead, ih, joinPairs, if_neg hpair]
  | case3 c =>
    rw [List.flatMap_cons, List.flatMap_nil, joinPairs_units fun d hd => by cases hd]
    rfl
  | case4 => rfl

theorem length_joinPairs_le (t : Text) : (joinPairs t).length ≤ t.length := by
  induction t using joinPairs.induct with
  | case1 high low rest hpair ih =>
    rw [joinPairs, if_pos hpair, List.length_cons, List.length_cons, List.length_cons]
    omega
  | case2 high low rest hpair ih =>
    rw [joinPairs, if_neg hpair]
    exact Nat.succ_le_succ ih
  | case3 c => exact le_rfl
  | case4 => exact le_rfl

/-- Nothing is joined in a text without pairs, and only there. -/
theorem joinPairs_eq_self_iff {t : Text} :
    joinPairs t = t ↔ t.IsChain fun high low => ¬ IsPair high low := by
  induction t using joinPairs.induct with
  | case1 high low rest hpair ih =>
    rw [joinPairs, if_pos hpair, List.isChain_cons_cons]
    refine iff_of_false (fun heq => ?_) fun hchain => hchain.1 hpair
    have hlength := congrArg List.length heq
    have hle := length_joinPairs_le rest
    simp only [List.length_cons] at hlength
    omega
  | case2 high low rest hpair ih =>
    rw [joinPairs, if_neg hpair, List.isChain_cons_cons, List.cons.injEq, ih]
    exact and_congr (iff_of_true rfl hpair) Iff.rfl
  | case3 c => exact iff_of_true rfl (.singleton c)
  | case4 => exact iff_of_true rfl .nil

/-- A written text is read as itself but for its pairs. -/
theorem readJsonString_jsonString (t : Text) (rest : List Char) :
    readJsonString (jsonString t ++ rest) = some (joinPairs t, rest) := by
  rw [jsonString, List.append_assoc]
  show (readUnits (t.flatMap jsonEscape ++ '"' :: rest)).map _ = _
  rw [readUnits_flatMap, Option.map_some, joinPairs_codeUnits]

example : String.ofList (jsonString (str "a\"\n\x7fé😀")) = "\"a\\\"\\n\\u007f\\u00e9\\ud83d\\ude00\"" := by
  decide

end Python
end DaftOlap
