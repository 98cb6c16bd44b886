/-
Percent-encoding (`urllib.parse.quote`), for text no reserved character of which is safe.

A quoted text has unreserved characters and escapes only, so it stays what it is between the
delimiters of a URL, and reading its escapes as bytes gives the text back.
-/
import DaftOlap.Python.Bytes

namespace DaftOlap
namespace Python

/-! ## Bytes -/

/-- `[A-Za-z0-9_.~-]`. -/
def isUnreserved (n : Nat) : Bool :=
  (48 ≤ n && n ≤ 57) || (65 ≤ n && n ≤ 90) || (97 ≤ n && n ≤ 122) || n == 45 || n == 46 ||
    n == 95 || n == 126

/-- An upper-case hexadecimal digit. -/
def upperHexDigit (n : Nat) : Char := (Nat.digitChar (n % 16)).toUpper

/-- The value of a hexadecimal digit. -/
def hexValue? (c : Char) : Option Nat := hexDigitValue? c.toLower

/-- A byte as itself or as its escape. -/
def quoteByte (b : UInt8) : List Char :=
  if isUnreserved b.toNat then [Char.ofNat b.toNat]
  else ['%', upperHexDigit (b.toNat / 16), upperHexDigit b.toNat]

/-- The bytes that a text of characters and escapes stands for. -/
def unquoteBytes? : List Char → Option (List UInt8)
  | [] => some []
  | '%' :: hi :: lo :: rest => do
    let h ← hexValue? hi
    let l ← hexValue? lo
    let bytes ← unquoteBytes? rest
    some (UInt8.ofNat (h * 16 + l) :: bytes)
  | c :: rest =>
    if c ≠ '%' ∧ c.toNat < 128 then (unquoteBytes? rest).map (UInt8.ofNat c.toNat :: ·) else none

theorem hexValue?_upperHexDigit (n : Nat) : hexValue? (upperHexDigit n) = some (n % 16) := by
  have hall : ∀ d, d < 16 → hexValue? (Nat.digitChar d).toUpper = some d := by decide
  exact hall _ (Nat.mod_lt _ (by decide))

theorem toNat_ofNat_byte (b : UInt8) : (Char.ofNat b.toNat).toNat = b.toNat := by
  have hlt := b.toNat_lt
  have hvalid : b.toNat.isValidChar := Or.inl (by omega)
  rw [Char.ofNat, dif_pos hvalid]
  rfl

theorem isUnreserved_spec {n : Nat} (h : isUnreserved n = true) : n ≠ 37 ∧ n ≠ 47 ∧ n < 128 := by
  simp only [isUnreserved, Bool.or_eq_true, Bool.and_eq_true, decide_eq_true_eq, beq_iff_eq] at h
  omega

theorem unquoteBytes?_cons {c : Char} {rest : List Char} (h : c ≠ '%') (hlt : c.toNat < 128) :
    unquoteBytes? (c :: rest) = (unquoteBytes? rest).map (UInt8.ofNat c.toNat :: ·) := by
  rw [unquoteBytes?.eq_def]
  split
  · cases ‹c :: rest = []›
  · next heq => exact absurd (List.cons.inj heq).1 h
  · next heq =>
    obtain ⟨rfl, rfl⟩ := List.cons.inj heq
    exact if_pos ⟨h, hlt⟩

theorem unquoteBytes?_quoteByte (b : UInt8) (rest : List Char) :
    unquoteBytes? (quoteByte b ++ rest) = (unquoteBytes? rest).map (b :: ·) := by
  have hlt := b.toNat_lt
  unfold quoteByte
  by_cases h : isUnreserved b.toNat = true
  · have hspec := isUnreserved_spec h
    have hne : Char.ofNat b.toNat ≠ '%' := by
      intro heq
      have htoNat := congrArg Char.toNat heq
      rw [toNat_ofNat_byte] at htoNat
      exact hspec.1 htoNat
    have hchar : (Char.ofNat b.toNat).toNat < 128 := by
      rw [toNat_ofNat_byte]
      exact hspec.2.2
    rw [if_pos h]
    show unquoteBytes? (Char.ofNat b.toNat :: rest) = _
    rw [unquoteBytes?_cons hne hchar, toNat_ofNat_byte, UInt8.ofNat_toNat]
  · rw [if_neg h]
    show unquoteBytes? ('%' :: upperHexDigit (b.toNat / 16) :: upperHexDigit b.toNat :: rest) = _
    have hvalue : b.toNat / 16 % 16 * 16 + b.toNat % 16 = b.toNat := by omega
    rw [unquoteBytes?, hexValue?_upperHexDigit, hexValue?_upperHexDigit]
    simp only [Option.bind_eq_bind, Option.bind_some, hvalue, UInt8.ofNat_toNat]
    cases unquoteBytes? rest with
    | none => rfl
    | some bytes => rfl

/-- Reading the escapes gives the bytes back. -/
theorem unquoteBytes?_flatMap (bytes : List UInt8) :
    unquoteBytes? (bytes.flatMap quoteByte) = some bytes := by
  induction bytes with
  | nil => rfl
  | cons b bytes ih => rw [List.flatMap_cons, unquoteBytes?_quoteByte, ih, Option.map_some]

/-- A quoted byte has no slash. -/
theorem slash_not_mem_quoteByte (b : UInt8) : '/' ∉ quoteByte b := by
  unfold quoteByte
  by_cases h : isUnreserved b.toNat = true
  · rw [if_pos h, List.mem_singleton]
    intro heq
    have htoNat := congrArg Char.toNat heq
    rw [toNat_ofNat_byte] at htoNat
    exact (isUnreserved_spec h).2.1 htoNat.symm
  · have hdigit : ∀ n, upperHexDigit n ≠ '/' := by
      intro n heq
      have hall : ∀ d, d < 16 → (Nat.digitChar d).toUpper ≠ '/' := by decide
      exact hall _ (Nat.mod_lt n (by decide)) heq
    rw [if_neg h]
    intro hmem
    simp only [List.mem_cons, List.not_mem_nil, or_false] at hmem
    rcases hmem with heq | heq | heq
    · cases heq
    · exact hdigit _ heq.symm
    · exact hdigit _ heq.symm

/-! ## Text -/

namespace Text

/-- `urllib.parse.quote(text, safe="")`, with `none` for `UnicodeEncodeError`. -/
def quote? (t : Text) : Option (List Char) := (encodeUtf8? t).map (·.flatMap quoteByte)

/-- What a quoted text is read as. -/
def unquote? (quoted : List Char) : Option Text := (unquoteBytes? quoted).bind decodeUtf8?

theorem unquote?_quote? {t : Text} {quoted : List Char} (h : quote? t = some quoted) :
    unquote? quoted = some t := by
  obtain ⟨bytes, hbytes, rfl⟩ := Option.map_eq_some_iff.mp h
  rw [unquote?, unquoteBytes?_flatMap, Option.bind_some, decodeUtf8?_of_encodeUtf8? hbytes]

theorem slash_not_mem_quote? {t : Text} {quoted : List Char} (h : quote? t = some quoted) :
    '/' ∉ quoted := by
  obtain ⟨bytes, -, rfl⟩ := Option.map_eq_some_iff.mp h
  intro hmem
  obtain ⟨b, -, hb⟩ := List.mem_flatMap.mp hmem
  exact slash_not_mem_quoteByte b hb

theorem exists_quote?_iff {t : Text} : (∃ quoted, quote? t = some quoted) ↔ ValidUtf8 t := by
  rw [quote?, encodeUtf8?, ValidUtf8]
  cases scalars? t with
  | none => exact iff_of_false (fun h => by cases h.choose_spec) fun h => by cases h
  | some cs => exact iff_of_true ⟨_, rfl⟩ rfl

end Text

example : (Text.quote? (str "a/b%é")).map String.ofList = some "a%2Fb%25%C3%A9" := by decide

end Python
end DaftOlap
