/-
Bytes as text: hexadecimal and Base64.

`hexBytes` is `bytes.hex()` and `encodeBase64` is `base64.b64encode`.  Each has a
reader that undoes it, and neither produces a quote or a percent sign.
-/
import DaftOlap.Python.Text
import Mathlib.Data.List.GetD
import Mathlib.Data.List.Nodup

namespace DaftOlap
namespace Python

/-! ## Hexadecimal -/

/-- A lower-case hexadecimal digit. -/
def hexDigit (n : Nat) : Char := Nat.digitChar (n % 16)

def hexDigitValue? (c : Char) : Option Nat :=
  if '0' ≤ c ∧ c ≤ '9' then some (c.toNat - 48)
  else if 'a' ≤ c ∧ c ≤ 'f' then some (c.toNat - 87)
  else none

def hexByte (b : UInt8) : List Char := [hexDigit (b.toNat / 16), hexDigit b.toNat]

/-- `bytes.hex()`. -/
def hexBytes (bytes : List UInt8) : List Char := bytes.flatMap hexByte

def decodeHex? : List Char → Option (List UInt8)
  | [] => some []
  | [_] => none
  | hi :: lo :: rest => do
    let h ← hexDigitValue? hi
    let l ← hexDigitValue? lo
    let bytes ← decodeHex? rest
    some (UInt8.ofNat (h * 16 + l) :: bytes)

theorem hexDigitValue?_hexDigit (n : Nat) : hexDigitValue? (hexDigit n) = some (n % 16) := by
  have hall : ∀ d, d < 16 → hexDigitValue? (Nat.digitChar d) = some d := by decide
  exact hall _ (Nat.mod_lt _ (by decide))

theorem decodeHex?_hexBytes (bytes : List UInt8) : decodeHex? (hexBytes bytes) = some bytes := by
  induction bytes with
  | nil => rfl
  | cons b bytes ih =>
    have hb : b.toNat < 256 := b.toNat_lt
    rw [hexBytes, List.flatMap_cons, ← hexBytes]
    simp only [hexByte, List.cons_append, List.nil_append, decodeHex?, hexDigitValue?_hexDigit, ih,
      Option.bind_eq_bind, Option.bind_some]
    have hvalue : b.toNat / 16 % 16 * 16 + b.toNat % 16 = b.toNat := by omega
    rw [hvalue, UInt8.ofNat_toNat]

theorem mem_hexBytes {c : Char} {bytes : List UInt8} (h : c ∈ hexBytes bytes) :
    ∃ n : Nat, c = Nat.digitChar n := by
  rw [hexBytes, List.mem_flatMap] at h
  obtain ⟨b, -, hc⟩ := h
  simp only [hexByte, List.mem_cons, List.not_mem_nil, or_false] at hc
  rcases hc with rfl | rfl <;> exact ⟨_, rfl⟩

/-! ## Base64 -/

def base64Alphabet : List Char :=
  "ABCDEFGHIJKLMNOPQRSTUVWXYZabcdefghijklmnopqrstuvwxyz0123456789+/".toList

/-- The Base64 character of a sextet. -/
def base64Char (n : Nat) : Char := base64Alphabet.getD (n % 64) 'A'

def base64Value? (c : Char) : Option Nat :=
  if c ∈ base64Alphabet then some (base64Alphabet.idxOf c) else none

/-- `base64.b64encode`, three bytes at a time. -/
def encodeBase64 : List UInt8 → List Char
  | [] => []
  | [a] => [base64Char (a.toNat / 4), base64Char (a.toNat % 4 * 16), '=', '=']
  | [a, b] =>
    [base64Char (a.toNat / 4), base64Char (a.toNat % 4 * 16 + b.toNat / 16),
      base64Char (b.toNat % 16 * 4), '=']
  | a :: b :: c :: rest =>
    base64Char (a.toNat / 4) :: base64Char (a.toNat % 4 * 16 + b.toNat / 16) ::
      base64Char (b.toNat % 16 * 4 + c.toNat / 64) :: base64Char c.toNat :: encodeBase64 rest

def decodeBase64? : List Char → Option (List UInt8)
  | [] => some []
  | w :: x :: y :: z :: rest => do
    let p ← base64Value? w
    let q ← base64Value? x
    let first := UInt8.ofNat (p * 4 + q / 16)
    if y = '=' ∧ z = '=' ∧ rest = [] then some [first]
    else do
      let r ← base64Value? y
      let second := UInt8.ofNat (q % 16 * 16 + r / 4)
      if z = '=' ∧ rest = [] then some [first, second]
      else do
        let s ← base64Value? z
        let bytes ← decodeBase64? rest
        some (first :: second :: UInt8.ofNat (r % 4 * 64 + s) :: bytes)
  | _ => none

theorem nodup_base64Alphabet : base64Alphabet.Nodup := by
  decide +kernel

/-- Neither the padding, a quote nor a percent sign is in the alphabet. -/
theorem base64Alphabet_clean : ∀ c ∈ base64Alphabet, c ≠ '=' ∧ c ≠ '\'' ∧ c ≠ '%' := by
  have hnot : '=' ∉ base64Alphabet ∧ '\'' ∉ base64Alphabet ∧ '%' ∉ base64Alphabet := by decide
  intro c hc
  refine ⟨?_, ?_, ?_⟩
  · rintro rfl
    exact hnot.1 hc
  · rintro rfl
    exact hnot.2.1 hc
  · rintro rfl
    exact hnot.2.2 hc

theorem mod_lt_base64Alphabet (n : Nat) : n % 64 < base64Alphabet.length :=
  Nat.mod_lt n (by decide)

theorem base64Char_eq_getElem (n : Nat) :
    base64Char n = base64Alphabet.get ⟨n % 64, mod_lt_base64Alphabet n⟩ :=
  List.getD_eq_getElem _ _ (mod_lt_base64Alphabet n)

theorem base64Char_mem (n : Nat) : base64Char n ∈ base64Alphabet := by
  rw [base64Char_eq_getElem]
  exact List.get_mem _ _

theorem base64Value?_base64Char (n : Nat) : base64Value? (base64Char n) = some (n % 64) := by
  rw [base64Value?, if_pos (base64Char_mem n), base64Char_eq_getElem]
  exact congrArg some (nodup_base64Alphabet.idxOf_getElem _ (mod_lt_base64Alphabet n))

theorem base64Char_ne_pad (n : Nat) : base64Char n ≠ '=' :=
  (base64Alphabet_clean _ (base64Char_mem n)).1

theorem ofNat_eq_of_toNat {n : Nat} {b : UInt8} (h : n = b.toNat) : UInt8.ofNat n = b := by
  rw [h, UInt8.ofNat_toNat]

theorem decodeBase64?_encodeBase64 (bytes : List UInt8) :
    decodeBase64? (encodeBase64 bytes) = some bytes := by
  induction bytes using encodeBase64.induct with
  | case1 => rfl
  | case2 a =>
    have ha := a.toNat_lt
    simp only [encodeBase64, decodeBase64?, base64Value?_base64Char, Option.bind_eq_bind,
      Option.bind_some, and_self, if_true]
    rw [ofNat_eq_of_toNat (b := a) (by omega)]
  | case3 a b =>
    have ha := a.toNat_lt
    have hb := b.toNat_lt
    simp only [encodeBase64, decodeBase64?, base64Value?_base64Char, base64Char_ne_pad,
      Option.bind_eq_bind, Option.bind_some, and_self, false_and, if_false, if_true]
    rw [ofNat_eq_of_toNat (b := a) (by omega), ofNat_eq_of_toNat (b := b) (by omega)]
  | case4 a b c rest ih =>
    have ha := a.toNat_lt
    have hb := b.toNat_lt
    have hc := c.toNat_lt
    simp only [encodeBase64, decodeBase64?, base64Value?_base64Char, base64Char_ne_pad,
      Option.bind_eq_bind, Option.bind_some, false_and, if_false, ih]
    rw [ofNat_eq_of_toNat (b := a) (by omega), ofNat_eq_of_toNat (b := b) (by omega),
      ofNat_eq_of_toNat (b := c) (by omega)]

theorem mem_encodeBase64 {c : Char} {bytes : List UInt8} (h : c ∈ encodeBase64 bytes) :
    c = '=' ∨ ∃ n : Nat, c = base64Char n := by
  induction bytes using encodeBase64.induct with
  | case1 => simp [encodeBase64] at h
  | case2 a =>
    simp only [encodeBase64, List.mem_cons, List.not_mem_nil, or_false] at h
    rcases h with rfl | rfl | rfl | rfl <;> first | exact Or.inl rfl | exact Or.inr ⟨_, rfl⟩
  | case3 a b =>
    simp only [encodeBase64, List.mem_cons, List.not_mem_nil, or_false] at h
    rcases h with rfl | rfl | rfl | rfl <;> first | exact Or.inl rfl | exact Or.inr ⟨_, rfl⟩
  | case4 a b d rest ih =>
    simp only [encodeBase64, List.mem_cons] at h
    rcases h with rfl | rfl | rfl | rfl | h
    · exact Or.inr ⟨_, rfl⟩
    · exact Or.inr ⟨_, rfl⟩
    · exact Or.inr ⟨_, rfl⟩
    · exact Or.inr ⟨_, rfl⟩
    · exact ih h

/-- Base64 text has neither a quote nor a percent sign. -/
theorem encodeBase64_clean {c : Char} {bytes : List UInt8} (h : c ∈ encodeBase64 bytes) :
    c ≠ '\'' ∧ c ≠ '%' := by
  rcases mem_encodeBase64 h with rfl | ⟨n, rfl⟩
  · decide
  · exact (base64Alphabet_clean _ (base64Char_mem n)).2

/-- Hexadecimal text has neither a quote nor a percent sign. -/
theorem hexBytes_clean {c : Char} {bytes : List UInt8} (h : c ∈ hexBytes bytes) :
    c ≠ '\'' ∧ c ≠ '%' := by
  obtain ⟨n, rfl⟩ := mem_hexBytes h
  simp

example : String.ofList (encodeBase64 [0xE4, 0xBD, 0xA0, 0xE5]) = "5L2g5Q==" := by decide

end Python
end DaftOlap
