/-
Python text.

A Python `str` is a sequence of code points, lone surrogates included, so it is
modelled as a list of `PyChar`: a Unicode scalar value or one of the 2048
surrogates.  Only a text without surrogates has a UTF-8 encoding, which is what
separates `encodeUtf8?` from a total function.

The classes of code points whose tables belong to the interpreter's Unicode
database (printable characters, case folding, decimal digits) are fields of
`UnicodeData`.  Every result about a function that consults them holds for every
such table.
-/
import Mathlib.Algebra.GroupWithZero.Nat
import Mathlib.Algebra.Order.BigOperators.Group.Multiset
import Mathlib.Algebra.Order.Group.Multiset
import Mathlib.Data.List.DropRight
import Mathlib.Data.List.Flatten

namespace DaftOlap
namespace Python

/-- One code point of a Python `str`. -/
inductive PyChar
  | scalar (c : Char)
  | surrogate (n : Fin 2048)
deriving DecidableEq, Repr

instance : Coe Char PyChar := ⟨.scalar⟩

instance : Inhabited PyChar := ⟨.scalar ' '⟩

/-- A Python `str`. -/
abbrev Text := List PyChar

instance : LawfulBEq Text := inferInstanceAs (LawfulBEq (List PyChar))

/-- The text of an ASCII or Unicode literal. -/
def str (s : String) : Text := s.toList.map PyChar.scalar

namespace PyChar

/-- `ord`. -/
def ord : PyChar → Nat
  | scalar c => c.toNat
  | surrogate n => 0xD800 + n.val

theorem ord_injective {c d : PyChar} (h : c.ord = d.ord) : c = d := by
  cases c with
  | scalar c =>
    cases d with
    | scalar d => rw [Char.toNat_inj.mp h]
    | surrogate n =>
      exfalso
      have hvalid := c.valid
      simp only [ord, Char.toNat] at h
      rw [UInt32.isValidChar, h] at hvalid
      rcases hvalid with hlow | hhigh
      · omega
      · have := n.isLt
        omega
  | surrogate m =>
    cases d with
    | scalar d =>
      exfalso
      have hvalid := d.valid
      simp only [ord, Char.toNat] at h
      rw [UInt32.isValidChar, ← h] at hvalid
      rcases hvalid with hlow | hhigh
      · omega
      · have := m.isLt
        omega
    | surrogate n =>
      simp only [ord] at h
      rw [Fin.ext (show m.val = n.val by omega)]

/-- `str.isspace` on one code point, which is also the class `\s` of a regular
expression and the set `str.strip` removes. -/
def isSpace (c : PyChar) : Bool :=
  let n := c.ord
  (0x9 ≤ n && n ≤ 0xD) || (0x1C ≤ n && n ≤ 0x20) || n == 0x85 || n == 0xA0 || n == 0x1680 ||
    (0x2000 ≤ n && n ≤ 0x200A) || n == 0x2028 || n == 0x2029 || n == 0x202F || n == 0x205F ||
    n == 0x3000

/-- `[A-Za-z]`. -/
def isAsciiLetter : PyChar → Bool
  | scalar c => c.isAlpha
  | surrogate _ => false

/-- `[0-9]`. -/
def isAsciiDigit : PyChar → Bool
  | scalar c => c.isDigit
  | surrogate _ => false

/-- `[A-Za-z_]`. -/
def isNameStart (c : PyChar) : Bool := c.isAsciiLetter || c == '_'

/-- `[A-Za-z0-9_]`. -/
def isNameChar (c : PyChar) : Bool := c.isAsciiLetter || c.isAsciiDigit || c == '_'

theorem isNameChar_of_isNameStart {c : PyChar} (h : c.isNameStart = true) :
    c.isNameChar = true := by
  simp only [isNameStart, isNameChar, Bool.or_eq_true] at h ⊢
  rcases h with h | h
  · exact Or.inl (Or.inl h)
  · exact Or.inr h

end PyChar

/-- The parts of the interpreter's Unicode database the modelled code reads. -/
structure UnicodeData where
  /-- `str.isprintable` on one code point outside ASCII. -/
  isPrintable : PyChar → Bool
  /-- `str.casefold`, which maps code point by code point. -/
  casefold : PyChar → Text
  /-- The value of a decimal digit outside ASCII, as `int` reads it. -/
  decimal : PyChar → Option (Fin 10)

/-- The database cut down to ASCII. -/
def UnicodeData.ascii : UnicodeData where
  isPrintable _ := false
  casefold c := [c]
  decimal _ := none

namespace Text

/-- `str.strip()`. -/
def strip (t : Text) : Text := (t.dropWhile PyChar.isSpace).rdropWhile PyChar.isSpace

/-- The longest prefix a regular expression `[A-Za-z_][A-Za-z0-9_]*` matches. -/
def parameterName? : Text → Option Text
  | [] => none
  | c :: rest => if c.isNameStart then some (c :: rest.takeWhile PyChar.isNameChar) else none

/-- `sep.join(parts)`. -/
def join (sep : Text) (parts : List Text) : Text := sep.intercalate parts

/-- `str.replace` of a single code point by a text. -/
def replaceChar (old : PyChar) (new : Text) (t : Text) : Text :=
  t.flatMap fun c => if c = old then new else [c]

/-- `needle in text`. -/
def contains (needle : Text) : Text → Bool
  | [] => needle.isEmpty
  | c :: rest => needle.isPrefixOf (c :: rest) || contains needle rest

/-- `s <= t`, code point by code point. -/
def ble : Text → Text → Bool
  | [], _ => true
  | _ :: _, [] => false
  | c :: s, d :: t => c.ord < d.ord || (c.ord == d.ord && ble s t)

/-- `sorted(texts)`. -/
def sorted (texts : List Text) : List Text := texts.mergeSort ble

/-- The Unicode scalar values of a text, when it has no lone surrogate. -/
def scalars? : Text → Option (List Char)
  | [] => some []
  | .scalar c :: rest => (scalars? rest).map (c :: ·)
  | .surrogate _ :: _ => none

/-- `value.encode("utf-8")`, with `none` for the `UnicodeEncodeError` a lone
surrogate causes. -/
def encodeUtf8? (t : Text) : Option (List UInt8) :=
  (scalars? t).map fun cs => cs.flatMap String.utf8EncodeChar

/-- `body.decode("utf-8")`, with `none` for `UnicodeDecodeError`. -/
def decodeUtf8? (bytes : List UInt8) : Option Text :=
  bytes.toByteArray.utf8Decode?.map fun cs => cs.toList.map PyChar.scalar

/-- A text has a UTF-8 encoding. -/
def ValidUtf8 (t : Text) : Prop := (scalars? t).isSome = true

instance (t : Text) : Decidable (ValidUtf8 t) := inferInstanceAs (Decidable (_ = _))

theorem map_scalar_of_scalars? {t : Text} {cs : List Char} (h : scalars? t = some cs) :
    cs.map PyChar.scalar = t := by
  induction t generalizing cs with
  | nil => simp only [scalars?, Option.some.injEq] at h; subst h; rfl
  | cons c rest ih =>
    cases c with
    | scalar c =>
      simp only [scalars?, Option.map_eq_some_iff] at h
      obtain ⟨ds, hds, rfl⟩ := h
      rw [List.map_cons, ih hds]
    | surrogate n => simp [scalars?] at h

/-- Decoding undoes encoding. -/
theorem decodeUtf8?_of_encodeUtf8? {t : Text} {bytes : List UInt8}
    (h : encodeUtf8? t = some bytes) : decodeUtf8? bytes = some t := by
  simp only [encodeUtf8?, Option.map_eq_some_iff] at h
  obtain ⟨cs, hcs, rfl⟩ := h
  rw [decodeUtf8?, ← List.utf8Encode, List.utf8Decode?_utf8Encode]
  simp [map_scalar_of_scalars? hcs]

theorem encodeUtf8?_isSome {t : Text} (h : ValidUtf8 t) : ∃ bytes, encodeUtf8? t = some bytes := by
  obtain ⟨cs, hcs⟩ := Option.isSome_iff_exists.mp h
  exact ⟨_, by rw [encodeUtf8?, hcs]; rfl⟩

theorem ble_cons {c d : PyChar} {s t : Text} :
    ble (c :: s) (d :: t) = true ↔ c.ord < d.ord ∨ (c.ord = d.ord ∧ ble s t = true) := by
  simp [ble]

theorem ble_total (s t : Text) : ble s t = true ∨ ble t s = true := by
  induction s generalizing t with
  | nil => exact Or.inl rfl
  | cons c s ih =>
    cases t with
    | nil => exact Or.inr rfl
    | cons d t =>
      rw [ble_cons, ble_cons]
      by_cases heq : c.ord = d.ord
      · rcases ih t with hst | hts
        · exact Or.inl (Or.inr ⟨heq, hst⟩)
        · exact Or.inr (Or.inr ⟨heq.symm, hts⟩)
      · rcases Nat.lt_or_gt_of_ne heq with hlt | hgt
        · exact Or.inl (Or.inl hlt)
        · exact Or.inr (Or.inl hgt)

theorem ble_trans {s t r : Text} (hst : ble s t = true) (htr : ble t r = true) :
    ble s r = true := by
  induction s generalizing t r with
  | nil => rfl
  | cons c s ih =>
    cases t with
    | nil => cases hst
    | cons d t =>
      cases r with
      | nil => cases htr
      | cons e r =>
        rw [ble_cons] at hst htr ⊢
        rcases hst with hlt | ⟨heq, hst⟩
        · omega
        · rcases htr with hlt | ⟨heq', htr⟩
          · omega
          · exact Or.inr ⟨heq.trans heq', ih hst htr⟩

theorem ble_antisymm {s t : Text} (hst : ble s t = true) (hts : ble t s = true) : s = t := by
  induction s generalizing t with
  | nil =>
    cases t with
    | nil => rfl
    | cons d t => cases hts
  | cons c s ih =>
    cases t with
    | nil => cases hst
    | cons d t =>
      rw [ble_cons] at hst hts
      rcases hst with hlt | ⟨heq, hst⟩
      · rcases hts with hgt | ⟨heq, hts⟩
        · omega
        · omega
      · rcases hts with hgt | ⟨heq', hts⟩
        · omega
        · rw [PyChar.ord_injective heq, ih hst hts]

@[simp] theorem join_nil (sep : Text) : join sep [] = [] := rfl

@[simp] theorem join_singleton (sep part : Text) : join sep [part] = part := by
  simp [join]

@[simp] theorem join_cons_cons (sep part next : Text) (parts : List Text) :
    join sep (part :: next :: parts) = part ++ sep ++ join sep (next :: parts) := by
  simp [join, List.intercalate]

theorem count_join (c : PyChar) {sep : Text} (hsep : c ∉ sep) (parts : List Text) :
    (join sep parts).count c = (parts.map (List.count c)).sum := by
  induction parts with
  | nil => rfl
  | cons part rest ih =>
    cases rest with
    | nil => simp
    | cons next rest =>
      rw [join_cons_cons, List.count_append, List.count_append, ih,
        List.count_eq_zero_of_not_mem hsep]
      simp

theorem mem_join {c : PyChar} {sep : Text} {parts : List Text} (h : c ∈ join sep parts) :
    c ∈ sep ∨ ∃ part ∈ parts, c ∈ part := by
  induction parts with
  | nil => simp at h
  | cons part rest ih =>
    cases rest with
    | nil => exact Or.inr ⟨part, by simp, by simpa using h⟩
    | cons next rest =>
      rw [join_cons_cons, List.mem_append, List.mem_append] at h
      rcases h with (h | h) | h
      · exact Or.inr ⟨part, by simp, h⟩
      · exact Or.inl h
      · rcases ih h with h | ⟨p, hp, h⟩
        · exact Or.inl h
        · exact Or.inr ⟨p, List.mem_cons_of_mem _ hp, h⟩

theorem mem_join_of_mem {c : PyChar} {sep part : Text} {parts : List Text} (hpart : part ∈ parts)
    (h : c ∈ part) : c ∈ join sep parts := by
  induction parts with
  | nil => cases hpart
  | cons first rest ih =>
    cases rest with
    | nil =>
      rw [join_singleton]
      rwa [List.mem_singleton.mp hpart] at h
    | cons next rest =>
      rw [join_cons_cons, List.mem_append, List.mem_append]
      rcases List.mem_cons.mp hpart with hfirst | hrest
      · rw [hfirst] at h
        exact Or.inl (Or.inl h)
      · exact Or.inr (ih hrest)

end Text

example : Text.strip (str " Nullable(Date)\n") = str "Nullable(Date)" := by decide

end Python
end DaftOlap
