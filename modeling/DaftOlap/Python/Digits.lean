/-
Upper case and digits.

`str.isdigit` and `int` do not agree on which code points are digits, and `int` also
reads signs and underscores and refuses long texts.  A plain numeral, ASCII digits
only, is where they agree.
-/
import DaftOlap.Python.Json
import DaftOlap.Python.Strip

namespace DaftOlap
namespace Python

/-- `[A-Z]`. -/
def PyChar.isUpper : PyChar → Bool
  | scalar c => c.isUpper
  | surrogate _ => false

/-- `str.upper` on one ASCII character. -/
def PyChar.toUpper : PyChar → PyChar
  | scalar c => scalar c.toUpper
  | surrogate n => surrogate n

/-- The further parts of the interpreter's Unicode database that `str.upper` and
`str.isdigit` read.  Upper-casing leaves no character out and makes no white space. -/
structure CaseData extends UnicodeData where
  /-- `str.upper` on one code point outside ASCII. -/
  upper : PyChar → Text
  /-- `str.isdigit` on one code point outside ASCII. -/
  isDigit : PyChar → Bool
  upper_ne_nil : ∀ c, upper c ≠ []
  upper_not_space : ∀ c, c.isSpace = false → ∀ d ∈ upper c, d.isSpace = false

/-- The database cut down to ASCII and the superscript two, which is a digit but no
decimal digit. -/
def CaseData.superscriptTwo : CaseData where
  toUnicodeData := .ascii
  upper c := [c]
  isDigit c := c.ord == 0xB2
  upper_ne_nil _ := List.cons_ne_nil _ _
  upper_not_space c hc d hd := by
    rw [List.mem_singleton.mp hd]
    exact hc

def PyChar.upperText (u : CaseData) (c : PyChar) : Text :=
  if c.ord < 0x80 then [c.toUpper] else u.upper c

/-- `str.upper`. -/
def Text.upper (u : CaseData) (t : Text) : Text := t.flatMap fun c => c.upperText u

def PyChar.isDigit (u : CaseData) (c : PyChar) : Bool :=
  if c.ord < 0x80 then c.isAsciiDigit else u.isDigit c

/-- `str.isdigit`. -/
def Text.isDigit (u : CaseData) (t : Text) : Bool := t ≠ [] && t.all fun c => c.isDigit u

/-! ## Plain numerals -/

/-- A plain ASCII digit string. -/
def IsNumeral (t : Text) : Prop := t ≠ [] ∧ ∀ c ∈ t, c.isAsciiDigit = true

def numeralValue (t : Text) : Nat := t.foldl (fun n c => 10 * n + digitValue c) 0

theorem ord_of_isAsciiDigit {c : PyChar} (h : c.isAsciiDigit = true) :
    48 ≤ c.ord ∧ c.ord ≤ 57 := by
  cases c with
  | scalar c =>
    simp only [PyChar.isAsciiDigit, Char.isDigit, Bool.and_eq_true, decide_eq_true_eq,
      UInt32.le_iff_toNat_le] at h
    exact h
  | surrogate n => cases h

theorem ord_of_isUpper {c : PyChar} (h : c.isUpper = true) : 65 ≤ c.ord ∧ c.ord ≤ 90 := by
  cases c with
  | scalar c =>
    have hrange : 'A'.val ≤ c.val ∧ c.val ≤ 'Z'.val := of_decide_eq_true h
    exact ⟨UInt32.le_iff_toNat_le.mp hrange.1, UInt32.le_iff_toNat_le.mp hrange.2⟩
  | surrogate n => cases h

theorem isSpace_of_isAsciiDigit {c : PyChar} (h : c.isAsciiDigit = true) : c.isSpace = false := by
  have hord := ord_of_isAsciiDigit h
  rw [Bool.eq_false_iff]
  intro hspace
  have := ord_of_isSpace hspace
  omega

theorem isSpace_of_isIntSpace {c : PyChar} (h : c.isIntSpace = true) : c.isSpace = true := by
  unfold PyChar.isIntSpace at h
  split at h
  · simp only [Bool.or_eq_true, Bool.and_eq_true, decide_eq_true_eq, beq_iff_eq] at h
    simp only [PyChar.isSpace, Bool.or_eq_true, Bool.and_eq_true, decide_eq_true_eq, beq_iff_eq]
    omega
  · exact h

theorem IsNumeral.isDigit {t : Text} (h : IsNumeral t) (u : CaseData) :
    Text.isDigit u t = true := by
  simp only [Text.isDigit, Bool.and_eq_true, decide_eq_true_eq, List.all_eq_true]
  refine ⟨h.1, fun c hc => ?_⟩
  have hord := ord_of_isAsciiDigit (h.2 c hc)
  rw [PyChar.isDigit, if_pos (by omega)]
  exact h.2 c hc

theorem IsNumeral.trimmed {t : Text} (h : IsNumeral t) : Trimmed t :=
  ⟨fun c hc => isSpace_of_isAsciiDigit (h.2 c (List.mem_of_head? hc)),
    fun c hc => isSpace_of_isAsciiDigit (h.2 c (List.mem_of_getLast? hc))⟩

theorem readDigits_of_digits (u : UnicodeData) {t : Text} (h : ∀ c ∈ t, c.isAsciiDigit = true) :
    readDigits u true t = some (t.map digitValue) := by
  induction t with
  | nil => rfl
  | cons c rest ih =>
    have hc := h c List.mem_cons_self
    have hord := ord_of_isAsciiDigit hc
    have hunderscore : c ≠ '_' := by
      intro he
      rw [he] at hc
      cases hc
    rw [readDigits, if_neg hunderscore, PyChar.digit?, if_pos (by omega), if_pos hc,
      Option.bind_some, ih fun d hd => h d (List.mem_cons_of_mem _ hd)]
    rfl

/-- `int` reads a plain numeral that is not too long. -/
theorem IsNumeral.parseInt_eq {t : Text} (h : IsNumeral t) (u : UnicodeData) :
    parseInt u t = if maxStrDigits < t.length then none else some (numeralValue t : Int) := by
  obtain ⟨c, rest, rfl⟩ := List.exists_cons_of_ne_nil h.1
  have hc := h.2 c List.mem_cons_self
  have hord := ord_of_isAsciiDigit hc
  have hspace : ∀ d ∈ c :: rest, ¬ d.isIntSpace = true := by
    intro d hd hspace
    have := isSpace_of_isIntSpace hspace
    rw [isSpace_of_isAsciiDigit (h.2 d hd)] at this
    cases this
  have htrim : ((c :: rest).dropWhile PyChar.isIntSpace).rdropWhile PyChar.isIntSpace = c :: rest := by
    rw [List.dropWhile_cons_of_neg (hspace c List.mem_cons_self), List.rdropWhile_eq_self_iff]
    intro hne
    exact hspace _ (List.getLast_mem hne)
  have hminus : ¬ (c :: rest).head? = some (PyChar.scalar '-') := by
    intro he
    rw [Option.some.inj he] at hc
    cases hc
  have hplus : ¬ (c :: rest).head? = some (PyChar.scalar '+') := by
    intro he
    rw [Option.some.inj he] at hc
    cases hc
  have hunderscore : c ≠ '_' := by
    intro he
    rw [he] at hc
    cases hc
  have hdigits : readDigits u false (c :: rest) = some ((c :: rest).map digitValue) := by
    rw [readDigits, if_neg hunderscore, PyChar.digit?, if_pos (by omega), if_pos hc,
      Option.bind_some, readDigits_of_digits u fun d hd => h.2 d (List.mem_cons_of_mem _ hd)]
    rfl
  have hfold : ∀ (l : Text) (n : Nat),
      (l.map fun c => (digitValue c : Int)).foldl (fun n d => 10 * n + d) (n : Int) =
        ((l.foldl (fun n c => 10 * n + digitValue c) n : Nat) : Int) := by
    intro l
    induction l with
    | nil => intro n; rfl
    | cons d l ih =>
      intro n
      rw [List.map_cons, List.foldl_cons, List.foldl_cons, ← ih]
      congr 1
  simp only [parseInt, htrim, hminus, hplus, or_self, if_false, hdigits, Option.bind_some,
    List.length_map]
  split
  · rfl
  · have hcast : (do let a ← (c :: rest).map digitValue; pure (a : Int)) =
        (c :: rest).map fun c => (digitValue c : Int) := by
      rw [List.bind_eq_flatMap, List.flatMap_map, List.map_eq_flatMap]
      rfl
    rw [hcast, numeralValue, ← hfold (c :: rest) 0]
    rfl

/-! ## Upper case keeps a text trimmed -/

theorem toUpper_eq_or (c : Char) :
    c.toUpper = c ∨ (65 ≤ c.toUpper.toNat ∧ c.toUpper.toNat ≤ 90) := by
  unfold Char.toUpper
  split
  · next h =>
    obtain ⟨hlow, hhigh⟩ := h
    rw [UInt32.le_iff_toNat_le] at hlow hhigh
    refine Or.inr ?_
    simp only [Char.toNat, UInt32.toNat_add, UInt32.toNat_sub]
    have ha : 'a'.val.toNat = 97 := rfl
    have hz : 'z'.val.toNat = 122 := rfl
    have hA : 'A'.val.toNat = 65 := rfl
    omega
  · exact Or.inl rfl

theorem upperText_not_space (u : CaseData) {c d : PyChar} (h : c.isSpace = false)
    (hd : d ∈ c.upperText u) : d.isSpace = false := by
  unfold PyChar.upperText at hd
  split at hd
  · rw [List.mem_singleton.mp hd]
    cases c with
    | surrogate n => exact h
    | scalar c =>
      rcases toUpper_eq_or c with hsame | hupper
      · rw [PyChar.toUpper, hsame]
        exact h
      · have hord : 65 ≤ (PyChar.scalar c).toUpper.ord ∧ (PyChar.scalar c).toUpper.ord ≤ 90 := hupper
        rw [Bool.eq_false_iff]
        intro hspace
        have := ord_of_isSpace hspace
        omega
  · exact u.upper_not_space c h d hd

theorem upperText_ne_nil (u : CaseData) (c : PyChar) : c.upperText u ≠ [] := by
  unfold PyChar.upperText
  split
  · exact List.cons_ne_nil _ _
  · exact u.upper_ne_nil c

theorem Trimmed.upper (u : CaseData) {t : Text} (h : Trimmed t) : Trimmed (Text.upper u t) := by
  constructor
  · intro d hd
    cases t with
    | nil => cases hd
    | cons c rest =>
      rw [Text.upper, List.flatMap_cons, List.head?_append_of_ne_nil _ (upperText_ne_nil u c)] at hd
      exact upperText_not_space u (h.1 c rfl) (List.mem_of_head? hd)
  · intro d hd
    rcases List.eq_nil_or_concat t with hnil | ⟨front, c, hlast⟩
    · rw [hnil] at hd
      cases hd
    · rw [List.concat_eq_append] at hlast
      have hc := h.2 c (by rw [hlast, List.getLast?_concat])
      rw [hlast, Text.upper, List.flatMap_append, List.flatMap_singleton,
        List.getLast?_append_of_ne_nil _ (upperText_ne_nil u c)] at hd
      exact upperText_not_space u hc (List.mem_of_getLast? hd)

end Python
end DaftOlap
