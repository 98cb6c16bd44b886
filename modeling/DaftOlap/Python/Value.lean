/-
Python values and their text forms.

`PyValue` is a value a caller can pass as a literal or as a query parameter:
every type the connectors tell apart, and `other` for the rest.  The text forms
are those of CPython: `str(int)` with its default limit of 4300 digits,
`repr(float)` from the shortest digits that read back as the same double,
`str(Decimal)`, and the ISO forms of dates and times.
-/
import DaftOlap.Common.Errors
import DaftOlap.Python.Bytes

namespace DaftOlap
namespace Python

/-! ## Integers -/

/-- The decimal digits of a natural number. -/
def natText (n : Nat) : Text := (Nat.toDigits 10 n).map PyChar.scalar

theorem natText_injective : Function.Injective natText := by
  intro m n h
  have hchars : Nat.toDigits 10 m = Nat.toDigits 10 n :=
    List.map_injective_iff.mpr (fun _ _ => PyChar.scalar.inj) h
  have := congrArg (fun cs => Nat.ofDigitChars 10 cs 0) hchars
  simpa [Nat.ofDigitChars_ten_toDigits] using this

theorem isAsciiDigit_of_mem_natText {c : PyChar} {n : Nat} (h : c ∈ natText n) :
    c.isAsciiDigit = true := by
  obtain ⟨d, hd, rfl⟩ := List.mem_map.mp h
  exact Nat.isDigit_of_mem_toDigits (by decide) (by decide) hd

theorem natText_ne_nil (n : Nat) : natText n ≠ [] := by
  simp [natText]

/-- The decimal text of an integer. -/
def intText (z : Int) : Text :=
  if z < 0 then PyChar.scalar '-' :: natText z.natAbs else natText z.natAbs

/-- CPython's default `sys.get_int_max_str_digits()`. -/
def maxStrDigits : Nat := 4300

/-- `str(z)`, which raises `ValueError` past the digit limit. -/
def strInt (z : Int) : Except PyException Text :=
  if (natText z.natAbs).length ≤ maxStrDigits then .ok (intText z) else .error .valueError

theorem strInt_eq_ok {z : Int} {t : Text} (h : strInt z = .ok t) : t = intText z := by
  unfold strInt at h
  split at h
  · exact (Except.ok.inj h).symm
  · cases h

/-- `str` succeeds exactly on the integers of at most 4300 digits. -/
theorem strInt_isOk_iff {z : Int} : (∃ t, strInt z = .ok t) ↔ z.natAbs < 10 ^ maxStrDigits := by
  have hlen : (natText z.natAbs).length ≤ maxStrDigits ↔ z.natAbs < 10 ^ maxStrDigits := by
    rw [natText, List.length_map]
    exact Nat.length_toDigits_le_iff (by decide) (by decide)
  unfold strInt
  rw [← hlen]
  split <;> simp_all

/-- `n` in decimal, with leading zeros up to `width` digits. -/
def padNat (width n : Nat) : Text :=
  List.replicate (width - (natText n).length) (PyChar.scalar '0') ++ natText n

/-! ## Floats and decimals -/

/-- A Python `float`.  A finite double is given by its sign, the digits of its
shortest decimal that reads back as the same double, and the position of the
decimal point: the value is `0.d₁d₂… × 10 ^ point`. -/
inductive PyFloat
  | finite (negative : Bool) (digits : Nat) (point : Int)
      (normal : digits % 10 ≠ 0 ∨ digits = 0 ∧ point = 1)
  | infinite (negative : Bool)
  | nan
deriving DecidableEq, Repr

/-- `math.isfinite`. -/
def PyFloat.isFinite : PyFloat → Bool
  | finite _ _ _ _ => true
  | _ => false

/-- A Python `decimal.Decimal`: the value of a finite one is
`coefficient × 10 ^ exponent`. -/
inductive PyDecimal
  | finite (negative : Bool) (coefficient : Nat) (exponent : Int)
  | infinite (negative : Bool)
  | nan
deriving DecidableEq, Repr

/-- `Decimal.is_finite`. -/
def PyDecimal.isFinite : PyDecimal → Bool
  | finite _ _ _ => true
  | _ => false

def signText (negative : Bool) : Text := if negative then [PyChar.scalar '-'] else []

def zeros (n : Nat) : Text := List.replicate n (PyChar.scalar '0')

/-- Digits with the decimal point after the first `point` of them. -/
def pointText (digits : Text) (point : Int) : Text :=
  if point ≤ 0 then str "0." ++ zeros (-point).toNat ++ digits
  else if digits.length ≤ point.toNat then digits ++ zeros (point.toNat - digits.length)
  else digits.take point.toNat ++ str "." ++ digits.drop point.toNat

/-- An exponent with its sign and at least `width` digits. -/
def exponentText (width : Nat) (exponent : Int) : Text :=
  (if exponent < 0 then PyChar.scalar '-' else PyChar.scalar '+') :: padNat width exponent.natAbs

/-- `repr(float)`: positional notation while the point is near the digits, with
`.0` after a whole number, and scientific notation otherwise. -/
def reprFloat : PyFloat → Text
  | .finite negative digits point _ =>
    let d := natText digits
    signText negative ++
      if point ≤ -4 ∨ 16 < point then
        pointText d 1 ++ str "e" ++ exponentText 2 (point - 1)
      else if 0 < point ∧ d.length ≤ point.toNat then pointText d point ++ str ".0"
      else pointText d point
  | .infinite negative => signText negative ++ str "inf"
  | .nan => str "nan"

/-- `str(Decimal)` in the default context. -/
def strDecimal : PyDecimal → Text
  | .finite negative coefficient exponent =>
    let d := natText coefficient
    let leftDigits : Int := exponent + d.length
    signText negative ++
      if exponent ≤ 0 ∧ -6 < leftDigits then pointText d leftDigits
      else
        pointText d 1 ++
          if leftDigits = 1 then [] else str "E" ++ exponentText 1 (leftDigits - 1)
  | .infinite negative => signText negative ++ str "Infinity"
  | .nan => str "NaN"

/-! ## Dates, times and UUIDs -/

structure PyDate where
  year : Nat
  month : Nat
  day : Nat
deriving DecidableEq, Repr

/-- A time of day; `tzinfo` is the UTC offset of an aware one. -/
structure PyTime where
  hour : Nat
  minute : Nat
  second : Nat
  microsecond : Nat
  tzinfo : Option Int
deriving DecidableEq, Repr

/-- `str(date)`. -/
def strDate (d : PyDate) : Text :=
  padNat 4 d.year ++ str "-" ++ padNat 2 d.month ++ str "-" ++ padNat 2 d.day

/-- `str(time)` of a naive time. -/
def strTime (t : PyTime) : Text :=
  padNat 2 t.hour ++ str ":" ++ padNat 2 t.minute ++ str ":" ++ padNat 2 t.second ++
    if t.microsecond = 0 then [] else str "." ++ padNat 6 t.microsecond

/-- A `uuid.UUID` as its sixteen bytes. -/
structure PyUuid where
  bytes : List UInt8
  length_eq : bytes.length = 16
deriving DecidableEq, Repr

/-- `str(UUID)`: groups of 8, 4, 4, 4 and 12 hexadecimal digits. -/
def strUuid (u : PyUuid) : Text :=
  let group (start length : Nat) : Text :=
    (hexBytes ((u.bytes.drop start).take length)).map PyChar.scalar
  Text.join (str "-") [group 0 4, group 4 2, group 6 2, group 8 2, group 10 6]

/-! ## Values -/

/-- A value a caller passes in. -/
inductive PyValue
  | none
  | bool (b : Bool)
  | int (z : Int)
  | float (f : PyFloat)
  | decimal (d : PyDecimal)
  | bytes (b : List UInt8)
  | date (d : PyDate)
  | datetime (d : PyDate) (t : PyTime)
  | time (t : PyTime)
  | str (t : Text)
  | uuid (u : PyUuid)
  | other (typeName : Text)
deriving DecidableEq, Repr

namespace PyValue

/-- A `datetime` or `time` with a time zone. -/
def isTimezoneAware : PyValue → Bool
  | datetime _ t => t.tzinfo.isSome
  | time t => t.tzinfo.isSome
  | _ => false

end PyValue

/-! ## The characters of numbers -/

/-- A character a finite number is written with. -/
def PyChar.isNumberChar (c : PyChar) : Bool :=
  c.isAsciiDigit || c == '-' || c == '+' || c == '.' || c == 'e' || c == 'E'

/-- Every character of a text belongs to numbers. -/
def IsNumberText (t : Text) : Prop := ∀ c ∈ t, c.isNumberChar = true

theorem IsNumberText.append {s t : Text} (hs : IsNumberText s) (ht : IsNumberText t) :
    IsNumberText (s ++ t) := by
  intro c hc
  rcases List.mem_append.mp hc with hc | hc
  · exact hs c hc
  · exact ht c hc

theorem IsNumberText.of_subset {s t : Text} (ht : IsNumberText t) (h : s ⊆ t) : IsNumberText s :=
  fun c hc => ht c (h hc)

theorem isNumberText_natText (n : Nat) : IsNumberText (natText n) := by
  intro c hc
  simp [PyChar.isNumberChar, isAsciiDigit_of_mem_natText hc]

theorem isNumberText_zeros (n : Nat) : IsNumberText (zeros n) := by
  intro c hc
  rw [List.eq_of_mem_replicate hc]
  decide

theorem isNumberText_padNat (width n : Nat) : IsNumberText (padNat width n) :=
  (isNumberText_zeros _).append (isNumberText_natText n)

theorem isNumberText_signText (negative : Bool) : IsNumberText (signText negative) := by
  cases negative <;> intro c hc <;> simp [signText] at hc
  rw [hc]
  decide

theorem isNumberText_pointText {digits : Text} (h : IsNumberText digits) (point : Int) :
    IsNumberText (pointText digits point) := by
  have hlit : ∀ s : String, (str s).all PyChar.isNumberChar = true → IsNumberText (str s) :=
    fun s hs c hc => List.all_eq_true.mp hs c hc
  unfold pointText
  split
  · exact ((hlit "0." (by decide)).append (isNumberText_zeros _)).append h
  · split
    · exact h.append (isNumberText_zeros _)
    · exact ((h.of_subset (List.take_subset _ _)).append (hlit "." (by decide))).append
        (h.of_subset (List.drop_subset _ _))

theorem isNumberText_exponentText (width : Nat) (exponent : Int) :
    IsNumberText (exponentText width exponent) := by
  intro c hc
  rcases List.mem_cons.mp hc with rfl | hc
  · split <;> decide
  · exact isNumberText_padNat _ _ c hc

theorem isNumberText_intText (z : Int) : IsNumberText (intText z) := by
  unfold intText
  split
  · intro c hc
    rcases List.mem_cons.mp hc with rfl | hc
    · decide
    · exact isNumberText_natText _ c hc
  · exact isNumberText_natText _

theorem isNumberText_reprFloat {f : PyFloat} (hf : f.isFinite = true) :
    IsNumberText (reprFloat f) := by
  have hlit : ∀ s : String, (str s).all PyChar.isNumberChar = true → IsNumberText (str s) :=
    fun s hs c hc => List.all_eq_true.mp hs c hc
  cases f with
  | finite negative digits point normal =>
    refine (isNumberText_signText _).append ?_
    have hdigits := isNumberText_natText digits
    split
    · exact ((isNumberText_pointText hdigits 1).append (hlit "e" (by decide))).append
        (isNumberText_exponentText _ _)
    · split
      · exact (isNumberText_pointText hdigits point).append (hlit ".0" (by decide))
      · exact isNumberText_pointText hdigits point
  | infinite negative => cases hf
  | nan => cases hf

theorem isNumberText_strDecimal {d : PyDecimal} (hd : d.isFinite = true) :
    IsNumberText (strDecimal d) := by
  cases d with
  | finite negative coefficient exponent =>
    refine (isNumberText_signText _).append ?_
    have hdigits := isNumberText_natText coefficient
    split
    · exact isNumberText_pointText hdigits _
    · refine (isNumberText_pointText hdigits 1).append ?_
      split
      · intro c hc
        cases hc
      · refine IsNumberText.append (fun c hc => ?_) (isNumberText_exponentText _ _)
        exact List.all_eq_true.mp (by decide : (str "E").all PyChar.isNumberChar = true) c hc
  | infinite negative => cases hd
  | nan => cases hd

theorem pointText_ne_nil {digits : Text} (h : digits ≠ []) (point : Int) :
    pointText digits point ≠ [] := by
  unfold pointText
  split
  · simp [str]
  · split <;> simp [h, str]

theorem intText_ne_nil (z : Int) : intText z ≠ [] := by
  unfold intText
  split
  · simp
  · exact natText_ne_nil _

theorem reprFloat_ne_nil (f : PyFloat) : reprFloat f ≠ [] := by
  cases f with
  | finite negative digits point normal =>
    have hpoint := pointText_ne_nil (natText_ne_nil digits)
    simp only [reprFloat]
    split
    · simp [hpoint]
    · split <;> simp [hpoint]
  | infinite negative => simp [reprFloat, str]
  | nan => simp [reprFloat, str]

theorem strDecimal_ne_nil (d : PyDecimal) : strDecimal d ≠ [] := by
  cases d with
  | finite negative coefficient exponent =>
    have hpoint := pointText_ne_nil (natText_ne_nil coefficient)
    simp only [strDecimal]
    split <;> simp [hpoint]
  | infinite negative => simp [strDecimal, str]
  | nan => simp [strDecimal, str]

/-! ## Texts with an encoding -/

namespace Text

theorem validUtf8_map_scalar (cs : List Char) : ValidUtf8 (cs.map PyChar.scalar) := by
  induction cs with
  | nil => rfl
  | cons c cs ih =>
    unfold ValidUtf8 at ih ⊢
    rw [List.map_cons, scalars?, Option.isSome_map, ih]

theorem ValidUtf8.append {s t : Text} (hs : ValidUtf8 s) (ht : ValidUtf8 t) :
    ValidUtf8 (s ++ t) := by
  induction s with
  | nil => exact ht
  | cons c s ih =>
    unfold ValidUtf8 at ih hs ⊢
    cases c with
    | scalar c =>
      rw [scalars?, Option.isSome_map] at hs
      rw [List.cons_append, scalars?, Option.isSome_map, ih hs]
    | surrogate n => cases hs

theorem validUtf8_str (s : String) : ValidUtf8 (str s) := validUtf8_map_scalar _

end Text

open Text in
theorem validUtf8_padNat (width n : Nat) : ValidUtf8 (padNat width n) := by
  refine ValidUtf8.append ?_ (validUtf8_map_scalar _)
  rw [← List.map_replicate]
  exact validUtf8_map_scalar _

open Text in
theorem validUtf8_strDate (d : PyDate) : ValidUtf8 (strDate d) :=
  ((((validUtf8_padNat 4 d.year).append (validUtf8_str "-")).append
    (validUtf8_padNat 2 d.month)).append (validUtf8_str "-")).append (validUtf8_padNat 2 d.day)

open Text in
theorem validUtf8_strTime (t : PyTime) : ValidUtf8 (strTime t) := by
  refine ((((validUtf8_padNat 2 t.hour).append (validUtf8_str ":")).append
    (validUtf8_padNat 2 t.minute)).append (validUtf8_str ":")).append
      (validUtf8_padNat 2 t.second) |>.append ?_
  split
  · rfl
  · exact (validUtf8_str ".").append (validUtf8_padNat 6 t.microsecond)

open Text in
theorem validUtf8_strUuid (u : PyUuid) : ValidUtf8 (strUuid u) := by
  have hgroup : ∀ bytes : List UInt8, ValidUtf8 ((hexBytes bytes).map PyChar.scalar) :=
    fun bytes => validUtf8_map_scalar _
  have hdash := validUtf8_str "-"
  simp only [strUuid, join_cons_cons, join_singleton]
  exact ((hgroup _).append hdash).append (((hgroup _).append hdash).append
    (((hgroup _).append hdash).append (((hgroup _).append hdash).append (hgroup _))))

example : reprFloat (.finite true 125 (-5) (by decide)) = str "-1.25e-06" := by decide

example : strDecimal (.finite false 1230 (-2)) = str "12.30" := by decide

end Python
end DaftOlap
