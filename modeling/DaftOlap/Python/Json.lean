/-
JSON values as `json.loads` returns them, and what Python makes of them.

`json.loads` itself is not modelled: how deep it recurses depends on the interpreter.
-/
import DaftOlap.Python.Format
import DaftOlap.Python.Value

namespace DaftOlap
namespace Python

/-- A value `json.loads` returns.  An integer has been read by `int`, so it has no more
digits than `str` accepts; the entries of a dict have no key twice. -/
inductive Json
  | null
  | bool (b : Bool)
  | int (z : Int) (short : z.natAbs < 10 ^ maxStrDigits)
  | float (f : PyFloat)
  | string (t : Text)
  | array (items : List Json)
  | object (entries : List (Text × Json))

namespace Json

/-- `not value`. -/
def isFalsy : Json → Bool
  | null => true
  | bool b => !b
  | int z _ => z == 0
  | float (.finite _ digits _ _) => digits == 0
  | float _ => false
  | string t => t.isEmpty
  | array items => items.isEmpty
  | object entries => entries.isEmpty

/-- `value == n`.  A double of this size is an integer when its shortest decimal is. -/
def equalsInt (value : Json) (n : Int) : Bool :=
  match value with
  | bool b => n == if b then 1 else 0
  | int z _ => z == n
  | float (.finite negative digits point _) =>
    let signed : Int := if negative then -digits else digits
    let exponent := point - (natText digits).length
    signed * 10 ^ exponent.toNat == n * 10 ^ (-exponent).toNat
  | _ => false

/-- A value equals one integer at most. -/
theorem eq_of_equalsInt {value : Json} {n m : Int} (hn : value.equalsInt n = true)
    (hm : value.equalsInt m = true) : n = m := by
  cases value with
  | bool b => rw [eq_of_beq hn, eq_of_beq hm]
  | int z _ => rw [← eq_of_beq hn, ← eq_of_beq hm]
  | float f =>
    cases f with
    | finite negative digits point normal =>
      have hpow : (10 : Int) ^ (-(point - (natText digits).length)).toNat ≠ 0 :=
        Int.pow_ne_zero (by decide)
      exact Int.eq_of_mul_eq_mul_right hpow ((eq_of_beq hn).symm.trans (eq_of_beq hm))
    | infinite negative => cases hn
    | nan => cases hn
  | null | string | array | object => cases hn

/-- `value == text`. -/
def equalsText (value : Json) (text : Text) : Bool :=
  match value with
  | string t => t == text
  | _ => false

mutual

/-- `repr`. -/
def repr (u : UnicodeData) : Json → Text
  | null => Python.str "None"
  | bool b => Python.str (if b then "True" else "False")
  | int z _ => intText z
  | float f => reprFloat f
  | string t => reprText u t
  | array items => Python.str "[" ++ Text.join (Python.str ", ") (reprItems u items) ++ Python.str "]"
  | object entries =>
    Python.str "\x7b" ++ Text.join (Python.str ", ") (reprEntries u entries) ++ Python.str "\x7d"

def reprItems (u : UnicodeData) : List Json → List Text
  | [] => []
  | item :: items => repr u item :: reprItems u items

def reprEntries (u : UnicodeData) : List (Text × Json) → List Text
  | [] => []
  | (key, value) :: entries =>
    (reprText u key ++ Python.str ": " ++ repr u value) :: reprEntries u entries

end

/-- `str`. -/
def toStr (u : UnicodeData) : Json → Text
  | string t => t
  | value => repr u value

end Json

/-! ## `int` of a text -/

/-- The whitespace `int` skips: of the ASCII characters not all that `str.isspace` has. -/
def PyChar.isIntSpace (c : PyChar) : Bool :=
  if c.ord < 0x80 then (0x9 ≤ c.ord && c.ord ≤ 0xD) || c.ord == 0x20 else c.isSpace

/-- The value of a decimal digit. -/
def PyChar.digit? (u : UnicodeData) (c : PyChar) : Option Nat :=
  if c.ord < 0x80 then if c.isAsciiDigit then some (digitValue c) else none
  else (u.decimal c).map Fin.val

/-- The digits of a text, in which an underscore may stand between two digits. -/
def readDigits (u : UnicodeData) : (afterDigit : Bool) → Text → Option (List Nat)
  | afterDigit, [] => if afterDigit then some [] else none
  | afterDigit, c :: rest =>
    if c = '_' then if afterDigit then readDigits u false rest else none
    else (c.digit? u).bind fun d => (readDigits u true rest).map (d :: ·)

/-- `int(text)`, with `none` for `ValueError`. -/
def parseInt (u : UnicodeData) (text : Text) : Option Int :=
  let trimmed := (text.dropWhile PyChar.isIntSpace).rdropWhile PyChar.isIntSpace
  let negative := trimmed.head? = some (PyChar.scalar '-')
  let unsigned := if negative ∨ trimmed.head? = some (PyChar.scalar '+') then trimmed.tail else trimmed
  (readDigits u false unsigned).bind fun digits =>
    if maxStrDigits < digits.length then none
    else
      let n : Int := digits.foldl (fun n d => 10 * n + d) 0
      some (if negative then -n else n)

example : parseInt .ascii (str " +1_0\n") = some 10 ∧ parseInt .ascii (str "1__0") = none := by
  decide

/-- `str.casefold`. -/
def Text.casefold (u : UnicodeData) (t : Text) : Text := t.flatMap u.casefold

end Python
end DaftOlap
