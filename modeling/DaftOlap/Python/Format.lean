/-
Python's `%` operator on text.

`percentFormat` is `fmt % (a, b, ...)` and `percentFormatMapping` is
`fmt % {name: text}`, both with text values.  The interpreter reads the format
one code point at a time and never goes back, so the reader is a finite control
(`FormatState`) run over the text, and every position of a conversion (mapping
key, flags, width, precision, length modifier, conversion type) is one state.
-/
import DaftOlap.Python.Text

namespace DaftOlap
namespace Python

/-! ## `repr` and `ascii` of text -/

/-- The last `width` lower-case hexadecimal digits of `n`. -/
def hexText : Nat → Nat → Text
  | 0, _ => []
  | width + 1, n => hexText width (n / 16) ++ [PyChar.scalar (Nat.digitChar (n % 16))]

/-- The `\x`, `\u` or `\U` escape of a code point. -/
def escapeHex (n : Nat) : Text :=
  if n ≤ 0xFF then str "\\x" ++ hexText 2 n
  else if n ≤ 0xFFFF then str "\\u" ++ hexText 4 n
  else str "\\U" ++ hexText 8 n

def reprChar (u : UnicodeData) (quote c : PyChar) : Text :=
  if c = quote ∨ c = '\\' then [PyChar.scalar '\\', c]
  else if c = '\t' then str "\\t"
  else if c = '\n' then str "\\n"
  else if c = '\r' then str "\\r"
  else if c.ord < 0x20 ∨ c.ord = 0x7F then escapeHex c.ord
  else if c.ord < 0x7F ∨ u.isPrintable c = true then [c]
  else escapeHex c.ord

/-- `repr` of a text. -/
def reprText (u : UnicodeData) (t : Text) : Text :=
  let quote : PyChar := if PyChar.scalar '\'' ∈ t ∧ PyChar.scalar '"' ∉ t then '"' else '\''
  quote :: t.flatMap (reprChar u quote) ++ [quote]

/-- What `ascii` makes of a `repr`. -/
def asciiText (t : Text) : Text :=
  t.flatMap fun c => if c.ord < 0x80 then [c] else escapeHex c.ord

/-! ## Arguments -/

/-- The exception classes a formatting operation raises. -/
inductive FormatError
  | valueError
  | typeError
  | keyError
deriving DecidableEq, Repr

/-- The value one conversion consumes: a text, or the whole mapping. -/
inductive FormatArg
  | text (t : Text)
  | mapping (m : List (Text × Text))

namespace FormatArg

/-- `repr` of an argument. -/
def repr (u : UnicodeData) : FormatArg → Text
  | text t => reprText u t
  | mapping m =>
    str "\x7b" ++ Text.join (str ", ") (m.map fun e => reprText u e.1 ++ str ": " ++ reprText u e.2)
      ++ str "\x7d"

/-- `str` of an argument. -/
def toStr (u : UnicodeData) : FormatArg → Text
  | text t => t
  | mapping m => repr u (mapping m)

end FormatArg

/-- The right operand of `%` as the interpreter walks through it: the values of a
tuple not consumed yet, or a mapping with the one value selected last and
whether a conversion has consumed it. -/
inductive FormatArgs
  | positional (rest : List Text)
  | named (mapping : List (Text × Text)) (current : FormatArg) (used : Bool)

namespace FormatArgs

/-- Consume the next value. -/
def next : FormatArgs → Except FormatError (FormatArg × FormatArgs)
  | positional [] => .error .typeError
  | positional (a :: rest) => .ok (.text a, positional rest)
  | named _ _ true => .error .typeError
  | named m current false => .ok (current, named m current true)

/-- Select the value of a mapping key. -/
def select (key : Text) : FormatArgs → Except FormatError FormatArgs
  | positional _ => .error .typeError
  | named m _ _ =>
    match m.lookup key with
    | none => .error .keyError
    | some v => .ok (named m (.text v) false)

/-- With a mapping, a conversion that leaves the selected value unused fails. -/
def settled : FormatArgs → Bool
  | positional _ => true
  | named _ _ used => used

/-- At the end of the format, a tuple must have no value left. -/
def exhausted : FormatArgs → Bool
  | positional rest => rest.isEmpty
  | named _ _ _ => true

end FormatArgs

/-! ## The reader -/

/-- The parsed part of a conversion specifier. -/
structure FormatSpec where
  leftJustify : Bool := false
  width : Option Nat := none
  precision : Option Nat := none

/-- The position of the reader inside the format. -/
inductive FormatState
  | literal
  | percent
  | key (depth : Nat) (read : Text)
  | flags (spec : FormatSpec)
  | width (spec : FormatSpec)
  | point (spec : FormatSpec)
  | precision (spec : FormatSpec)
  | lengthModifier (spec : FormatSpec)

def isFormatFlag (c : PyChar) : Bool :=
  c == '-' || c == '+' || c == ' ' || c == '#' || c == '0'

def isLengthModifier (c : PyChar) : Bool := c == 'h' || c == 'l' || c == 'L'

/-- The value of an ASCII digit. -/
def digitValue (c : PyChar) : Nat := c.ord - 48

/-- Padding to the width; text is padded with blanks whatever the flags. -/
def FormatSpec.pad (spec : FormatSpec) (t : Text) : Text :=
  let blanks := List.replicate (spec.width.getD 0 - t.length) (PyChar.scalar ' ')
  if spec.leftJustify then t ++ blanks else blanks ++ t

/-- Truncation to the precision. -/
def FormatSpec.truncate (spec : FormatSpec) (t : Text) : Text :=
  match spec.precision with
  | none => t
  | some n => t.take n

/-- The text one conversion of an argument yields.  The numeric conversion types
refuse a text, and `%c` takes a single code point. -/
def FormatSpec.convert (u : UnicodeData) (spec : FormatSpec) (type : PyChar) (arg : FormatArg) :
    Except FormatError Text :=
  if type = 's' then .ok (spec.pad (spec.truncate (arg.toStr u)))
  else if type = 'r' then .ok (spec.pad (spec.truncate (arg.repr u)))
  else if type = 'a' then .ok (spec.pad (spec.truncate (asciiText (arg.repr u))))
  else if type = 'c' then
    match arg with
    | .text [c] => .ok (spec.pad [c])
    | _ => .error .typeError
  else if type ∈ str "diuoxXeEfFgG" then .error .typeError
  else .error .valueError

/-- The conversion type `type` ends a specifier. -/
def FormatSpec.finish (u : UnicodeData) (spec : FormatSpec) (type : PyChar) (args : FormatArgs) :
    Except FormatError (Text × FormatArgs) := do
  if type = '%' then
    if args.settled then .ok ([PyChar.scalar '%'], args) else .error .typeError
  else
    let (arg, rest) ← args.next
    .ok (← spec.convert u type arg, rest)

/-- What one code point does in one state: either the reader moves on inside a
specifier, or it yields text. -/
inductive FormatStep
  | move (state : FormatState) (args : FormatArgs)
  | emit (t : Text) (args : FormatArgs)

def FormatSpec.finishStep (u : UnicodeData) (spec : FormatSpec) (type : PyChar)
    (args : FormatArgs) : Except FormatError FormatStep := do
  let (t, rest) ← spec.finish u type args
  .ok (.emit t rest)

/-- The code points that may follow a complete precision. -/
def FormatSpec.afterPrecision (u : UnicodeData) (spec : FormatSpec) (c : PyChar)
    (args : FormatArgs) : Except FormatError FormatStep :=
  if isLengthModifier c then .ok (.move (.lengthModifier spec) args)
  else spec.finishStep u c args

/-- The code points that may follow a complete width. -/
def FormatSpec.afterWidth (u : UnicodeData) (spec : FormatSpec) (c : PyChar)
    (args : FormatArgs) : Except FormatError FormatStep :=
  if c = '.' then .ok (.move (.point spec) args)
  else spec.afterPrecision u c args

/-- The code points that may follow the flags.  A width taken from the arguments
(`*`) would have to be an integer, which no text is. -/
def FormatSpec.afterFlags (u : UnicodeData) (spec : FormatSpec) (c : PyChar)
    (args : FormatArgs) : Except FormatError FormatStep :=
  if isFormatFlag c then
    .ok (.move (.flags { spec with leftJustify := spec.leftJustify || c == '-' }) args)
  else if c = '*' then .error .typeError
  else if c.isAsciiDigit then .ok (.move (.width { spec with width := some (digitValue c) }) args)
  else spec.afterWidth u c args

def formatStep (u : UnicodeData) : FormatState → FormatArgs → PyChar →
    Except FormatError FormatStep
  | .literal, args, c =>
    if c = '%' then .ok (.move .percent args) else .ok (.emit [c] args)
  | .percent, args, c =>
    if c = '%' then .ok (.emit [c] args)
    else if c = '(' then
      match args with
      | .positional _ => .error .typeError
      | .named _ _ _ => .ok (.move (.key 0 []) args)
    else ({} : FormatSpec).afterFlags u c args
  | .key depth read, args, c =>
    if c = ')' ∧ depth = 0 then do .ok (.move (.flags {}) (← args.select read))
    else if c = ')' then .ok (.move (.key (depth - 1) (read ++ [c])) args)
    else if c = '(' then .ok (.move (.key (depth + 1) (read ++ [c])) args)
    else .ok (.move (.key depth (read ++ [c])) args)
  | .flags spec, args, c => spec.afterFlags u c args
  | .width spec, args, c =>
    if c.isAsciiDigit then
      .ok (.move (.width { spec with width := some (spec.width.getD 0 * 10 + digitValue c) }) args)
    else spec.afterWidth u c args
  | .point spec, args, c =>
    if c = '*' then .error .typeError
    else if c.isAsciiDigit then
      .ok (.move (.precision { spec with precision := some (digitValue c) }) args)
    else ({ spec with precision := some 0 } : FormatSpec).afterPrecision u c args
  | .precision spec, args, c =>
    if c.isAsciiDigit then
      .ok (.move
        (.precision { spec with precision := some (spec.precision.getD 0 * 10 + digitValue c) })
        args)
    else spec.afterPrecision u c args
  | .lengthModifier spec, args, c => spec.finishStep u c args

/-- Run the reader over the rest of the format. -/
def formatRun (u : UnicodeData) : FormatState → FormatArgs → Text → Except FormatError Text
  | .literal, args, [] => if args.exhausted then .ok [] else .error .typeError
  | _, _, [] => .error .valueError
  | state, args, c :: rest => do
    match ← formatStep u state args c with
    | .move state' args' => formatRun u state' args' rest
    | .emit t args' => do .ok (t ++ (← formatRun u .literal args' rest))

/-- `fmt % values` for a tuple of texts. -/
def percentFormat (u : UnicodeData) (fmt : Text) (values : List Text) : Except FormatError Text :=
  formatRun u .literal (.positional values) fmt

/-- `fmt % mapping` for a mapping from names to texts. -/
def percentFormatMapping (u : UnicodeData) (fmt : Text) (mapping : List (Text × Text)) :
    Except FormatError Text :=
  formatRun u .literal (.named mapping (.mapping mapping) false) fmt

end Python
end DaftOlap
