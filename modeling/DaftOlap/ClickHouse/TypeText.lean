/-
The text of ClickHouse types (`clickhouse/schema.py`).

`splitTypeArguments`, `parseClickHouseType` and the regular expressions of the
module, which are small enough to be read as deterministic scanners: each names
the pattern it stands for.
-/
import DaftOlap.Common.Errors
import DaftOlap.Python.Except
import DaftOlap.Python.Value

namespace DaftOlap
namespace ClickHouse

open Python

/-! ## Regular expressions -/

/-- `_TYPE_NAME.fullmatch`: `[A-Za-z][A-Za-z0-9_]*`. -/
def isTypeName : Text → Bool
  | [] => false
  | c :: rest => c.isAsciiLetter && rest.all PyChar.isNameChar

/-- `_INTEGER.fullmatch`: `[0-9]+`. -/
def isInteger (t : Text) : Bool := t ≠ [] && t.all PyChar.isAsciiDigit

/-- A character of `[A-Za-z0-9_+./:-]`. -/
def isTimeZoneChar (c : PyChar) : Bool :=
  c.isNameChar || c == '+' || c == '.' || c == '/' || c == ':' || c == '-'

/-- `_TIME_ZONE.fullmatch`: quoted, non-empty, of the characters above. -/
def isTimeZone (t : Text) : Bool :=
  match t with
  | c :: rest =>
    c == '\'' && rest.getLast? == some (PyChar.scalar '\'') && 1 < rest.length &&
      rest.dropLast.all isTimeZoneChar
  | [] => false

/-- The rest of a backtick-quoted field name, after its opening backtick, and what
follows it: ``(?:[^`\\]|\\.|``)+` ``. -/
def quotedFieldName? : Text → Option (Text × Text)
  | [] => none
  | [c] => if c = '`' then some ([c], []) else none
  | c :: d :: rest =>
    if c = '`' then
      if d = '`' then (quotedFieldName? rest).map fun r => (c :: d :: r.1, r.2)
      else some ([c], d :: rest)
    else if c = '\\' then
      if d = '\n' then none else (quotedFieldName? rest).map fun r => (c :: d :: r.1, r.2)
    else (quotedFieldName? (d :: rest)).map fun r => (c :: r.1, r.2)

/-- The name group of `_TUPLE_FIELD` at the start of a text, and the rest. -/
def fieldName? (t : Text) : Option (Text × Text) :=
  match t with
  | [] => none
  | c :: rest =>
    if c = '`' then
      match quotedFieldName? rest with
      | none => none
      | some (name, after) => if name = [PyChar.scalar '`'] then none else some (c :: name, after)
    else (Text.parameterName? t).map fun name => (name, t.drop name.length)

/-- The type group of `_TUPLE_FIELD`, after `\s+`: the rest after the white space,
or its last character when nothing else is left. -/
def fieldType? (t : Text) : Option Text :=
  let space := t.takeWhile PyChar.isSpace
  let rest := t.dropWhile PyChar.isSpace
  if space = [] then none
  else
    let group := if rest = [] then space.tail.getLast?.toList else rest
    if group = [] ∨ PyChar.scalar '\n' ∈ group then none else some group

/-- `_tuple_field`. -/
def tupleField (argument : Text) : Option (Text × Text) := do
  let (name, rest) ← fieldName? argument
  let type ← fieldType? rest
  return (name, type)

/-! ## Splitting arguments -/

/-- The variables of the loop of `split_type_arguments`; `current` is the text from
`start` up to the current index. -/
structure SplitState where
  parts : List Text := []
  current : Text := []
  depth : Nat := 0
  quote : Option PyChar := none
  escaped : Bool := false

def unbalancedType (value : Text) : PyException :=
  schemaError [.text "unbalanced ClickHouse type: ", .repr value]

def emptyTypeArgument (value : Text) : PyException :=
  schemaError [.text "empty ClickHouse type argument: ", .repr value]

/-- One iteration of the loop. -/
def splitStep (value : Text) (state : SplitState) (character : PyChar) :
    Except PyException SplitState :=
  let next := { state with current := state.current ++ [character] }
  match state.quote with
  | some quote =>
    if state.escaped then .ok { next with escaped := false }
    else if character = '\\' then .ok { next with escaped := true }
    else if character = quote then .ok { next with quote := none }
    else .ok next
  | none =>
    if character = '\'' ∨ character = '"' ∨ character = '`' then
      .ok { next with quote := some character }
    else if character = '(' then .ok { next with depth := state.depth + 1 }
    else if character = ')' then
      if state.depth = 0 then .error (unbalancedType value)
      else .ok { next with depth := state.depth - 1 }
    else if character = ',' ∧ state.depth = 0 then
      let part := Text.strip state.current
      if part = [] then .error (emptyTypeArgument value)
      else .ok { state with parts := state.parts ++ [part], current := [] }
    else .ok next

/-- Split comma-delimited type arguments while respecting nesting and quoted strings. -/
def splitTypeArguments (value : Text) : Except PyException (List Text) := do
  let state ← value.foldlM (splitStep value) {}
  if state.quote ≠ none ∨ state.depth ≠ 0 then .error (unbalancedType value)
  else
    let final := Text.strip state.current
    if final = [] then .error (emptyTypeArgument value)
    else .ok (state.parts ++ [final])

/-! ## Type constructors -/

/-- A parsed ClickHouse type constructor. -/
structure ClickHouseType where
  name : Text
  arguments : List Text := []
deriving DecidableEq

/-- Parse one complete type constructor without guessing malformed syntax. -/
def parseClickHouseType (value : Text) : Except PyException ClickHouseType := do
  let text := Text.strip value
  if text = [] then .error (schemaError "ClickHouse type must not be empty")
  else
    let head := text.takeWhile (· ≠ PyChar.scalar '(')
    if head.length = text.length then
      if isTypeName text then .ok { name := text }
      else .error (schemaError [.text "invalid ClickHouse type: ", .repr value])
    else if text.getLast? ≠ some (PyChar.scalar ')') then
      .error (schemaError [.text "invalid ClickHouse type: ", .repr value])
    else
      let name := Text.strip head
      if ¬ isTypeName name then
        .error (schemaError [.text "invalid ClickHouse type constructor: ", .repr value])
      else
        let arguments ← splitTypeArguments (text.drop (head.length + 1)).dropLast
        .ok { name, arguments }

/-! ## Arguments are shorter than the type -/

theorem length_strip_le (t : Text) : (Text.strip t).length ≤ t.length := by
  have hright := (List.rdropWhile_prefix (p := PyChar.isSpace)
    (l := t.dropWhile PyChar.isSpace)).length_le
  have hleft := (List.dropWhile_suffix (l := t) PyChar.isSpace).length_le
  exact Nat.le_trans hright hleft

/-- No part the loop has cut off is longer than what it has read. -/
theorem splitStep_length {value : Text} {state next : SplitState} {character : PyChar} {n : Nat}
    (h : splitStep value state character = .ok next)
    (hstate : state.current.length ≤ n ∧ ∀ part ∈ state.parts, part.length ≤ n) :
    next.current.length ≤ n + 1 ∧ ∀ part ∈ next.parts, part.length ≤ n + 1 := by
  have hgrow : (state.current ++ [character]).length ≤ n + 1 ∧
      ∀ part ∈ state.parts, part.length ≤ n + 1 := by
    refine ⟨by simpa using hstate.1, fun part hpart => ?_⟩
    exact Nat.le_succ_of_le (hstate.2 part hpart)
  unfold splitStep at h
  split at h
  · split at h
    · rw [← Except.ok.inj h]; exact hgrow
    · split at h
      · rw [← Except.ok.inj h]; exact hgrow
      · split at h <;> (rw [← Except.ok.inj h]; exact hgrow)
  · split at h
    · rw [← Except.ok.inj h]; exact hgrow
    · split at h
      · rw [← Except.ok.inj h]; exact hgrow
      · split at h
        · split at h
          · cases h
          · rw [← Except.ok.inj h]; exact hgrow
        · split at h
          · simp only at h
            split at h
            · cases h
            · rw [← Except.ok.inj h]
              refine ⟨Nat.zero_le _, fun part hpart => ?_⟩
              rcases List.mem_append.mp hpart with hpart | hpart
              · exact hgrow.2 part hpart
              · rw [List.mem_singleton.mp hpart]
                exact Nat.le_succ_of_le (Nat.le_trans (length_strip_le _) hstate.1)
          · rw [← Except.ok.inj h]; exact hgrow

theorem splitTypeArguments_length {value : Text} {parts : List Text}
    (h : splitTypeArguments value = .ok parts) : ∀ part ∈ parts, part.length ≤ value.length := by
  have hfold : ∀ (t : Text) (state final : SplitState) (n : Nat),
      t.foldlM (splitStep value) state = .ok final →
      (state.current.length ≤ n ∧ ∀ part ∈ state.parts, part.length ≤ n) →
      final.current.length ≤ n + t.length ∧ ∀ part ∈ final.parts, part.length ≤ n + t.length := by
    intro t
    induction t with
    | nil =>
      intro state final n h hstate
      rw [← Except.ok.inj h]
      exact hstate
    | cons c t ih =>
      intro state final n h hstate
      rw [List.foldlM_cons] at h
      obtain ⟨next, hnext, h⟩ := bind_eq_ok.mp h
      have := ih next final (n + 1) h (splitStep_length hnext hstate)
      rw [List.length_cons, ← Nat.add_assoc, Nat.add_right_comm]
      exact this
  obtain ⟨state, hstate, h⟩ := bind_eq_ok.mp h
  have hbound := hfold value {} state 0 hstate ⟨Nat.le_refl 0, fun part hpart => by cases hpart⟩
  rw [Nat.zero_add] at hbound
  split at h
  · cases h
  · simp only at h
    split at h
    · cases h
    · rw [← Except.ok.inj h]
      intro part hpart
      rcases List.mem_append.mp hpart with hpart | hpart
      · exact hbound.2 part hpart
      · rw [List.mem_singleton.mp hpart]
        exact Nat.le_trans (length_strip_le _) hbound.1

/-- The arguments of a type are shorter than the type. -/
theorem parseClickHouseType_length {value : Text} {parsed : ClickHouseType}
    (h : parseClickHouseType value = .ok parsed) :
    ∀ argument ∈ parsed.arguments, argument.length < value.length := by
  unfold parseClickHouseType at h
  simp only at h
  split at h
  · cases h
  · next hne =>
    split at h
    · split at h
      · rw [← Except.ok.inj h]
        simp
      · cases h
    · split at h
      · cases h
      · split at h
        · cases h
        · obtain ⟨arguments, harguments, h⟩ := bind_eq_ok.mp h
          rw [← Except.ok.inj h]
          intro argument hargument
          have hle := splitTypeArguments_length harguments argument hargument
          have hpos : 0 < (Text.strip value).length := List.length_pos_iff.mpr hne
          have hstrip := length_strip_le value
          rw [List.length_dropLast, List.length_drop] at hle
          omega

end ClickHouse
end DaftOlap
