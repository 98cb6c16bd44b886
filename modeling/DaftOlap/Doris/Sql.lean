/-
Doris predicate rendering and TABLET SELECT construction (`doris/sql.py`).

The definitions follow the source function by function.  The loop of
`_render_unsafe_fragment` walks an index over the fragment; here it walks the
remaining text, with the previous character at hand for the test on `fragment[index
- 1]` and a count of the characters an earlier step has already consumed.
-/
import DaftOlap.Common.Select

namespace DaftOlap
namespace Doris

open Python

/-- `DorisParameterStyle`. -/
inductive ParameterStyle
  | mysql
  | flight
deriving DecidableEq, Repr

/-! ## Flight literals -/

/-- `_flight_string_literal`. -/
def flightStringLiteral (value : Text) : Except PyException Text :=
  match Text.encodeUtf8? value with
  | some encoded =>
    .ok (str "from_base64('" ++ (encodeBase64 encoded).map PyChar.scalar ++ str "')")
  | none => .error (configurationError "Doris Flight string parameters must be valid UTF-8")

/-- `_render_temporal_literal`, on the text of the value. -/
def renderTemporalLiteral (value : PyValue) (text : Text) : Except PyException Text :=
  if value.isTimezoneAware then
    .error (configurationError
      "timezone-aware datetime and time query parameters are not supported")
  else flightStringLiteral text

/-- Render one value without raw interpolation for Doris Flight SQL. -/
def renderFlightLiteral : PyValue → Except PyException Text
  | .none => .ok (str "NULL")
  | .bool b => .ok (if b then str "TRUE" else str "FALSE")
  | .int z => strInt z
  | .float f =>
    if f.isFinite then .ok (reprFloat f)
    else .error (configurationError "Doris Flight floating-point parameters must be finite")
  | .decimal d =>
    if d.isFinite then .ok (strDecimal d)
    else .error (configurationError "Doris Flight decimal parameters must be finite")
  | .bytes b => .ok (str "X'" ++ (hexBytes b).map PyChar.scalar ++ str "'")
  | .date d => renderTemporalLiteral (.date d) (strDate d)
  | .datetime d t => renderTemporalLiteral (.datetime d t) (strDate d ++ str " " ++ strTime t)
  | .time t => renderTemporalLiteral (.time t) (strTime t)
  | .str t => flightStringLiteral t
  | .uuid u => flightStringLiteral (strUuid u)
  | .other typeName =>
    .error (configurationError
      [.text "unsupported Doris Flight parameter type: ", .plain typeName])

/-! ## Predicates -/

/-- What `_Renderer._value` writes for a literal. -/
def writeLiteral : ParameterStyle → LiteralWriter PyValue
  | .mysql => fun params v => .ok (str "%s", params ++ [v])
  | .flight => fun params v => do return (← renderFlightLiteral v, params)

/-- Render the connector IR independently for a selected Doris protocol. -/
def renderPredicate (predicate : Predicate) (style : ParameterStyle) :
    Except PyException (Text × List PyValue) :=
  renderWith (writeLiteral style) [] predicate

/-! ## Trusted fragments -/

/-- The lists `_render_unsafe_fragment` appends to. -/
structure FragmentState where
  rendered : Text := []
  values : List PyValue := []
  used : List Text := []

/-- The text `append_raw` appends for one character. -/
def rawText (style : ParameterStyle) (bindRequired : Bool) (character : PyChar) : Text :=
  if character = '%' ∧ style = .mysql ∧ bindRequired = true then str "%%" else [character]

def FragmentState.appendRaw (style : ParameterStyle) (bindRequired : Bool) (character : PyChar)
    (state : FragmentState) : FragmentState :=
  { state with rendered := state.rendered ++ rawText style bindRequired character }

/-- The name of a marker whose colon is `character`, after `previous` and before
`rest`. -/
def markerName? (previous : Option PyChar) (character : PyChar) (rest : Text) : Option Text :=
  if character ≠ ':' ∨ previous = some (PyChar.scalar ':') then none
  else Text.parameterName? rest

/-- `_render_parameter_marker`, once the name of the marker is read. -/
def FragmentState.appendMarker (style : ParameterStyle) (valuesByName : List (Text × PyValue))
    (name : Text) (state : FragmentState) : Except PyException FragmentState :=
  match valuesByName.lookup name with
  | none =>
    .error (configurationError
      [.text "unsafe_where_sql references missing parameter ", .repr name])
  | some value => do
    let (replacement, values) ← match style with
      | .mysql => .ok (str "%s", state.values ++ [value])
      | .flight => do .ok (← renderFlightLiteral value, state.values)
    .ok { rendered := state.rendered ++ replacement, values, used := state.used ++ [name] }

/-- A character that opens a quoted text. -/
def isQuote (c : PyChar) : Bool := c = '\'' ∨ c = '"' ∨ c = '`'

/-- The loop of `_render_unsafe_fragment`, and the quote still open at its end. -/
def fragmentLoop (style : ParameterStyle) (bindRequired : Bool)
    (valuesByName : List (Text × PyValue)) : (skip : Nat) → (previous quote : Option PyChar) →
    FragmentState → Text → Except PyException (FragmentState × Option PyChar)
  | _, _, quote, state, [] => .ok (state, quote)
  | skip + 1, _, quote, state, character :: rest =>
    fragmentLoop style bindRequired valuesByName skip (some character) quote state rest
  | 0, _, some quote, state, character :: rest =>
    let state := state.appendRaw style bindRequired character
    if character = '\\' ∧ quote ≠ '`' ∧ rest ≠ [] then
      fragmentLoop style bindRequired valuesByName 1 (some character) (some quote)
        (state.appendRaw style bindRequired (rest.headD ' ')) rest
    else if character = quote then
      if rest.head? = some quote then
        fragmentLoop style bindRequired valuesByName 1 (some character) (some quote)
          (state.appendRaw style bindRequired quote) rest
      else fragmentLoop style bindRequired valuesByName 0 (some character) none state rest
    else fragmentLoop style bindRequired valuesByName 0 (some character) (some quote) state rest
  | 0, previous, none, state, character :: rest =>
    if isQuote character then
      fragmentLoop style bindRequired valuesByName 0 (some character) (some character)
        (state.appendRaw style bindRequired character) rest
    else
      match markerName? previous character rest with
      | some name => do
        let state ← state.appendMarker style valuesByName name
        fragmentLoop style bindRequired valuesByName name.length (some character) none state rest
      | none =>
        fragmentLoop style bindRequired valuesByName 0 (some character) none
          (state.appendRaw style bindRequired character) rest

/-- Translate neutral `:name` markers outside quotes into driver placeholders. -/
def renderUnsafeFragment (fragment : Text) (queryParameters : List (Text × PyValue))
    (style : ParameterStyle) (bindRequired : Bool) : Except PyException (Text × List PyValue) := do
  let names := queryParameters.map Prod.fst
  if ¬ names.Nodup then
    .error (configurationError "Doris query_parameters must not contain duplicate names")
  else
    let (state, quote) ← fragmentLoop style bindRequired queryParameters 0 none none {} fragment
    if quote ≠ none then
      .error (configurationError "unsafe_where_sql contains an unclosed quoted value")
    else
      let unused := names.filter (· ∉ state.used)
      if unused ≠ [] then
        .error (configurationError
          [.text "unused Doris query parameters: ", .plain (Text.join (str ", ") (Text.sorted unused))])
      else .ok (state.rendered, state.values)

/-! ## SELECT -/

/-- The keyword arguments of `build_select`. -/
structure SelectArguments where
  table : QualifiedTable
  columns : List Text
  style : ParameterStyle
  predicate : Option Predicate := none
  unsafeWhereSql : Option Text := none
  queryParameters : List (Text × PyValue) := []
  tabletIds : Option (List PyValue) := none
  limit : Option PyValue := none
  countOutputName : Option Text := none

/-- A value that passes the check on tablet IDs: a positive integer, not a `bool`. -/
def tabletId? : PyValue → Option Int
  | .int z => if 0 < z then some z else none
  | _ => none

/-- The projection of a SELECT. -/
def renderProjection (a : SelectArguments) : Except PyException Text :=
  match a.countOutputName with
  | some name => do return str "count(*) AS " ++ (← quoteIdentifier name)
  | none => quoteColumns a.columns

/-- The check on one tablet ID. -/
def checkTabletId (id : PyValue) : Except PyException Int :=
  match tabletId? id with
  | some z => .ok z
  | none => .error (configurationError "tablet IDs must be positive integers")

/-- The TABLET clause, empty when there is none. -/
def renderTablets : Option (List PyValue) → Except PyException Text
  | none => .ok []
  | some ids => do
    if ids = [] then .error (configurationError "tablet_ids must be None or non-empty")
    else
      let checked ← ids.mapM checkTabletId
      let texts ← checked.mapM strInt
      return str " TABLET(" ++ Text.join (str ", ") texts ++ str ")"

/-- The trusted fragment of a SELECT, when there is one. -/
def renderFragment (a : SelectArguments) (bindRequired : Bool) :
    Except PyException (Option (Text × List PyValue)) :=
  match a.unsafeWhereSql with
  | some fragment => do
    return some (← renderUnsafeFragment fragment a.queryParameters a.style bindRequired)
  | none =>
    if a.queryParameters ≠ [] then
      .error (configurationError "query_parameters require unsafe_where_sql")
    else .ok none

/-- Build a Doris table scan with TABLET placed before WHERE. -/
def buildSelect (a : SelectArguments) : Except PyException (Text × List PyValue) := do
  let projection ← renderProjection a
  let tablets ← renderTablets a.tabletIds
  let predicate ← a.predicate.mapM (renderPredicate · a.style)
  let predicateParameters := (predicate.map Prod.snd).getD []
  let fragment ← renderFragment a
    (a.style = .mysql ∧ (a.queryParameters ≠ [] ∨ predicateParameters ≠ []))
  let clauses := (fragment.map fun r => str "(" ++ r.1 ++ str ")").toList ++
    (predicate.map Prod.fst).toList
  let limit ← renderLimit a.countOutputName a.limit
  return (str "SELECT " ++ projection ++ str " FROM " ++ a.table.sql ++ tablets ++
      renderWhere clauses ++ limit,
    (fragment.map Prod.snd).getD [] ++ predicateParameters)

/-- Build a quoted Doris DESCRIBE statement. -/
def buildDescribe (table : QualifiedTable) : Text := str "DESCRIBE " ++ table.sql

end Doris
end DaftOlap
