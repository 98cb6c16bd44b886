/-
ClickHouse predicate rendering and SELECT construction (`clickhouse/sql.py`).

Three sources of parameters share one dict: the caller's names, the numbered
literals of the predicate and the numbered partition IDs.  A dict is an association
list in insertion order.
-/
import DaftOlap.ClickHouse.Schema
import DaftOlap.Common.Select

namespace DaftOlap
namespace ClickHouse

open Python

/-! ## Parameters -/

/-- `_PARAMETER_PREFIX`. -/
def parameterPrefix : Text := str "__daft_olap_"

/-- `parameters[key] = value`. -/
def dictSet (key : Text) (value : PyValue) : List (Text × PyValue) → List (Text × PyValue)
  | [] => [(key, value)]
  | (k, v) :: rest => if k = key then (k, value) :: rest else (k, v) :: dictSet key value rest

/-- `parameters.update(items)`. -/
def dictUpdate (parameters items : List (Text × PyValue)) : List (Text × PyValue) :=
  items.foldl (fun d item => dictSet item.1 item.2 d) parameters

/-- The name of the literal a renderer binds after `n` others. -/
def literalName (n : Nat) : Text := parameterPrefix ++ natText n

/-- The name of the partition ID after `n` others. -/
def partitionName (n : Nat) : Text := parameterPrefix ++ str "partition_" ++ natText n

/-! ## Predicates -/

/-- What `_Renderer._value` writes for a literal. -/
def writeLiteral : LiteralWriter (Text × PyValue) := fun params v =>
  let name := literalName params.length
  .ok (namedPlaceholder name, params ++ [(name, v)])

/-- Render the connector IR independently for ClickHouse. -/
def renderPredicate (predicate : Predicate) : Except PyException (Text × List (Text × PyValue)) :=
  renderWith writeLiteral [] predicate

/-! ## Projections -/

/-- `_render_projection`. -/
def renderProjection (columns : List Text) (countOutputName : Option Text)
    (projection : Option (List (Text × Option Text))) : Except PyException Text :=
  match countOutputName, projection with
  | some name, _ => do return str "count() AS " ++ (← quoteIdentifier name)
  | none, none => quoteColumns columns
  | none, some projection =>
    if projection.map Prod.fst ≠ columns then
      .error (configurationError "ClickHouse projection must match the selected columns")
    else do
      let expressions ← projection.mapM fun (name, castType) => do
        let expression ← renderCast name castType
        castType.forM validateTypeExpression
        return expression
      return Text.join (str ", ") expressions

/-! ## Trusted fragments -/

/-- The name of a marker `%(name)s` whose percent sign comes before `rest`. -/
def markerName? : Text → Option Text
  | [] => none
  | c :: rest =>
    if c ≠ '(' then none
    else
      match Text.parameterName? rest with
      | none => none
      | some name => if str ")s" <+: rest.drop name.length then some name else none

/-- The loop of `_render_unsafe_fragment`: the rendered text and the names used. -/
def fragmentLoop (valuesByName : List (Text × PyValue)) (bindRequired : Bool) :
    (skip : Nat) → (rendered : Text) → (used : List Text) → Text →
    Except PyException (Text × List Text)
  | _, rendered, used, [] => .ok (rendered, used)
  | skip + 1, rendered, used, _ :: rest =>
    fragmentLoop valuesByName bindRequired skip rendered used rest
  | 0, rendered, used, c :: rest =>
    if c ≠ '%' then fragmentLoop valuesByName bindRequired 0 (rendered ++ [c]) used rest
    else
      match markerName? rest with
      | some name =>
        if name ∉ valuesByName.map Prod.fst then
          .error (configurationError
            [.text "unsafe_where_sql references missing parameter ", .repr name])
        else
          fragmentLoop valuesByName bindRequired (name.length + 3)
            (rendered ++ namedPlaceholder name) (used ++ [name]) rest
      | none =>
        fragmentLoop valuesByName bindRequired 0
          (rendered ++ if bindRequired then str "%%" else str "%") used rest

/-- Protect literal percent signs while preserving declared ClickHouse placeholders. -/
def renderUnsafeFragment (fragment : Text) (queryParameters : List (Text × PyValue))
    (bindRequired : Bool) : Except PyException Text := do
  let names := queryParameters.map Prod.fst
  if ¬ names.Nodup then
    .error (configurationError "ClickHouse query_parameters must not contain duplicate names")
  else
    let (rendered, used) ← fragmentLoop queryParameters bindRequired 0 [] [] fragment
    let unused := names.filter (· ∉ used)
    if unused ≠ [] then
      .error (configurationError
        [.text "unused ClickHouse query parameters: ",
          .plain (Text.join (str ", ") (Text.sorted unused))])
    else .ok rendered

/-! ## SELECT -/

/-- The partition IDs with their parameter names, from number `n` on. -/
def namedPartitions : Nat → List Text → List (Text × PyValue)
  | _, [] => []
  | n, id :: ids => (partitionName n, .str id) :: namedPartitions (n + 1) ids

/-- `_render_partition_clause`: the clause and the parameters after it. -/
def renderPartitionClause (partitionIds : Option (List Text)) (parameters : List (Text × PyValue)) :
    Except PyException (Option Text × List (Text × PyValue)) :=
  match partitionIds with
  | none => .ok (none, parameters)
  | some ids =>
    if ids = [] then .error (configurationError "partition_ids must be None or non-empty")
    else
      let named := namedPartitions 0 ids
      .ok (some (str "(_partition_id IN (" ++
          Text.join (str ", ") (named.map fun p => namedPlaceholder p.1) ++ str "))"),
        dictUpdate parameters named)

/-- The keyword arguments of `build_select`. -/
structure SelectArguments where
  table : QualifiedTable
  columns : List Text
  predicate : Option Predicate := none
  unsafeWhereSql : Option Text := none
  queryParameters : List (Text × PyValue) := []
  partitionIds : Option (List Text) := none
  limit : Option PyValue := none
  countOutputName : Option Text := none
  projection : Option (List (Text × Option Text)) := none

/-- The check on the names of the caller's parameters. -/
def checkParameterNames (queryParameters : List (Text × PyValue)) : Except PyException Unit :=
  let names := queryParameters.map Prod.fst
  if ¬ names.Nodup then
    .error (configurationError "ClickHouse query_parameters must not contain duplicate names")
  else if ∃ name ∈ names, parameterPrefix <+: name then
    .error (configurationError
      [.text "query parameter names must not start with ", .repr parameterPrefix])
  else .ok ()

/-- The trusted fragment of a SELECT, when there is one. -/
def renderFragment (a : SelectArguments) (bindRequired : Bool) : Except PyException (Option Text) :=
  match a.unsafeWhereSql with
  | some fragment => do
    return some (← renderUnsafeFragment fragment a.queryParameters bindRequired)
  | none =>
    if a.queryParameters ≠ [] then
      .error (configurationError "query_parameters require unsafe_where_sql")
    else .ok none

/-- Build a parameterized ClickHouse table scan or exact count. -/
def buildSelect (a : SelectArguments) : Except PyException (Text × List (Text × PyValue)) := do
  checkParameterNames a.queryParameters
  let projection ← renderProjection a.columns a.countOutputName a.projection
  let predicate ← a.predicate.mapM renderPredicate
  let parameters := dictUpdate a.queryParameters ((predicate.map Prod.snd).getD [])
  let (partitionClause, parameters) ← renderPartitionClause a.partitionIds parameters
  let fragment ← renderFragment a (parameters ≠ [])
  let clauses := (fragment.map fun t => str "(" ++ t ++ str ")").toList ++
    (predicate.map Prod.fst).toList ++ partitionClause.toList
  let limit ← renderLimit a.countOutputName a.limit
  return (str "SELECT " ++ projection ++ str " FROM " ++ a.table.sql ++ renderWhere clauses ++ limit,
    parameters)

/-- The statement `discover_schema` asks the declared types with. -/
def buildDescribe (table : QualifiedTable) : Text := str "DESCRIBE TABLE " ++ table.sql

/-- The zero-row statement `discover_schema` asks the transport schema with. -/
def buildSchemaProbe (table : QualifiedTable) (columns : List ClickHouseColumn) :
    Except PyException Text := do
  let projection ← renderSchemaProjection columns
  return str "SELECT " ++ projection ++ str " FROM " ++ table.sql ++ str " LIMIT 0"

end ClickHouse
end DaftOlap
