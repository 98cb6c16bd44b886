/-
The conversations of the Doris driver side (`doris/discovery.py`).

Schema discovery and the binding of the planning SQL are sessions with PyMySQL: both open a
connection and a cursor.  The request to the planner comes after the second one is closed.
-/
import DaftOlap.Doris.Describe
import DaftOlap.Doris.Discovery
import DaftOlap.Doris.Errors
import DaftOlap.Doris.Request

namespace DaftOlap
namespace Doris

open Logic Python

variable {V : Type} [Fintype V] [DecidableEq V]

/-! ## Calls -/

/-- What discovery asks.  Connections and cursors are named by the number of turns before their
own. -/
inductive SessionCall (V : Type)
  /-- `import pymysql`. -/
  | importDriver
  | environ (name : Text)
  | connect (kwargs : Dict Text (Kwarg V))
  | cursor (connection : Nat)
  | execute (cursor : Nat) (sql : Text)
  | fetchMany (cursor : Nat) (size : Nat)
  | mogrify (cursor : Nat) (sql : Text) (parameters : List PyValue)
  | convert (field : ArrowField)
  /-- `_open_query_plan`, and the reading of the response. -/
  | exchange (request : PlanRequest) (timeout : TimeoutSeconds)
  | close (resource : Nat)

/-- What `mogrify` returns. -/
inductive Rendered
  | text (t : Text)
  | bytes (b : List UInt8)

/-- The answers: whether there is a driver, the value of a variable that is set, a batch of rows,
a rendered statement, the outcome of an exchange. -/
def SessionCall.Reply : SessionCall V → Type
  | importDriver => Bool
  | environ _ => Option Text
  | connect _ => Unit
  | cursor _ => Unit
  | execute _ _ => Unit
  | fetchMany _ _ => List (List PyValue)
  | mogrify _ _ _ => Rendered
  | convert _ => Unit
  | exchange _ _ => Exchange
  | close _ => Unit

/-- The resources of discovery are its connections and their cursors. -/
def handles (V : Type) : Resources (SessionCall V) Nat where
  opens
    | .connect _ => some id
    | .cursor _ => some id
    | _ => none
  close := .close
  closes
    | .close resource => some resource
    | _ => none
  number := id
  number_opens call resource h n := by
    cases call with
    | connect | cursor => rw [← Option.some.inj h]; rfl
    | importDriver | environ | execute | fetchMany | mogrify | convert | exchange | close => cases h
  closes_close _ := rfl
  opens_of_closes call r h := by
    cases call with
    | close resource => rfl
    | importDriver | environ | connect | cursor | execute | fetchMany | mogrify | convert
    | exchange => cases h

abbrev SessionDriver (V : Type) := Partner (@SessionCall.Reply V) Raised

abbrev Talk (V α : Type) := Session (@SessionCall.Reply V) Raised Nat α

/-- `mysql_driver`. -/
def mysqlDriver (partner : SessionDriver V) : Talk V Unit := do
  let installed : Bool ← ask partner .importDriver
  if installed then pure ()
  else throw (.daftOlap .dependency ("Doris support is not installed; " ++
    "install \"daft-olap-connectors[doris]\"" : String))

/-- The resolved password of a connection. -/
def resolvePassword (partner : SessionDriver V) (connection : DorisConnection V) : Talk V Text :=
  resolveSecret (fun name => ask partner (.environ name)) connection.password

/-- The cursor both sessions open, on a connection of its own. -/
def openCursor (g : ObjectGraph V) (pickle : g.Pickle) (partner : SessionDriver V)
    (connection : DorisConnection V) (timeouts : Timeouts) : Talk V Nat := do
  mysqlDriver partner
  let password ← resolvePassword partner connection
  let kwargs ← check (connection.mysqlKwargs g pickle timeouts password)
  let databaseConnection ← acquire partner (.connect kwargs) id
  acquire partner (.cursor databaseConnection) id

/-! ## Schema discovery -/

/-- The loop of `discover_schema`, which ends with the first empty batch; a driver that never
sends one is interrupted after `patience` batches. -/
def fetchAll (partner : SessionDriver V) (cursor : Nat) :
    Nat → List (List PyValue) → Talk V (List (List PyValue))
  | 0, _ => throw (.control .keyboardInterrupt)
  | patience + 1, rows => do
    let batch : List (List PyValue) ← ask partner (.fetchMany cursor 256)
    if batch = [] then pure rows
    else fetchAll partner cursor patience (rows ++ batch)

/-- The session of `discover_schema`. -/
def askSchema (u : CaseData) (g : ObjectGraph V) (pickle : g.Pickle) (partner : SessionDriver V)
    (patience : Nat) (connection : DorisConnection V) (table : QualifiedTable)
    (timeouts : Timeouts) : Talk V (List CanonicalField) := do
  let cursor ← openCursor g pickle partner connection timeouts
  ask partner (.execute cursor (buildDescribe table))
  let rows ← fetchAll partner cursor patience []
  let columns ← check (parseDescribeRows u rows)
  let arrowSchema ← check (canonicalSchema u columns)
  validateDaftArrowSchema (fun field => ask partner (.convert field))
    (arrowSchema.map CanonicalField.arrowField)
  pure arrowSchema

/-- The connector errors `discover_schema` does not replace. -/
def keptBySchema (kind : ErrorKind) : Bool :=
  kind = .compatibility ∨ kind = .dependency ∨ kind = .schema

def schemaHandlers (u : CaseData) (table : QualifiedTable) : Handlers Raised where
  ordinary := Raised.isOrdinary
  handle := handled keptBySchema (fun error => translateDorisError u error "schema discovery")
    (.daftOlap .schema [.text "failed to discover Doris schema for ", .repr table.database,
      .text ".", .repr table.table])
  closeFailed := .daftOlap .schema "failed to close Doris schema discovery resources"

/-- Use Doris DESCRIBE as the canonical schema authority for both transports. -/
def discoverSchema (u : CaseData) (g : ObjectGraph V) (pickle : g.Pickle) (partner : SessionDriver V)
    (patience : Nat) (connection : DorisConnection V) (table : QualifiedTable)
    (timeouts : Timeouts) : Failing (Turn (@SessionCall.Reply V) Raised) Raised (List CanonicalField) :=
  runSession (handles V) partner (schemaHandlers u table)
    (askSchema u g pickle partner patience connection table timeouts)

/-! ## Tablet discovery -/

/-- The session of `_materialize_plan_sql`. -/
def askRendered (g : ObjectGraph V) (pickle : g.Pickle) (partner : SessionDriver V)
    (connection : DorisConnection V) (timeouts : Timeouts) (sql : Text)
    (parameters : List PyValue) : Talk V Rendered := do
  let cursor ← openCursor g pickle partner connection timeouts
  ask partner (.mogrify cursor sql parameters)

/-- The handlers of `_materialize_plan_sql`: every connector error is kept. -/
def bindingHandlers (u : CaseData) : Handlers Raised where
  ordinary := Raised.isOrdinary
  handle := handled (fun _ => true)
    (fun error => translateDorisError u error "tablet query binding")
    (.daftOlap .discovery "failed to bind the Doris tablet-planning query")
  closeFailed := .daftOlap .discovery "failed to close Doris query binding resources"

/-- The text of what `mogrify` returned; a `UnicodeDecodeError` is a `ValueError`. -/
def Rendered.read : Rendered → Except PyException Text
  | text t => .ok t
  | bytes b =>
    match Text.decodeUtf8? b with
    | some t => .ok t
    | none => .error .valueError

/-- Ask PyMySQL to escape bound values before sending SQL to the parameterless HTTP API. -/
def materializePlanSql (u : CaseData) (g : ObjectGraph V) (pickle : g.Pickle)
    (partner : SessionDriver V) (connection : DorisConnection V) (timeouts : Timeouts)
    (sql : Text) (parameters : List PyValue) :
    Failing (Turn (@SessionCall.Reply V) Raised) Raised Text :=
  if parameters = [] then pure sql
  else do
    let rendered ← runSession (handles V) partner (bindingHandlers u)
      (askRendered g pickle partner connection timeouts sql parameters)
    raising rendered.read

/-- The request of `discover_tablets`, with nothing to close. -/
def askPlan (partner : SessionDriver V) (connection : DorisConnection V) (table : QualifiedTable)
    (timeout : TimeoutSeconds) (sql : Text) : Talk V Exchange := do
  let url ← check (queryPlanUrl connection table)
  let password ← resolvePassword partner connection
  let authorization ← check (basicAuthorization connection.username password)
  ask partner (.exchange ⟨url, authorization, (planBody sql).flatMap String.utf8EncodeChar⟩ timeout)

/-- Call FE's SELECT-authorized `_query_plan` endpoint and return pruned tablet IDs. -/
def discoverTabletsIn (u : CaseData) (loads : Text → Except JsonFailure Json) (g : ObjectGraph V)
    (pickle : g.Pickle) (partner : SessionDriver V) (connection : DorisConnection V)
    (table : QualifiedTable) (timeouts : Timeouts) (planningTimeoutSeconds : PyValue)
    (query : Text × List PyValue) : Failing (Turn (@SessionCall.Reply V) Raised) Raised (List Int) := do
  let timeout ← raising
    (validateTimeoutSeconds "planning_timeout_seconds" planningTimeoutSeconds)
  let sql ← materializePlanSql u g pickle partner connection timeouts query.1 query.2
  let exchange ← alone (askPlan partner connection table timeout sql)
  raising (discoverTablets u.toUnicodeData loads exchange)

/-! ## What discovery asks -/

section Asks

variable {u : CaseData} {g : ObjectGraph V} {pickle : g.Pickle} {partner : SessionDriver V}
  {connection : DorisConnection V} {table : QualifiedTable} {timeouts : Timeouts}

/-- The password of a connection, in the environment a driver answers for. -/
def Resolved (partner : SessionDriver V) (connection : DorisConnection V) : Text → Prop :=
  connection.password.Resolves fun name value => ∃ log, partner log (.environ name) = .ok value

/-- The questions of a discovery that executes the statements `statements`, binds the queries
`binds` and sends the requests `requests`: its connections get the arguments of the settings and
the password, and only the variable that holds the password is looked up. -/
inductive Asked (g : ObjectGraph V) (pickle : g.Pickle) (partner : SessionDriver V)
    (connection : DorisConnection V) (timeouts : Timeouts) (statements : Text → Prop)
    (binds : Text → List PyValue → Prop) (requests : PlanRequest → Prop) : SessionCall V → Prop
  | importDriver : Asked g pickle partner connection timeouts statements binds requests .importDriver
  | environ {ref : SecretRef} (h : connection.password = .reference ref) :
      Asked g pickle partner connection timeouts statements binds requests
        (.environ ref.environmentVariable)
  | connect {password : Text} {kwargs : Dict Text (Kwarg V)}
      (hpassword : Resolved partner connection password)
      (h : connection.mysqlKwargs g pickle timeouts password = .ok kwargs) :
      Asked g pickle partner connection timeouts statements binds requests (.connect kwargs)
  | cursor {databaseConnection : Nat} :
      Asked g pickle partner connection timeouts statements binds requests (.cursor databaseConnection)
  | execute {cursor : Nat} {sql : Text} (h : statements sql) :
      Asked g pickle partner connection timeouts statements binds requests (.execute cursor sql)
  | fetchMany {cursor size : Nat} :
      Asked g pickle partner connection timeouts statements binds requests (.fetchMany cursor size)
  | mogrify {cursor : Nat} {sql : Text} {parameters : List PyValue} (h : binds sql parameters) :
      Asked g pickle partner connection timeouts statements binds requests (.mogrify cursor sql parameters)
  | convert {field : ArrowField} :
      Asked g pickle partner connection timeouts statements binds requests (.convert field)
  | exchange {request : PlanRequest} {timeout : TimeoutSeconds} (h : requests request) :
      Asked g pickle partner connection timeouts statements binds requests (.exchange request timeout)

variable {statements : Text → Prop} {binds : Text → List PyValue → Prop}
  {requests : PlanRequest → Prop}

/-- The rows that a turn brought. -/
def sentRows (turn : Turn (@SessionCall.Reply V) Raised) : List (List PyValue) :=
  match turn with
  | ⟨.fetchMany _ _, .ok batch⟩ => batch
  | _ => []

/-- The turns of a discovery that bring no rows. -/
def Quiet (g : ObjectGraph V) (pickle : g.Pickle) (partner : SessionDriver V)
    (connection : DorisConnection V) (timeouts : Timeouts) (statements : Text → Prop)
    (binds : Text → List PyValue → Prop) (requests : PlanRequest → Prop)
    (turn : Turn (@SessionCall.Reply V) Raised) : Prop :=
  Asked g pickle partner connection timeouts statements binds requests turn.call ∧ sentRows turn = []

omit [Fintype V] [DecidableEq V] in
theorem flatMap_sentRows_of_quiet {turns : List (Turn (@SessionCall.Reply V) Raised)}
    (h : ∀ turn ∈ turns, sentRows turn = []) : turns.flatMap sentRows = [] :=
  List.flatMap_eq_nil_iff.mpr h

theorem orderly_mysqlDriver :
    Orderly (handles V) (Quiet g pickle partner connection timeouts statements binds requests)
      (fun _ => True) (mysqlDriver partner) := by
  refine (Orderly.ask rfl rfl (fun _ => ⟨.importDriver, rfl⟩) fun _ _ _ => trivial).bind
    fun installed _ => ?_
  cases installed with
  | true => exact Orderly.pure trivial
  | false => exact Orderly.throw _

omit [Fintype V] [DecidableEq V] in
theorem orderly_resolvePassword {asks : Turn (@SessionCall.Reply V) Raised → Prop}
    (h : ∀ ref answer, connection.password = .reference ref →
      asks ⟨.environ ref.environmentVariable, answer⟩) :
    Orderly (handles V) asks (Resolved partner connection) (resolvePassword partner connection) :=
  orderly_resolveSecret fun ref href =>
    Orderly.ask rfl rfl (fun answer => h ref answer href) fun log _ h => ⟨log, h⟩

theorem orderly_openCursor :
    Orderly (handles V) (Quiet g pickle partner connection timeouts statements binds requests)
      (fun _ => True) (openCursor g pickle partner connection timeouts) := by
  have hconnect : ∀ password kwargs,
      Resolved partner connection password →
      connection.mysqlKwargs g pickle timeouts password = .ok kwargs →
      Orderly (handles V) (Quiet g pickle partner connection timeouts statements binds requests)
        (fun _ => True) (acquire partner (.connect kwargs) id) :=
    fun password kwargs hpassword h =>
      Orderly.acquire rfl (fun _ => ⟨.connect hpassword h, rfl⟩) fun _ => trivial
  have hpassword : Orderly (handles V)
      (Quiet g pickle partner connection timeouts statements binds requests)
      (Resolved partner connection) (resolvePassword partner connection) :=
    orderly_resolvePassword fun _ _ href => ⟨.environ href, rfl⟩
  exact orderly_mysqlDriver.bind fun _ _ => hpassword.bind fun password hresolved =>
    orderlyWith_check_bind fun kwargs h => (hconnect password kwargs hresolved h).bind
      fun databaseConnection _ => Orderly.acquire rfl (fun _ => ⟨.cursor, rfl⟩) fun _ => trivial

/-- The loop returns the rows it was given and all that it was sent, up to an empty batch. -/
theorem discovers_fetchAll (cursor patience : Nat) (rows : List (List PyValue)) :
    OrderlyWith (handles V)
      (fun turn => Asked g pickle partner connection timeouts statements binds requests turn.call)
      (fun turns out => out = rows ++ turns.flatMap sentRows ∧
        ⟨.fetchMany cursor 256, .ok []⟩ ∈ turns)
      (fetchAll partner cursor patience rows) := by
  induction patience generalizing rows with
  | zero => exact OrderlyWith.throw _
  | succ patience ih =>
    have hbatch : OrderlyWith (handles V)
        (fun turn => Asked g pickle partner connection timeouts statements binds requests turn.call)
        (fun turns (batch : List (List PyValue)) => turns = [⟨.fetchMany cursor 256, .ok batch⟩])
        (ask partner (.fetchMany cursor 256)) :=
      OrderlyWith.ask rfl rfl (fun _ => .fetchMany) fun _ _ _ => rfl
    refine hbatch.bind fun turns (batch : List (List PyValue)) hturns => ?_
    have hsent : turns.flatMap sentRows = batch := by
      rw [hturns]
      exact List.append_nil batch
    by_cases hempty : batch = []
    · rw [if_pos hempty]
      refine OrderlyWith.pure ⟨?_, ?_⟩
      · rw [List.append_nil, hsent, hempty, List.append_nil]
      · rw [List.append_nil, hturns, hempty]
        exact List.mem_singleton_self _
    · rw [if_neg hempty]
      refine (ih (rows ++ batch)).imp fun later out h => ⟨?_, List.mem_append_right _ h.2⟩
      rw [h.1, List.flatMap_append, hsent, List.append_assoc]

/-- What schema discovery finds: one field for each row that it was sent, which the row declares;
and all rows were sent, as the last batch was empty. -/
structure Described (u : CaseData) (turns : List (Turn (@SessionCall.Reply V) Raised))
    (arrowSchema : List CanonicalField) : Prop where
  fields : ∃ columns, List.Forall₂ (Declared u) (turns.flatMap sentRows) columns ∧
    columns ≠ [] ∧ (columns.map DorisColumn.name).Nodup ∧
    List.Forall₂ (Canonical u) columns arrowSchema
  ended : ∃ cursor, ⟨.fetchMany cursor 256, .ok []⟩ ∈ turns

omit [Fintype V] [DecidableEq V] in
theorem Described.append {turns after : List (Turn (@SessionCall.Reply V) Raised)}
    {arrowSchema : List CanonicalField} (h : Described u turns arrowSchema)
    (hquiet : ∀ turn ∈ after, sentRows turn = []) : Described u (turns ++ after) arrowSchema := by
  obtain ⟨columns, hdeclared, hrest⟩ := h.fields
  obtain ⟨cursor, hended⟩ := h.ended
  refine ⟨⟨columns, ?_, hrest⟩, cursor, List.mem_append_left _ hended⟩
  rwa [List.flatMap_append, flatMap_sentRows_of_quiet hquiet, List.append_nil]

theorem discovers_askSchema {patience : Nat} :
    OrderlyWith (handles V)
      (fun turn => Asked g pickle partner connection timeouts (· = buildDescribe table)
        (fun _ _ => False) (fun _ => False) turn.call)
      (Described u) (askSchema u g pickle partner patience connection table timeouts) := by
  have hexecute : ∀ cursor, Orderly (handles V)
      (Quiet g pickle partner connection timeouts (· = buildDescribe table) (fun _ _ => False)
        fun _ => False)
      (fun _ => True) (ask partner (.execute cursor (buildDescribe table))) :=
    fun cursor => Orderly.ask rfl rfl (fun _ => ⟨.execute rfl, rfl⟩) fun _ _ _ => trivial
  have hconsumable : ∀ arrowSchema : List CanonicalField, Orderly (handles V)
      (Quiet g pickle partner connection timeouts (· = buildDescribe table) (fun _ _ => False)
        fun _ => False)
      (fun _ => True) (validateDaftArrowSchema (fun field => ask partner (.convert field))
        (arrowSchema.map CanonicalField.arrowField)) :=
    fun arrowSchema => orderly_validateDaftArrowSchema fun field _ =>
      Orderly.ask rfl rfl (fun _ => ⟨.convert, rfl⟩) fun _ _ _ => trivial
  refine (orderly_openCursor.asked fun _ => And.left).bind fun opening cursor hopening =>
    ((hexecute cursor).asked fun _ => And.left).bind fun executing _ hexecuting =>
      (discovers_fetchAll cursor patience []).bind fun fetching rows hfetching =>
        orderlyWith_check_bind fun columns hparsed => orderlyWith_check_bind
          fun arrowSchema hfields => ((hconsumable arrowSchema).asked fun _ => And.left).bind
            fun converting _ hconverting => OrderlyWith.pure ?_
  obtain ⟨hdeclared, hne, hnodup⟩ := parseDescribeRows_eq_ok_iff.mp hparsed
  have hrows : (opening ++ (executing ++ (fetching ++ (converting ++ [])))).flatMap sentRows =
      rows := by
    rw [List.flatMap_append, List.flatMap_append, List.flatMap_append, List.append_nil,
      flatMap_sentRows_of_quiet fun turn hturn => (hopening.2 turn hturn).2,
      flatMap_sentRows_of_quiet fun turn hturn => (hexecuting.2 turn hturn).2,
      flatMap_sentRows_of_quiet fun turn hturn => (hconverting.2 turn hturn).2, List.append_nil]
    exact hfetching.1.symm
  refine ⟨⟨columns, ?_, hne, hnodup, canonicalSchema_eq_ok_iff.mp hfields⟩, cursor, ?_⟩
  · rwa [hrows]
  · exact List.mem_append_right _ (List.mem_append_right _ (List.mem_append_left _ hfetching.2))

/-- What a driver made of a statement and its values, in these turns. -/
def Mogrified (partner : SessionDriver V) (sql : Text) (parameters : List PyValue)
    (turns : List (Turn (@SessionCall.Reply V) Raised)) (rendered : Rendered) : Prop :=
  ∃ cursor, Heard partner turns (.mogrify cursor sql parameters) rendered

theorem discovers_askRendered {sql : Text} {parameters : List PyValue} :
    OrderlyWith (handles V)
      (fun turn => Asked g pickle partner connection timeouts (fun _ => False)
        (fun sql' parameters' => sql' = sql ∧ parameters' = parameters) requests turn.call)
      (Mogrified partner sql parameters)
      (askRendered g pickle partner connection timeouts sql parameters) := by
  refine (orderly_openCursor.asked fun _ => And.left).bind fun opening cursor _ => ?_
  refine (OrderlyWith.heard rfl rfl fun _ => .mogrify ⟨rfl, rfl⟩).imp fun turns rendered h => ?_
  have hheard := h.append opening []
  rw [List.append_nil] at hheard
  exact ⟨cursor, hheard⟩

/-- The outcome of the exchange in these turns, for the request of a statement. -/
def Exchanged (partner : SessionDriver V) (connection : DorisConnection V) (table : QualifiedTable)
    (sql : Text) (turns : List (Turn (@SessionCall.Reply V) Raised)) (exchange : Exchange) : Prop :=
  ∃ password request timeout, Resolved partner connection password ∧
    planRequest connection table password sql = .ok request ∧
    Heard partner turns (.exchange request timeout) exchange

omit [Fintype V] [DecidableEq V] in
theorem planRequest_of_parts {password sql url authorization : Text}
    (hurl : queryPlanUrl connection table = .ok url)
    (hauthorization : basicAuthorization connection.username password = .ok authorization) :
    planRequest connection table password sql =
      .ok ⟨url, authorization, (planBody sql).flatMap String.utf8EncodeChar⟩ :=
  bind_eq_ok.mpr ⟨url, hurl, bind_eq_ok.mpr ⟨authorization, hauthorization, rfl⟩⟩

omit [Fintype V] [DecidableEq V] in
theorem orderly_askPlan {asks : Turn (@SessionCall.Reply V) Raised → Prop} {timeout : TimeoutSeconds}
    {sql : Text}
    (henviron : ∀ ref answer, connection.password = .reference ref →
      asks ⟨.environ ref.environmentVariable, answer⟩)
    (hexchange : ∀ password request answer, Resolved partner connection password →
      planRequest connection table password sql = .ok request →
      asks ⟨.exchange request timeout, answer⟩) :
    OrderlyWith (handles V) asks (Exchanged partner connection table sql)
      (askPlan partner connection table timeout sql) := by
  refine orderlyWith_check_bind fun url hurl => OrderlyWith.bind (orderly_resolvePassword henviron)
    fun resolving password hresolved => orderlyWith_check_bind fun authorization hauthorization => ?_
  have hrequest := @planRequest_of_parts V connection table password sql _ _ hurl hauthorization
  refine (OrderlyWith.heard rfl rfl fun answer => hexchange password _ answer hresolved hrequest).imp
    fun turns exchange h => ?_
  have hheard := h.append resolving []
  rw [List.append_nil] at hheard
  exact ⟨password, _, timeout, hresolved, hrequest, hheard⟩

/-! ## Whole runs -/

omit [Fintype V] [DecidableEq V] in
theorem isPublic_translateDorisError {error : DriverError} {operation : String} {e : Raised}
    (h : translateDorisError u error operation = some e) : e.IsPublic := by
  unfold translateDorisError at h
  simp only at h
  split at h
  · rw [← Option.some.inj h]
    exact trivial
  · split at h
    · rw [← Option.some.inj h]
      exact trivial
    · split at h
      · rw [← Option.some.inj h]
        exact trivial
      · cases h

theorem publicHandlers_schema (u : CaseData) (table : QualifiedTable) :
    PublicHandlers (schemaHandlers u table) :=
  publicHandlers_handled (fun _ _ h => isPublic_translateDorisError h) trivial trivial

theorem publicHandlers_binding (u : CaseData) : PublicHandlers (bindingHandlers u) :=
  publicHandlers_handled (fun _ _ h => isPublic_translateDorisError h) trivial trivial

/-- Both sessions with PyMySQL, with any driver and after any log: schema discovery executes
nothing but DESCRIBE, fetches up to an empty batch and returns one field for each row that it was
sent; the binding sends the one query and returns what became of it; each closes its cursor and
then its connection on every path, lets no exception of the driver out, and reports the first
failure. -/
theorem sessions_conversed (u : CaseData) (g : ObjectGraph V) (pickle : g.Pickle)
    (partner : SessionDriver V) (patience : Nat) (connection : DorisConnection V)
    (table : QualifiedTable) (timeouts : Timeouts) (sql : Text) (parameters : List PyValue)
    (log : List (Turn (@SessionCall.Reply V) Raised)) :
    Conversed (handles V) partner (schemaHandlers u table)
      (fun turn => Asked g pickle partner connection timeouts (· = buildDescribe table)
        (fun _ _ => False) (fun _ => False) turn.call)
      (Described u) (askSchema u g pickle partner patience connection table timeouts) log ∧
    Conversed (handles V) partner (bindingHandlers u)
      (fun turn => Asked g pickle partner connection timeouts (fun _ => False)
        (fun sql' parameters' => sql' = sql ∧ parameters' = parameters) (fun _ => False) turn.call)
      (Mogrified partner sql parameters)
      (askRendered g pickle partner connection timeouts sql parameters) log :=
  ⟨conversed (publicHandlers_schema u table) discovers_askSchema log,
    conversed (publicHandlers_binding u) discovers_askRendered log⟩

/-- The text of the planning query in these turns: the SQL itself if it has no parameters, and
otherwise what the driver made of it. -/
inductive Materialized (partner : SessionDriver V) (sql : Text) (parameters : List PyValue)
    (turns : List (Turn (@SessionCall.Reply V) Raised)) : Text → Prop
  | plain (h : parameters = []) : Materialized partner sql parameters turns sql
  | rendered {rendered : Rendered} {t : Text} (h : parameters ≠ [])
      (hrendered : Mogrified partner sql parameters turns rendered) (hread : rendered.read = .ok t) :
      Materialized partner sql parameters turns t

omit [Fintype V] [DecidableEq V] in
theorem Materialized.append {sql t : Text} {parameters : List PyValue}
    {turns : List (Turn (@SessionCall.Reply V) Raised)}
    (h : Materialized partner sql parameters turns t)
    (after : List (Turn (@SessionCall.Reply V) Raised)) :
    Materialized partner sql parameters (turns ++ after) t := by
  cases h with
  | plain hnone => exact .plain hnone
  | rendered hsome hrendered hread =>
    obtain ⟨cursor, hheard⟩ := hrendered
    exact .rendered hsome ⟨cursor, hheard.append [] after⟩ hread

/-- The tablets that were discovered in these turns: what the planner answered by to the request of
the query. -/
def Discovered (u : CaseData) (loads : Text → Except JsonFailure Json) (partner : SessionDriver V)
    (connection : DorisConnection V) (table : QualifiedTable) (query : Text × List PyValue)
    (turns : List (Turn (@SessionCall.Reply V) Raised)) (ids : List Int) : Prop :=
  ∃ sql exchange, Materialized partner query.1 query.2 turns sql ∧
    Exchanged partner connection table sql turns exchange ∧
    exchange.Plans u.toUnicodeData loads ids

/-- The exceptions of tablet discovery that are no connector errors, by what happened in these
turns. -/
inductive Leaked (loads : Text → Except JsonFailure Json) (partner : SessionDriver V)
    (connection : DorisConnection V) (table : QualifiedTable) (query : Text × List PyValue)
    (turns : List (Turn (@SessionCall.Reply V) Raised)) : Raised → Prop
  /-- The rendered statement is not UTF-8. -/
  | undecodable {b : List UInt8} (h : Mogrified partner query.1 query.2 turns (.bytes b))
      (hb : Text.decodeUtf8? b = none) : Leaked loads partner connection table query turns (.driver {})
  /-- The name of the table has surrogates. -/
  | names (h : ¬ (table.database.ValidUtf8 ∧ table.table.ValidUtf8)) :
      Leaked loads partner connection table query turns (.driver {})
  /-- The credentials have surrogates. -/
  | credentials {password : Text} (hpassword : Resolved partner connection password)
      (h : ¬ (connection.username ++ str ":" ++ password).ValidUtf8) :
      Leaked loads partner connection table query turns (.driver {})
  | environ {ref : SecretRef} {e : Raised} (href : connection.password = .reference ref)
      (h : ⟨.environ ref.environmentVariable, .error e⟩ ∈ turns) :
      Leaked loads partner connection table query turns e
  /-- The opener raises what its handlers are not for. -/
  | opener {request : PlanRequest} {timeout : TimeoutSeconds} {e : Raised}
      (h : ⟨.exchange request timeout, .error e⟩ ∈ turns) :
      Leaked loads partner connection table query turns e
  /-- Opening or reading raises an `HTTPException`. -/
  | httpException {sql : Text} {exchange : Exchange}
      (h : Exchanged partner connection table sql turns exchange)
      (hfailure : exchange.failure? = some .httpException) :
      Leaked loads partner connection table query turns (.driver {})
  /-- `json.loads` raises a `ValueError` that is no `JSONDecodeError`, or a `RecursionError`. -/
  | loads {sql text : Text} {exchange : Exchange} {failure : JsonFailure}
      (h : Exchanged partner connection table sql turns exchange)
      (htext : exchange.text? = some text) (hloads : loads text = .error failure)
      (hfailure : failure = .valueError ∨ failure = .recursionError) :
      Leaked loads partner connection table query turns (.driver {})

variable {loads : Text → Except JsonFailure Json} {query : Text × List PyValue}
  {planningTimeoutSeconds : PyValue}

/-- The requests of a query: those of its text. -/
def requestsOf (partner : SessionDriver V) (connection : DorisConnection V) (table : QualifiedTable)
    (query : Text × List PyValue) (request : PlanRequest) : Prop :=
  ∃ turns sql password, Materialized partner query.1 query.2 turns sql ∧
    Resolved partner connection password ∧ planRequest connection table password sql = .ok request

/-- The turns of tablet discovery for a query. -/
def PlanningTurn (g : ObjectGraph V) (pickle : g.Pickle) (partner : SessionDriver V)
    (connection : DorisConnection V) (table : QualifiedTable) (timeouts : Timeouts)
    (query : Text × List PyValue) (turn : Turn (@SessionCall.Reply V) Raised) : Prop :=
  Asked g pickle partner connection timeouts (fun _ => False)
      (fun sql parameters => sql = query.1 ∧ parameters = query.2)
      (requestsOf partner connection table query) turn.call ∨
    ∃ resource, turn.call = .close resource

theorem adds_materializePlanSql :
    AddsWith (PlanningTurn g pickle partner connection table timeouts query)
      (Materialized partner query.1 query.2)
      (materializePlanSql u g pickle partner connection timeouts query.1 query.2) := by
  rw [materializePlanSql]
  by_cases hnone : query.2 = []
  · rw [if_pos hnone]
    exact AddsWith.pure (.plain hnone)
  · rw [if_neg hnone]
    refine (AddsWith.runSession discovers_askRendered).bind fun turns rendered hrendered =>
      addsWith_raising fun t ht => ?_
    obtain ⟨asked, closing, rfl, hmogrified, -⟩ := hrendered
    have hasked : Materialized partner query.1 query.2 asked t := .rendered hnone hmogrified ht
    rw [List.append_nil]
    exact hasked.append closing

theorem adds_discoverTabletsIn :
    AddsWith (PlanningTurn g pickle partner connection table timeouts query)
      (Discovered u loads partner connection table query)
      (discoverTabletsIn u loads g pickle partner connection table timeouts planningTimeoutSeconds
        query) := by
  refine addsWith_raising_bind fun timeout _ =>
    adds_materializePlanSql.bind fun binding sql hsql => ?_
  have hplan : AddsWith (PlanningTurn g pickle partner connection table timeouts query)
      (Exchanged partner connection table sql)
      (alone (askPlan partner connection table timeout sql)) :=
    AddsWith.alone (orderly_askPlan (fun _ _ href => Or.inl (.environ href))
      fun password _ _ hresolved h => Or.inl (.exchange ⟨binding, sql, password, hsql, hresolved, h⟩))
  refine hplan.bind fun planning exchange hexchange => addsWith_raising fun ids hids => ?_
  obtain ⟨password, request, hresolved⟩ := hexchange
  obtain ⟨timeout', hpassword, hrequest, hheard⟩ := hresolved
  have hexchanged := hheard.append binding []
  rw [List.append_nil] at hexchanged
  rw [List.append_nil]
  exact ⟨sql, exchange, hsql.append planning,
    ⟨password, request, timeout', hpassword, hrequest, hexchanged⟩, discoverTablets_eq_ok_iff.mp hids⟩

theorem tidy_discoverTabletsIn :
    Preserves (Tidy (handles V) Raised.isOrdinary)
      (discoverTabletsIn u loads g pickle partner connection table timeouts planningTimeoutSeconds
        query) := by
  have hbound : Preserves (Tidy (handles V) Raised.isOrdinary)
      (materializePlanSql u g pickle partner connection timeouts query.1 query.2) := by
    rw [materializePlanSql]
    by_cases hnone : query.2 = []
    · rw [if_pos hnone]
      exact preserves_raising (.ok query.1)
    · rw [if_neg hnone]
      have hsession : Preserves (Tidy (handles V) Raised.isOrdinary)
          (runSession (handles V) partner (bindingHandlers u)
            (askRendered g pickle partner connection timeouts query.1 query.2)) := fun log =>
        (conversed (publicHandlers_binding u)
          (@discovers_askRendered _ _ _ g pickle partner connection timeouts (fun _ => False)
            query.1 query.2) log).tidy
      exact hsession.bind fun rendered => preserves_raising _
  refine (preserves_raising _).bind fun timeout => hbound.bind fun sql =>
    Preserves.bind ?_ fun exchange => preserves_raising _
  have hplan : OrderlyWith (handles V) (fun turn => (handles V).opens turn.call = none)
      (Exchanged partner connection table sql) (askPlan partner connection table timeout sql) :=
    orderly_askPlan (fun _ _ _ => rfl) fun _ _ _ _ _ => rfl
  exact Preserves.alone hplan fun _ h => h

omit [Fintype V] [DecidableEq V] in
theorem Exchanged.append {sql : Text} {turns : List (Turn (@SessionCall.Reply V) Raised)}
    {exchange : Exchange} (h : Exchanged partner connection table sql turns exchange)
    (before : List (Turn (@SessionCall.Reply V) Raised)) :
    Exchanged partner connection table sql (before ++ turns) exchange := by
  obtain ⟨password, request, timeout, hpassword, hrequest, hheard⟩ := h
  refine ⟨password, request, timeout, hpassword, hrequest, ?_⟩
  rw [← List.append_nil (before ++ turns)]
  exact hheard.append before []

omit [Fintype V] [DecidableEq V] in
theorem Leaked.append {turns : List (Turn (@SessionCall.Reply V) Raised)} {e : Raised}
    (h : Leaked loads partner connection table query turns e)
    (before : List (Turn (@SessionCall.Reply V) Raised)) :
    Leaked loads partner connection table query (before ++ turns) e := by
  cases h with
  | undecodable h hb =>
    obtain ⟨cursor, hheard⟩ := h
    refine .undecodable ⟨cursor, ?_⟩ hb
    rw [← List.append_nil (before ++ turns)]
    exact hheard.append before []
  | names h => exact .names h
  | credentials hpassword h => exact .credentials hpassword h
  | environ href h => exact .environ href (List.mem_append_right before h)
  | opener h => exact .opener (List.mem_append_right before h)
  | httpException h hfailure => exact .httpException (h.append before) hfailure
  | loads h htext hloads hfailure => exact .loads (h.append before) htext hloads hfailure

/-- The requests in these turns are those of a statement. -/
def Requests (partner : SessionDriver V) (connection : DorisConnection V) (table : QualifiedTable)
    (sql : Text) (turns : List (Turn (@SessionCall.Reply V) Raised)) : Prop :=
  ∀ request timeout answer, ⟨.exchange request timeout, answer⟩ ∈ turns →
    ∃ password, Resolved partner connection password ∧
      planRequest connection table password sql = .ok request

omit [Fintype V] [DecidableEq V] in
/-- A question is one turn, of what the partner answered by. -/
theorem ends_ask (call : SessionCall V) :
    Ends Scope.log (fun turns outcome => turns = [⟨call, outcome⟩] ∧
        ∃ log, partner log call = outcome)
      (ask partner call : Talk V (SessionCall.Reply call)) :=
  Ends.ask fun log => ⟨rfl, log, rfl⟩

omit [Fintype V] [DecidableEq V] in
theorem ends_check {α : Type} (x : Except PyException α) :
    Ends Scope.log (fun turns outcome => turns = [] ∧ outcome = x.mapError PyException.raised)
      (check x : Talk V α) :=
  Ends.except ⟨rfl, rfl⟩

omit [Fintype V] [DecidableEq V] in
theorem eq_error_of_mapError {α : Type} {x : Except PyException α} {e : Raised}
    (h : .error e = x.mapError PyException.raised) : ∃ e', x = .error e' ∧ e = e'.raised := by
  cases x with
  | ok a => cases h
  | error e' => exact ⟨e', rfl, Except.error.inj h⟩

omit [Fintype V] [DecidableEq V] in
theorem eq_ok_of_mapError {α : Type} {x : Except PyException α} {a : α}
    (h : .ok a = x.mapError PyException.raised) : x = .ok a := by
  cases x with
  | ok a' => rw [Except.ok.inj h]
  | error e' => cases h

/-- How the password is looked up: an exception of the environment leaves as it is. -/
structure Resolving (partner : SessionDriver V) (connection : DorisConnection V)
    (turns : List (Turn (@SessionCall.Reply V) Raised)) (outcome : Except Raised Text) : Prop where
  asks : ∀ turn ∈ turns, ∃ name, turn.call = .environ name
  returns : ∀ password, outcome = .ok password → Resolved partner connection password
  raises : ∀ e, outcome = .error e → e.IsPublic ∨ ∃ ref, connection.password = .reference ref ∧
    ⟨.environ ref.environmentVariable, .error e⟩ ∈ turns

omit [Fintype V] [DecidableEq V] in
theorem ends_resolvePassword :
    Ends Scope.log (Resolving partner connection) (resolvePassword partner connection) := by
  cases hpassword : connection.password with
  | text t =>
    rw [resolvePassword, hpassword]
    show Ends Scope.log (Resolving partner connection) (pure t : Talk V Text)
    refine Ends.pure ⟨fun turn hturn => absurd hturn List.not_mem_nil, fun password h => ?_,
      fun _ h => nomatch h⟩
    rw [← Except.ok.inj h, Resolved, hpassword]
    exact .text t
  | reference ref =>
    rw [resolvePassword, hpassword]
    refine (ends_ask (.environ ref.environmentVariable)).bind ?_ ?_
    · rintro _ e ⟨rfl, -⟩
      refine ⟨fun turn hturn => ?_, fun _ h => (nomatch h), fun e' he => Or.inr ?_⟩
      · rw [List.mem_singleton.mp hturn]
        exact ⟨_, rfl⟩
      · obtain rfl := Except.error.inj he
        exact ⟨ref, hpassword, List.mem_singleton_self _⟩
    · rintro _ value ⟨rfl, log, hanswer⟩
      refine (ends_check (ref.resolve value)).imp ?_
      rintro _ outcome ⟨rfl, houtcome⟩
      refine ⟨fun turn hturn => ?_, fun password h => ?_, fun e he => Or.inl ?_⟩
      · rw [List.mem_singleton.mp hturn]
        exact ⟨_, rfl⟩
      · subst h
        cases value with
        | none => cases houtcome
        | some value =>
          obtain rfl := Except.ok.inj houtcome
          rw [Resolved, hpassword]
          exact .reference ⟨log, hanswer⟩
      · subst he
        cases value with
        | none =>
          rw [Except.error.inj houtcome]
          exact trivial
        | some value => cases houtcome

/-- How a plan is asked for: once there is a request of the statement, it is sent, and what the
opener raises leaves. -/
structure Asking (loads : Text → Except JsonFailure Json) (partner : SessionDriver V)
    (connection : DorisConnection V) (table : QualifiedTable) (query : Text × List PyValue)
    (sql : Text) (turns : List (Turn (@SessionCall.Reply V) Raised))
    (outcome : Except Raised Exchange) : Prop where
  asks : Requests partner connection table sql turns
  returns : ∀ exchange, outcome = .ok exchange →
    Exchanged partner connection table sql turns exchange
  raises : ∀ e, outcome = .error e →
    e.IsPublic ∨ Leaked loads partner connection table query turns e

omit [Fintype V] [DecidableEq V] in
theorem ends_askPlan {timeout : TimeoutSeconds} {sql : Text} :
    Ends Scope.log (Asking loads partner connection table query sql)
      (askPlan partner connection table timeout sql) := by
  have hquiet : ∀ {turns : List (Turn (@SessionCall.Reply V) Raised)},
      (∀ turn ∈ turns, ∃ name, turn.call = .environ name) →
      Requests partner connection table sql turns := by
    intro turns hturns request timeout answer hturn
    obtain ⟨name, hname⟩ := hturns _ hturn
    cases hname
  refine (ends_check (queryPlanUrl connection table)).bind ?_ ?_
  · rintro _ e ⟨rfl, he⟩
    obtain ⟨e', he', rfl⟩ := eq_error_of_mapError he
    refine ⟨hquiet fun turn hturn => absurd hturn List.not_mem_nil, fun _ h => (nomatch h),
      fun e he => Or.inr ?_⟩
    rw [← Except.error.inj he, queryPlanUrl_eq_error he']
    refine .names fun hvalid => ?_
    obtain ⟨d, hd⟩ := exists_quoteText_iff.mpr hvalid.1
    obtain ⟨t, ht⟩ := exists_quoteText_iff.mpr hvalid.2
    rw [queryPlanUrl, hd, ok_bind, ht] at he'
    cases he'
  rintro _ url ⟨rfl, hurl⟩
  have hurl := eq_ok_of_mapError hurl
  refine ends_resolvePassword.bind ?_ ?_
  · intro resolving e hresolving
    refine ⟨hquiet hresolving.asks, fun _ h => (nomatch h), fun e he => ?_⟩
    obtain rfl := Except.error.inj he
    refine (hresolving.raises _ rfl).imp_right fun hraised => ?_
    obtain ⟨ref, href, hturn⟩ := hraised
    exact .environ href hturn
  intro resolving password hresolving
  have hresolved := hresolving.returns password rfl
  refine (ends_check (basicAuthorization connection.username password)).bind ?_ ?_
  · rintro _ e ⟨rfl, he⟩
    obtain ⟨e', he', rfl⟩ := eq_error_of_mapError he
    refine ⟨hquiet (by simpa using hresolving.asks), fun _ h => (nomatch h),
      fun e he => Or.inr ?_⟩
    rw [← Except.error.inj he, basicAuthorization_eq_error he']
    refine .credentials hresolved fun hvalid => ?_
    obtain ⟨authorization, hauthorization⟩ := exists_basicAuthorization_iff.mpr hvalid
    cases hauthorization.symm.trans he'
  rintro _ authorization ⟨rfl, hauthorization⟩
  have hrequest := @planRequest_of_parts V connection table password sql _ _ hurl
    (eq_ok_of_mapError hauthorization)
  refine (ends_ask _).imp ?_
  rintro _ outcome ⟨rfl, log, hanswer⟩
  rw [List.nil_append]
  refine ⟨fun request timeout answer hturn => ?_, fun exchange h => ?_, fun e he => Or.inr ?_⟩
  · rcases List.mem_append.mp hturn with hresolve | hasked
    · exact hquiet hresolving.asks request timeout answer hresolve
    · obtain ⟨rfl, -⟩ := SessionCall.exchange.inj (congrArg Turn.call (List.mem_singleton.mp hasked))
      exact ⟨password, hresolved, hrequest⟩
  · subst h
    exact ⟨password, _, timeout, hresolved, hrequest,
      List.mem_append_right _ (List.mem_singleton_self _), log, hanswer⟩
  · subst he
    exact .opener (List.mem_append_right _ (List.mem_singleton_self _))

/-- How the planning query is materialized: by the binding alone, whose exceptions are connector
errors, but for a statement that is not UTF-8. -/
structure Materializing (loads : Text → Except JsonFailure Json) (partner : SessionDriver V)
    (connection : DorisConnection V) (table : QualifiedTable) (query : Text × List PyValue)
    (turns : List (Turn (@SessionCall.Reply V) Raised)) (outcome : Except Raised Text) : Prop where
  asks : ∀ request timeout answer, ⟨.exchange request timeout, answer⟩ ∉ turns
  returns : ∀ sql, outcome = .ok sql → Materialized partner query.1 query.2 turns sql
  raises : ∀ e, outcome = .error e →
    e.IsPublic ∨ Leaked loads partner connection table query turns e

theorem ends_materializePlanSql :
    Ends id (Materializing loads partner connection table query)
      (materializePlanSql u g pickle partner connection timeouts query.1 query.2) := by
  rw [materializePlanSql]
  by_cases hnone : query.2 = []
  · rw [if_pos hnone]
    refine Ends.pure ⟨fun _ _ _ => List.not_mem_nil, fun sql h => ?_, fun _ h => nomatch h⟩
    rw [← Except.ok.inj h]
    exact .plain hnone
  rw [if_neg hnone]
  have hsession := @discovers_askRendered _ _ _ g pickle partner connection timeouts
    (fun _ => False) query.1 query.2
  have hpublic : Throws Raised.IsPublic (runSession (handles V) partner (bindingHandlers u)
      (askRendered g pickle partner connection timeouts query.1 query.2)) :=
    fun log => (conversed (publicHandlers_binding u) hsession log).isPublic
  -- a binding sends no request
  have hquiet : ∀ {turns : List (Turn (@SessionCall.Reply V) Raised)},
      (∀ turn ∈ turns, Asked g pickle partner connection timeouts (fun _ => False)
          (fun sql parameters => sql = query.1 ∧ parameters = query.2) (fun _ => False) turn.call ∨
        ∃ r, turn.call = (handles V).close r) →
      ∀ request timeout answer, ⟨.exchange request timeout, answer⟩ ∉ turns := by
    intro turns hturns request timeout answer hturn
    rcases hturns _ hturn with hasked | ⟨resource, hclose⟩
    · cases hasked with
      | exchange h => exact h
    · cases hclose
  refine (hpublic.ends (AddsWith.runSession hsession).ends).bind ?_ ?_
  · rintro turns e ⟨⟨hturns, -⟩, hraised⟩
    refine ⟨hquiet hturns, fun _ h => (nomatch h), fun e' he => Or.inl ?_⟩
    obtain rfl := Except.error.inj he
    exact hraised _ rfl
  · rintro turns rendered ⟨⟨hturns, hreturned⟩, -⟩
    obtain ⟨asked, closing, rfl, hmogrified, -⟩ := hreturned rendered rfl
    have hheard : Mogrified partner query.1 query.2 (asked ++ closing) rendered := by
      obtain ⟨cursor, hheard⟩ := hmogrified
      exact ⟨cursor, hheard.append [] closing⟩
    have hread : Ends id (fun later outcome => later = [] ∧
        outcome = rendered.read.mapError PyException.raised)
        (raising rendered.read : Failing (Turn (@SessionCall.Reply V) Raised) Raised Text) :=
      Ends.except ⟨rfl, rfl⟩
    refine hread.imp ?_
    rintro _ outcome ⟨rfl, houtcome⟩
    rw [List.append_nil]
    refine ⟨hquiet hturns, fun sql h => ?_, fun e he => Or.inr ?_⟩
    · subst h
      exact .rendered hnone hheard (eq_ok_of_mapError houtcome)
    · subst he
      obtain ⟨e', he', rfl⟩ := eq_error_of_mapError houtcome
      cases rendered with
      | text t => cases he'
      | bytes b =>
        rw [Rendered.read] at he'
        cases hb : Text.decodeUtf8? b with
        | some t =>
          rw [hb] at he'
          cases he'
        | none =>
          rw [hb] at he'
          rw [← Except.error.inj he']
          exact .undecodable hheard hb

omit [Fintype V] [DecidableEq V] in
theorem leaked_of_exchange {sql : Text} {turns : List (Turn (@SessionCall.Reply V) Raised)}
    {exchange : Exchange} {e : PyException}
    (hexchange : Exchanged partner connection table sql turns exchange)
    (he : discoverTablets u.toUnicodeData loads exchange = .error e) :
    e.raised.IsPublic ∨ Leaked loads partner connection table query turns e.raised := by
  by_cases hkind : ∃ kind message, e = .daftOlap kind message
  · obtain ⟨kind, message, rfl⟩ := hkind
    exact Or.inl trivial
  have hraised : e.raised = .driver {} := by
    cases e with
    | daftOlap kind message => exact absurd ⟨kind, message, rfl⟩ hkind
    | valueError | keyError | http | json => rfl
  rw [hraised]
  rcases discoverTablets_eq_error he with hpublic | hfailure | hloads
  · exact absurd hpublic hkind
  · exact Or.inr (.httpException hexchange hfailure)
  · obtain ⟨text, failure, htext, hloads, hne⟩ := hloads
    refine Or.inr (.loads hexchange htext hloads ?_)
    cases failure with
    | jsonDecodeError => exact absurd rfl hne
    | valueError => exact Or.inl rfl
    | recursionError => exact Or.inr rfl

/-- How tablets are discovered: every request is one of the materialized statement, and only what
is listed leaves that is no connector error. -/
structure Discovering (loads : Text → Except JsonFailure Json) (partner : SessionDriver V)
    (connection : DorisConnection V) (table : QualifiedTable) (query : Text × List PyValue)
    (turns : List (Turn (@SessionCall.Reply V) Raised)) (outcome : Except Raised (List Int)) :
    Prop where
  asks : ∀ request timeout answer, ⟨.exchange request timeout, answer⟩ ∈ turns →
    ∃ sql password, Materialized partner query.1 query.2 turns sql ∧
      Resolved partner connection password ∧
      planRequest connection table password sql = .ok request
  raises : ∀ e, outcome = .error e →
    e.IsPublic ∨ Leaked loads partner connection table query turns e

theorem ends_discoverTabletsIn :
    Ends id (Discovering loads partner connection table query)
      (discoverTabletsIn u loads g pickle partner connection table timeouts planningTimeoutSeconds
        query) := by
  have hraising : ∀ {α : Type} (x : Except PyException α), Ends id
      (fun later outcome => later = [] ∧ outcome = x.mapError PyException.raised)
      (raising x : Failing (Turn (@SessionCall.Reply V) Raised) Raised α) :=
    fun _ => Ends.except ⟨rfl, rfl⟩
  refine (hraising _).bind ?_ ?_
  · rintro _ e ⟨rfl, he⟩
    obtain ⟨e', he', rfl⟩ := eq_error_of_mapError he
    refine ⟨fun _ _ _ h => absurd h List.not_mem_nil, fun e he => Or.inl ?_⟩
    obtain rfl := Except.error.inj he
    unfold validateTimeoutSeconds at he'
    split at he'
    · cases he'
    · rw [← Except.error.inj he']
      exact trivial
  rintro _ timeout ⟨rfl, -⟩
  have hmaterialize : Ends id (Materializing loads partner connection table query)
      (materializePlanSql u g pickle partner connection timeouts query.1 query.2) :=
    ends_materializePlanSql
  refine hmaterialize.bind ?_ ?_
  · intro binding e hbinding
    refine ⟨fun request timeout answer h => absurd h (hbinding.asks request timeout answer), ?_⟩
    intro e' he
    obtain rfl := Except.error.inj he
    exact hbinding.raises _ rfl
  intro binding sql hbinding
  have hrequests : ∀ {planning : List (Turn (@SessionCall.Reply V) Raised)},
      Requests partner connection table sql planning →
      ∀ request timeout answer, ⟨.exchange request timeout, answer⟩ ∈ binding ++ planning →
        ∃ sql password, Materialized partner query.1 query.2 (binding ++ planning) sql ∧
          Resolved partner connection password ∧
          planRequest connection table password sql = .ok request := by
    intro planning hplanning request timeout answer h
    rcases List.mem_append.mp h with hbound | hasked
    · exact absurd hbound (hbinding.asks request timeout answer)
    · obtain ⟨password, hresolved, hrequest⟩ := hplanning request timeout answer hasked
      exact ⟨sql, password, (hbinding.returns sql rfl).append planning, hresolved, hrequest⟩
  have hask : Ends id (Asking loads partner connection table query sql)
      (alone (askPlan partner connection table timeout sql)) := Ends.alone ends_askPlan
  refine hask.bind ?_ ?_
  · intro planning e hplanning
    refine ⟨hrequests hplanning.asks, fun e' he => ?_⟩
    obtain rfl := Except.error.inj he
    exact (hplanning.raises _ rfl).imp_right fun hleaked => hleaked.append binding
  · intro planning exchange hplanning
    refine (hraising _).imp ?_
    rintro _ outcome ⟨rfl, houtcome⟩
    rw [List.append_nil]
    refine ⟨hrequests hplanning.asks, fun e he => ?_⟩
    subst he
    obtain ⟨e', he', rfl⟩ := eq_error_of_mapError houtcome
    exact (leaked_of_exchange (hplanning.returns exchange rfl) he').imp_right
      fun hleaked => hleaked.append binding

/-- Tablet discovery, with any driver, any planner and after any log.  It asks nothing but the
binding of the one query and requests for the text that this made of it, and closes what it opens.
The ids it returns are the keys of the partitions that the planner answered by in these turns, which
are positive and pairwise different, in increasing order.  Only the listed exceptions are no
connector errors. -/
theorem discoverTabletsIn_spec (u : CaseData) (loads : Text → Except JsonFailure Json)
    (g : ObjectGraph V) (pickle : g.Pickle) (partner : SessionDriver V) (connection : DorisConnection V)
    (table : QualifiedTable) (timeouts : Timeouts) (planningTimeoutSeconds : PyValue)
    (query : Text × List PyValue) (log : List (Turn (@SessionCall.Reply V) Raised)) :
    let run := (discoverTabletsIn u loads g pickle partner connection table timeouts
      planningTimeoutSeconds query).run.run log
    (∃ turns, run.2 = log ++ turns ∧
      (∀ turn ∈ turns, PlanningTurn g pickle partner connection table timeouts query turn) ∧
      (∀ ids, run.1 = .ok ids → Discovered u loads partner connection table query turns ids) ∧
      Discovering loads partner connection table query turns run.1) ∧
    (Tidy (handles V) Raised.isOrdinary log → Tidy (handles V) Raised.isOrdinary run.2) := by
  refine ⟨?_, tidy_discoverTabletsIn log⟩
  have hadds : AddsWith (PlanningTurn g pickle partner connection table timeouts query)
      (Discovered u loads partner connection table query)
      (discoverTabletsIn u loads g pickle partner connection table timeouts planningTimeoutSeconds
        query) := adds_discoverTabletsIn
  obtain ⟨turns, hlog, ⟨hturns, hreturns⟩, hdiscovering⟩ :=
    hadds.ends.and ends_discoverTabletsIn log
  exact ⟨turns, hlog, hturns, hreturns, hdiscovering⟩

end Asks

end Doris
end DaftOlap
