/-
Connection settings for Doris (`doris/discovery.py`, `doris/transports/flight.py`).

One configuration serves the MySQL protocol, the planner's HTTP endpoint and Flight SQL.
-/
import DaftOlap.Common.Sessions
import DaftOlap.Python.IpAddress

namespace DaftOlap
namespace Doris

open Python

/-- `_RESERVED_MYSQL_OPTIONS`. -/
def reservedMySqlOptions : List Text :=
  ["autocommit", "binary_prefix", "charset", "connect_timeout", "conv", "cursorclass", "database",
    "db", "defer_connect", "host", "password", "passwd", "port", "read_default_file",
    "read_default_group", "read_timeout", "unix_socket", "use_unicode", "user",
    "write_timeout"].map str

def adbcFlightConnectTimeoutOption : Text := str "adbc.flight.sql.rpc.timeout_seconds.connect"

/-- `_RESERVED_FLIGHT_OPTIONS`. -/
def reservedFlightOptions : List Text :=
  adbcFlightConnectTimeoutOption :: ["adbc.flight.sql.client_option.with_block",
    "adbc.flight.sql.rpc.timeout_seconds.fetch", "adbc.flight.sql.rpc.timeout_seconds.query",
    "password", "uri", "username"].map str

/-! ## Hosts -/

/-- What `__post_init__` asks of the text of a host. -/
structure ValidHost (host : Text) : Prop where
  ne_nil : host ≠ []
  no_space : ∀ c ∈ host, c.isSpace = false
  bare : ∀ c ∈ host, c ∉ str "/?#@"
  address : PyChar.scalar ':' ∈ host → isIpv6Address host = true

/-- The checks of the host, in the order of `__post_init__`. -/
def checkHost : PyValue → Except PyException { host : Text // ValidHost host }
  | .str host =>
    if hne : host = [] then
      .error (configurationError "Doris host must be a non-empty string")
    else if hbare : ∃ c ∈ host, c.isSpace = true ∨ c ∈ str "/?#@" then
      .error (configurationError "Doris host must be a bare hostname or IP address")
    else if haddress : PyChar.scalar ':' ∈ host ∧ isIpv6Address host = false then
      .error (configurationError "Doris IPv6 hosts must be unbracketed address literals")
    else .ok ⟨host, hne, fun c hc => by
        by_contra hspace
        exact hbare ⟨c, hc, Or.inl (eq_true_of_ne_false hspace)⟩,
      fun c hc hmem => hbare ⟨c, hc, Or.inr hmem⟩, fun hcolon => by
        by_contra haddress'
        exact haddress ⟨hcolon, eq_false_of_ne_true haddress'⟩⟩
  | _ => .error (configurationError "Doris host must be a non-empty string")

theorem checkHost_eq_ok_iff {value : PyValue} {host : { host : Text // ValidHost host }} :
    checkHost value = .ok host ↔ value = .str host.val := by
  obtain ⟨host, hvalid⟩ := host
  cases value with
  | str t =>
    rw [PyValue.str.injEq]
    constructor
    · intro h
      rw [checkHost] at h
      by_cases hne : t = []
      · rw [dif_pos hne] at h
        cases h
      rw [dif_neg hne] at h
      by_cases hbare : ∃ c ∈ t, c.isSpace = true ∨ c ∈ str "/?#@"
      · rw [dif_pos hbare] at h
        cases h
      rw [dif_neg hbare] at h
      by_cases haddress : PyChar.scalar ':' ∈ t ∧ isIpv6Address t = false
      · rw [dif_pos haddress] at h
        cases h
      rw [dif_neg haddress] at h
      exact congrArg Subtype.val (Except.ok.inj h)
    · rintro rfl
      have hbare : ¬ ∃ c ∈ t, c.isSpace = true ∨ c ∈ str "/?#@" := by
        rintro ⟨c, hc, hspace | hmem⟩
        · exact Bool.false_ne_true ((hvalid.no_space c hc).symm.trans hspace)
        · exact hvalid.bare c hc hmem
      have haddress : ¬ (PyChar.scalar ':' ∈ t ∧ isIpv6Address t = false) := by
        rintro ⟨hcolon, hfalse⟩
        exact Bool.false_ne_true (hfalse.symm.trans (hvalid.address hcolon))
      rw [checkHost, dif_neg hvalid.ne_nil, dif_neg hbare, dif_neg haddress]
  | none | bool | int | float | decimal | bytes | date | datetime | time | uuid | other =>
    exact iff_of_false (fun h => by cases h) fun h => by cases h

/-! ## Settings -/

/-- Serializable Doris connection settings. -/
structure DorisConnection (V : Type) where
  host : Text
  database : Text
  username : Text
  password : Secret
  mysqlPort : Nat
  httpPort : Nat
  flightPort : Nat
  mysqlOptions : Options V reservedMySqlOptions
  flightOptions : List (Text × Text)
  httpSecure : Bool
  flightSecure : Bool
  host_valid : ValidHost host
  texts_ne_nil : database ≠ [] ∧ username ≠ []
  ports_valid : (1 ≤ mysqlPort ∧ mysqlPort ≤ maxPort) ∧ (1 ≤ httpPort ∧ httpPort ≤ maxPort) ∧
    (1 ≤ flightPort ∧ flightPort ≤ maxPort)

/-- The keyword arguments of `from_options`; the options by what their `items()` come to. -/
structure ConnectionArguments (V : Type) where
  host : PyValue
  database : PyValue
  username : PyValue
  password : PasswordArgument
  mysqlPort : PyValue
  httpPort : PyValue
  flightPort : PyValue
  mysqlOptions : Option (Except PyException (List (V × V)))
  flightOptions : Option (Except PyException (List (V × V)))
  httpSecure : PyValue
  flightSecure : PyValue

variable {V : Type} [Fintype V] [DecidableEq V]

/-- The value of a Flight option, which must be a string. -/
def flightOption (g : ObjectGraph V) (item : Text × V) : Except PyException (Text × Text) :=
  match g.shape item.2 with
  | .leaf (.str t) => .ok (item.1, t)
  | _ => .error (configurationError "Doris flight_options values must be strings")

/-- Freeze options while preventing overrides of lifecycle-critical arguments. -/
def DorisConnection.fromOptions (g : ObjectGraph V) (pickle : g.Pickle)
    (arguments : ConnectionArguments V) : Except PyException (DorisConnection V) := do
  let frozenFlight ←
    g.freezeOptions pickle reservedFlightOptions "flight_options" arguments.flightOptions
  let flightOptions ← frozenFlight.items.mapM (flightOption g)
  let mysqlOptions ←
    g.freezeOptions pickle reservedMySqlOptions "mysql_options" arguments.mysqlOptions
  -- `__post_init__`
  let host ← checkHost arguments.host
  let database ← checkText "Doris database must be a non-empty string" arguments.database
  let username ← checkText "Doris username must be a non-empty string" arguments.username
  let password ← validateSecret arguments.password
  let httpSecure ← checkBool "Doris http_secure must be a boolean" arguments.httpSecure
  let flightSecure ← checkBool "Doris flight_secure must be a boolean" arguments.flightSecure
  let mysqlPort ← checkBound "mysql_port must be between 1 and 65535" maxPort arguments.mysqlPort
  let httpPort ← checkBound "http_port must be between 1 and 65535" maxPort arguments.httpPort
  let flightPort ← checkBound "flight_port must be between 1 and 65535" maxPort arguments.flightPort
  return {
    host := host.val, database := database.val, username := username.val, password := password
    mysqlPort := mysqlPort.val, httpPort := httpPort.val, flightPort := flightPort.val
    mysqlOptions := mysqlOptions, flightOptions := flightOptions
    httpSecure := httpSecure, flightSecure := flightSecure
    host_valid := host.property
    texts_ne_nil := ⟨database.property, username.property⟩
    ports_valid := ⟨mysqlPort.property, httpPort.property, flightPort.property⟩ }

/-- `str` of a timeout. -/
def strSeconds (t : TimeoutSeconds) : Text :=
  match t.val with
  | .int z => intText z
  | .float f => reprFloat f
  | _ => []

/-- The names of options in the packages `adbc_driver_manager` and
`adbc_driver_flightsql`. -/
structure FlightNames where
  username : Text
  password : Text
  timeoutQuery : Text
  timeoutFetch : Text
  withBlock : Text

/-- The names as the packages document them. -/
def FlightNames.documented : FlightNames where
  username := str "username"
  password := str "password"
  timeoutQuery := str "adbc.flight.sql.rpc.timeout_seconds.query"
  timeoutFetch := str "adbc.flight.sql.rpc.timeout_seconds.fetch"
  withBlock := str "adbc.flight.sql.client_option.with_block"

namespace DorisConnection

/-- What `mysql_kwargs` sets itself, for a resolved password. -/
def managedKwargs (connection : DorisConnection V) (timeouts : Timeouts) (password : Text) :
    Dict Text PyValue :=
  [(str "host", .str connection.host), (str "port", .int connection.mysqlPort),
    (str "user", .str connection.username), (str "password", .str password),
    (str "database", .str connection.database), (str "charset", .str (str "utf8mb4")),
    (str "autocommit", .bool true), (str "connect_timeout", timeouts.connect.val),
    (str "read_timeout", timeouts.query.val), (str "write_timeout", timeouts.query.val)]

/-- Build fresh PyMySQL arguments for the current driver or worker, with the resolved
password. -/
def mysqlKwargs (g : ObjectGraph V) (pickle : g.Pickle) (connection : DorisConnection V)
    (timeouts : Timeouts) (password : Text) : Except PyException (Dict Text (Kwarg V)) := do
  let options ← g.thawOptions pickle "mysql_options" connection.mysqlOptions
  return withOptions (connection.managedKwargs timeouts password) options

/-- The arguments of the connection of a MySQL stream: `cursorClass` is `SSCursor`. -/
def streamKwargs (g : ObjectGraph V) (pickle : g.Pickle) (connection : DorisConnection V)
    (timeouts : Timeouts) (password : Text) (cursorClass : PyValue) :
    Except PyException (Dict Text (Kwarg V)) := do
  let kwargs ← connection.mysqlKwargs g pickle timeouts password
  return Dict.set (str "cursorclass") (.managed cursorClass) kwargs

/-- What `FlightBatchReader._open` sets in `db_kwargs`. -/
def managedFlight (names : FlightNames) (connection : DorisConnection V) (timeouts : Timeouts)
    (password : Text) : Dict Text Text :=
  [(names.username, connection.username), (names.password, password),
    (adbcFlightConnectTimeoutOption, strSeconds timeouts.connect),
    (names.timeoutQuery, strSeconds timeouts.query),
    (names.timeoutFetch, strSeconds timeouts.query), (names.withBlock, str "false")]

/-- The `db_kwargs` of `FlightBatchReader._open`. -/
def flightKwargs (names : FlightNames) (connection : DorisConnection V) (timeouts : Timeouts)
    (password : Text) : Dict Text Text :=
  Dict.update (connection.managedFlight names timeouts password)
    (Dict.ofItems connection.flightOptions)

end DorisConnection

/-! ## What a driver is called with -/

section Arguments

variable {g : ObjectGraph V} {pickle : g.Pickle} {arguments : ConnectionArguments V}
  {connection : DorisConnection V}

/-- The settings were given as these objects. -/
structure DorisConnection.IsOf (connection : DorisConnection V)
    (arguments : ConnectionArguments V) : Prop where
  host : arguments.host = .str connection.host
  database : arguments.database = .str connection.database
  username : arguments.username = .str connection.username
  password : arguments.password = connection.password.argument
  httpSecure : arguments.httpSecure = .bool connection.httpSecure
  flightSecure : arguments.flightSecure = .bool connection.flightSecure
  mysqlPort : arguments.mysqlPort = .int connection.mysqlPort
  httpPort : arguments.httpPort = .int connection.httpPort
  flightPort : arguments.flightPort = .int connection.flightPort

omit [Fintype V] [DecidableEq V] in
theorem flightOption_eq_ok_iff {item : Text × V} {option : Text × Text} :
    flightOption g item = .ok option ↔
      item.1 = option.1 ∧ g.shape item.2 = .leaf (.str option.2) := by
  unfold flightOption
  constructor
  · intro h
    split at h
    · next t ht =>
      rw [← Except.ok.inj h]
      exact ⟨rfl, ht⟩
    · cases h
  · rintro ⟨hkey, hshape⟩
    rw [hshape, hkey]

theorem fromOptions_eq_ok (h : DorisConnection.fromOptions g pickle arguments = .ok connection) :
    connection.IsOf arguments ∧
      g.freezeOptions pickle reservedMySqlOptions "mysql_options" arguments.mysqlOptions =
        .ok connection.mysqlOptions ∧
      ∃ frozenFlight, g.freezeOptions pickle reservedFlightOptions "flight_options"
          arguments.flightOptions = .ok frozenFlight ∧
        frozenFlight.items.mapM (flightOption g) = .ok connection.flightOptions := by
  obtain ⟨frozenFlight, hfrozen, h⟩ := bind_eq_ok.mp h
  obtain ⟨flightOptions, hflight, h⟩ := bind_eq_ok.mp h
  obtain ⟨mysqlOptions, hmysql, h⟩ := bind_eq_ok.mp h
  obtain ⟨host, hhost, h⟩ := bind_eq_ok.mp h
  obtain ⟨database, hdatabase, h⟩ := bind_eq_ok.mp h
  obtain ⟨username, husername, h⟩ := bind_eq_ok.mp h
  obtain ⟨password, hpassword, h⟩ := bind_eq_ok.mp h
  obtain ⟨httpSecure, hhttpSecure, h⟩ := bind_eq_ok.mp h
  obtain ⟨flightSecure, hflightSecure, h⟩ := bind_eq_ok.mp h
  obtain ⟨mysqlPort, hmysqlPort, h⟩ := bind_eq_ok.mp h
  obtain ⟨httpPort, hhttpPort, h⟩ := bind_eq_ok.mp h
  obtain ⟨flightPort, hflightPort, h⟩ := bind_eq_ok.mp h
  obtain rfl := Except.ok.inj h
  exact ⟨⟨checkHost_eq_ok_iff.mp hhost, checkText_eq_ok_iff.mp hdatabase,
    checkText_eq_ok_iff.mp husername, validateSecret_eq_ok_iff.mp hpassword,
    checkBool_eq_ok_iff.mp hhttpSecure, checkBool_eq_ok_iff.mp hflightSecure,
    checkBound_eq_ok_iff.mp hmysqlPort, checkBound_eq_ok_iff.mp hhttpPort,
    checkBound_eq_ok_iff.mp hflightPort⟩, hmysql, frozenFlight, hfrozen, hflight⟩

omit [Fintype V] [DecidableEq V] in
/-- A copy that is a string is one of the same string. -/
theorem leaf_of_copy {value copy : V} {t : Text} (hsame : pickle.same value copy)
    (h : g.shape copy = .leaf (.str t)) : g.shape value = .leaf (.str t) := by
  cases hvalue : g.shape value with
  | mapping items =>
    obtain ⟨copies, hcopies, -⟩ := pickle.copies.mapping hsame hvalue
    cases h.symm.trans hcopies
  | sequence elements =>
    obtain ⟨copies, hcopies, -⟩ := pickle.copies.sequence hsame hvalue
    cases h.symm.trans hcopies
  | leaf leaf =>
    rw [← h]
    exact (pickle.copies.leaf hsame hvalue).symm

/-- The frozen options of Flight are texts exactly if the caller's are. -/
theorem exists_flightOptions_iff {given : Option (Except PyException (List (V × V)))} :
    (∃ frozen options, g.freezeOptions pickle reservedFlightOptions "flight_options" given =
        .ok frozen ∧ frozen.items.mapM (flightOption g) = .ok options) ↔
      ObjectGraph.Freezable g pickle reservedFlightOptions given ∧
        ∀ item ∈ ObjectGraph.givenItems given, ∃ t, g.shape item.2 = .leaf (.str t) := by
  rw [← ObjectGraph.freezable_iff]
  constructor
  · rintro ⟨frozen, options, hfreeze, hoptions⟩
    refine ⟨⟨frozen, hfreeze⟩, fun item hitem => ?_⟩
    obtain ⟨entries, hentries, hitems⟩ := ObjectGraph.entries_of_freezeOptions hfreeze
    obtain ⟨entry, hentry, hfrozen⟩ := exists_of_mem_right hentries.flip item hitem
    obtain ⟨option, hoption⟩ := exists_of_mapM_eq_ok hoptions entry (hitems.mem_iff.mp hentry)
    exact ⟨option.2, leaf_of_copy (pickle.same_roundTrip hfrozen.copied)
      (flightOption_eq_ok_iff.mp hoption).2⟩
  · rintro ⟨⟨frozen, hfreeze⟩, htexts⟩
    obtain ⟨entries, hentries, hitems⟩ := ObjectGraph.entries_of_freezeOptions hfreeze
    obtain ⟨options, hoptions⟩ : ∃ options, frozen.items.mapM (flightOption g) = .ok options := by
      refine exists_mapM_eq_ok fun entry hentry => ?_
      obtain ⟨item, hitem, hfrozen⟩ :=
        exists_of_mem_right hentries entry (hitems.mem_iff.mpr hentry)
      obtain ⟨t, ht⟩ := htexts item hitem
      have hcopy : g.shape entry.2 = .leaf (.str t) :=
        pickle.copies.leaf (pickle.same_roundTrip hfrozen.copied) ht
      exact ⟨(entry.1, t), flightOption_eq_ok_iff.mpr ⟨rfl, hcopy⟩⟩
    exact ⟨frozen, options, hfreeze, hoptions⟩

/-- The options of Flight are the caller's, under keys that the connector does not manage. -/
theorem flightOptions_given {given : Option (Except PyException (List (V × V)))}
    {frozen : Options V reservedFlightOptions} {options : List (Text × Text)}
    (hfreeze : g.freezeOptions pickle reservedFlightOptions "flight_options" given = .ok frozen)
    (hoptions : frozen.items.mapM (flightOption g) = .ok options) :
    (∀ key, key ∈ Dict.keys options ↔
      ∃ item ∈ ObjectGraph.givenItems given, g.keyName? item.1 = some key) ∧
    (∀ option ∈ options, option.1 ∉ reservedFlightOptions ∧
      ∃ item ∈ ObjectGraph.givenItems given, g.keyName? item.1 = some option.1 ∧
        g.shape item.2 = .leaf (.str option.2)) := by
  have hflight : List.Forall₂ (fun (item : Text × V) option =>
      item.1 = option.1 ∧ g.shape item.2 = .leaf (.str option.2)) frozen.items options :=
    (mapM_eq_ok.mp hoptions).imp fun item option => flightOption_eq_ok_iff.mp
  obtain ⟨entries, hentries, hitems⟩ := ObjectGraph.entries_of_freezeOptions hfreeze
  have hgiven : ∀ option ∈ options, ∃ item ∈ ObjectGraph.givenItems given,
      g.keyName? item.1 = some option.1 ∧ g.shape item.2 = .leaf (.str option.2) := by
    intro option hoption
    obtain ⟨entry, hentry, hkey, hshape⟩ := exists_of_mem_right hflight option hoption
    obtain ⟨item, hitem, hfrozen⟩ := exists_of_mem_right hentries entry (hitems.mem_iff.mpr hentry)
    refine ⟨item, hitem, hkey ▸ hfrozen.key, ?_⟩
    exact leaf_of_copy (pickle.same_roundTrip hfrozen.copied) hshape
  refine ⟨fun key => ⟨fun hkey => ?_, fun ⟨item, hitem, hkey⟩ => ?_⟩, fun option hoption => ?_⟩
  · obtain ⟨option, hoption, rfl⟩ := List.mem_map.mp hkey
    obtain ⟨item, hitem, hname, -⟩ := hgiven option hoption
    exact ⟨item, hitem, hname⟩
  · obtain ⟨entry, hentry, hfrozen⟩ := exists_of_mem_right hentries.flip item hitem
    obtain ⟨option, hoption, hsame, -⟩ :=
      exists_of_mem_right hflight.flip entry (hitems.mem_iff.mp hentry)
    have hentryKey : entry.1 = key := Option.some.inj (hfrozen.key.symm.trans hkey)
    rw [← hentryKey, hsame]
    exact List.mem_map_of_mem hoption
  · obtain ⟨entry, hentry, hkey, -⟩ := exists_of_mem_right hflight option hoption
    exact ⟨hkey ▸ (frozen.unreserved entry hentry).2, hgiven option hoption⟩

/-- A connection is configured exactly if its settings have the right types and bounds, its
options can be frozen, and those of Flight are texts. -/
theorem exists_fromOptions_iff :
    (∃ connection, DorisConnection.fromOptions g pickle arguments = .ok connection) ↔
      (∃ connection : DorisConnection V, connection.IsOf arguments) ∧
      ObjectGraph.Freezable g pickle reservedMySqlOptions arguments.mysqlOptions ∧
      ObjectGraph.Freezable g pickle reservedFlightOptions
        arguments.flightOptions ∧
      ∀ item ∈ ObjectGraph.givenItems arguments.flightOptions,
        ∃ t, g.shape item.2 = .leaf (.str t) := by
  rw [← exists_flightOptions_iff, ← ObjectGraph.freezable_iff]
  constructor
  · rintro ⟨connection, h⟩
    obtain ⟨hof, hmysql, frozenFlight, hfrozen, hflight⟩ := fromOptions_eq_ok h
    exact ⟨⟨connection, hof⟩, ⟨_, hmysql⟩, frozenFlight, _, hfrozen, hflight⟩
  · rintro ⟨⟨connection, hof⟩, ⟨mysqlOptions, hmysql⟩, frozenFlight, flightOptions, hfrozen, hflight⟩
    obtain ⟨hmysqlPort, hhttpPort, hflightPort⟩ := connection.ports_valid
    refine ⟨_, bind_eq_ok.mpr ⟨frozenFlight, hfrozen, bind_eq_ok.mpr ⟨flightOptions, hflight,
      bind_eq_ok.mpr ⟨mysqlOptions, hmysql,
      bind_eq_ok.mpr ⟨⟨connection.host, connection.host_valid⟩, checkHost_eq_ok_iff.mpr hof.host,
      bind_eq_ok.mpr ⟨⟨connection.database, connection.texts_ne_nil.1⟩,
        checkText_eq_ok_iff.mpr hof.database,
      bind_eq_ok.mpr ⟨⟨connection.username, connection.texts_ne_nil.2⟩,
        checkText_eq_ok_iff.mpr hof.username,
      bind_eq_ok.mpr ⟨connection.password, validateSecret_eq_ok_iff.mpr hof.password,
      bind_eq_ok.mpr ⟨connection.httpSecure, checkBool_eq_ok_iff.mpr hof.httpSecure,
      bind_eq_ok.mpr ⟨connection.flightSecure, checkBool_eq_ok_iff.mpr hof.flightSecure,
      bind_eq_ok.mpr ⟨⟨connection.mysqlPort, hmysqlPort⟩, checkBound_eq_ok_iff.mpr hof.mysqlPort,
      bind_eq_ok.mpr ⟨⟨connection.httpPort, hhttpPort⟩, checkBound_eq_ok_iff.mpr hof.httpPort,
      bind_eq_ok.mpr ⟨⟨connection.flightPort, hflightPort⟩,
        checkBound_eq_ok_iff.mpr hof.flightPort, rfl⟩⟩⟩⟩⟩⟩⟩⟩⟩⟩⟩⟩⟩

/-- The names the connector sets are distinct and reserved. -/
structure FlightNames.Reserved (names : FlightNames) : Prop where
  nodup : [names.username, names.password, adbcFlightConnectTimeoutOption, names.timeoutQuery,
    names.timeoutFetch, names.withBlock].Nodup
  reserved : ∀ name ∈ [names.username, names.password, names.timeoutQuery, names.timeoutFetch,
    names.withBlock], name ∈ reservedFlightOptions

theorem FlightNames.reserved_documented : FlightNames.documented.Reserved where
  nodup := by decide +kernel
  reserved := by decide +kernel

/-- What the connector manages is as it sets it, and everything else is exactly what the
caller gave, for options that are texts. -/
structure FlightConfigured (g : ObjectGraph V) (managed : Dict Text Text) (items : List (V × V))
    (kwargs : Dict Text Text) : Prop where
  nodup : (Dict.keys kwargs).Nodup
  manages : ∀ item ∈ managed, kwargs.lookup item.1 = some item.2
  given : ∀ key, key ∈ Dict.keys kwargs ↔
    key ∈ Dict.keys managed ∨ ∃ item ∈ items, g.keyName? item.1 = some key
  texts : ∀ key t, key ∉ Dict.keys managed → kwargs.lookup key = some t →
    ∃ item ∈ items, g.keyName? item.1 = some key ∧ g.shape item.2 = .leaf (.str t)
  options : ∀ item ∈ items, ∀ key, g.keyName? item.1 = some key → key ∉ Dict.keys managed

/-- The drivers of both protocols get the connector's own arguments and the caller's options,
and nothing else. -/
structure Invoked (g : ObjectGraph V) (pickle : g.Pickle) (arguments : ConnectionArguments V)
    (connection : DorisConnection V) : Prop where
  settings : connection.IsOf arguments
  mysql : ∀ timeouts password kwargs,
    connection.mysqlKwargs g pickle timeouts password = .ok kwargs →
      Configured g pickle (connection.managedKwargs timeouts password)
        (ObjectGraph.givenItems arguments.mysqlOptions) kwargs
  stream : ∀ timeouts password cursorClass kwargs,
    connection.streamKwargs g pickle timeouts password cursorClass = .ok kwargs →
      Configured g pickle
        (connection.managedKwargs timeouts password ++ [(str "cursorclass", cursorClass)])
        (ObjectGraph.givenItems arguments.mysqlOptions) kwargs
  flight : ∀ (names : FlightNames) timeouts password, names.Reserved →
    FlightConfigured g (connection.managedFlight names timeouts password)
      (ObjectGraph.givenItems arguments.flightOptions)
      (connection.flightKwargs names timeouts password)

/-- The arguments the connector sets for the MySQL protocol. -/
def managedNames : List Text :=
  ["host", "port", "user", "password", "database", "charset", "autocommit", "connect_timeout",
    "read_timeout", "write_timeout"].map str

theorem managedNames_reserved :
    (managedNames ++ [str "cursorclass"]).Nodup ∧
      ∀ name ∈ managedNames ++ [str "cursorclass"], name ∈ reservedMySqlOptions := by
  decide

theorem fromOptions_invoked
    (h : DorisConnection.fromOptions g pickle arguments = .ok connection) :
    Invoked g pickle arguments connection := by
  obtain ⟨hof, hmysql, frozenFlight, hfrozen, hflight⟩ := fromOptions_eq_ok h
  have hmanaged : ∀ timeouts password,
      (Dict.keys (connection.managedKwargs timeouts password)).Nodup :=
    fun _ _ => managedNames_reserved.1.of_append_left
  have hunreserved : ∀ {thawed : Dict Text V},
      g.thawOptions pickle "mysql_options" connection.mysqlOptions = .ok thawed →
        ∀ key ∈ Dict.keys thawed, key ∉ managedNames ++ [str "cursorclass"] :=
    fun hthawed key hkey hname => ObjectGraph.unreserved_of_options hthawed key hkey
      (managedNames_reserved.2 key hname)
  refine ⟨hof, fun timeouts password kwargs hkwargs => ?_,
    fun timeouts password cursorClass kwargs hkwargs => ?_,
    fun names timeouts password hreserved => ?_⟩
  · obtain ⟨thawed, hthawed, hkwargs⟩ := bind_eq_ok.mp hkwargs
    rw [← Except.ok.inj hkwargs]
    exact configured_withOptions (hmanaged _ _) (ObjectGraph.thawed_of_options hmysql hthawed)
      fun key hkey hname => hunreserved hthawed key hkey (List.mem_append_left _ hname)
  · obtain ⟨kwargs', hkwargs', hkwargs⟩ := bind_eq_ok.mp hkwargs
    obtain ⟨thawed, hthawed, hkwargs'⟩ := bind_eq_ok.mp hkwargs'
    rw [← Except.ok.inj hkwargs, ← Except.ok.inj hkwargs']
    have hoptions := ObjectGraph.thawed_of_options hmysql hthawed
    have hbefore : ∀ key ∈ Dict.keys thawed,
        key ∉ Dict.keys (connection.managedKwargs timeouts password) :=
      fun key hkey hname => hunreserved hthawed key hkey (List.mem_append_left _ hname)
    refine configured_of_lookup managedNames_reserved.1 hoptions (hunreserved hthawed)
      (Dict.nodup_keys_set (configured_withOptions (hmanaged _ _) hoptions hbefore).nodup) fun key => ?_
    have hkeys : key ∈ Dict.keys
        (connection.managedKwargs timeouts password ++ [(str "cursorclass", cursorClass)]) ↔
          key ∈ Dict.keys (connection.managedKwargs timeouts password) ∨ key = str "cursorclass" := by
      rw [Dict.keys, List.map_append, List.mem_append, List.map_singleton, List.mem_singleton]
      exact Iff.rfl
    rw [Dict.lookup_set, lookup_withOptions hoptions.nodup hbefore, List.lookup_append]
    by_cases hcursor : key = str "cursorclass"
    · have hother : key ∉ Dict.keys (connection.managedKwargs timeouts password) := by
        rw [hcursor]
        show str "cursorclass" ∉ managedNames
        decide
      rw [if_pos (beq_iff_eq.mpr hcursor), if_pos (hkeys.mpr (Or.inr hcursor)),
        Dict.lookup_eq_none.mpr hother, hcursor]
      rfl
    · have hone : List.lookup key [(str "cursorclass", cursorClass)] = none := by
        rw [List.lookup_cons, show (key == str "cursorclass") = false from
          beq_eq_false_iff_ne.mpr hcursor]
        rfl
      rw [if_neg (fun h => hcursor (eq_of_beq h)), hone, Option.or_none]
      simp only [hkeys, hcursor, or_false]
  · obtain ⟨hgiven, hoptions⟩ := flightOptions_given hfrozen hflight
    have hnames : ∀ key ∈ Dict.keys (connection.managedFlight names timeouts password),
        key ∈ reservedFlightOptions := by
      intro key hkey
      have hreserved' := hreserved.reserved
      simp only [List.forall_mem_cons, List.not_mem_nil, false_implies, implies_true,
        and_true] at hreserved'
      obtain ⟨husername, hpassword, hquery, hfetch, hblock⟩ := hreserved'
      have hkey' : key ∈ [names.username, names.password, adbcFlightConnectTimeoutOption,
        names.timeoutQuery, names.timeoutFetch, names.withBlock] := hkey
      simp only [List.mem_cons, List.not_mem_nil, or_false] at hkey'
      rcases hkey' with rfl | rfl | rfl | rfl | rfl | rfl
      · exact husername
      · exact hpassword
      · exact List.mem_cons_self
      · exact hquery
      · exact hfetch
      · exact hblock
    have hdisjoint : ∀ key ∈ Dict.keys (Dict.ofItems connection.flightOptions),
        key ∉ Dict.keys (connection.managedFlight names timeouts password) := by
      intro key hkey hmanaged
      rw [Dict.mem_keys_ofItems] at hkey
      obtain ⟨option, hoption, rfl⟩ := List.mem_map.mp hkey
      exact (hoptions option hoption).1 (hnames _ hmanaged)
    have hlookup := fun key => @Dict.lookup_update_of_disjoint _ _ _ _ _ key _ hdisjoint
    refine ⟨Dict.nodup_keys_update hreserved.nodup, fun item hitem => ?_, fun key => ?_,
      fun key t hkey h => ?_, fun item hitem key hkey hmanaged => ?_⟩
    · rw [DorisConnection.flightKwargs, hlookup, if_pos (Dict.mem_keys_of_mem hitem)]
      exact (Dict.lookup_eq_some (d := connection.managedFlight names timeouts password)
        hreserved.nodup).mpr hitem
    · rw [DorisConnection.flightKwargs, Dict.mem_keys_update, Dict.mem_keys_ofItems, hgiven]
    · rw [DorisConnection.flightKwargs, hlookup, if_neg hkey, Dict.lookup_ofItems,
        Dict.lookup_reverse Dict.nodup_keys_ofItems, Dict.lookup_ofItems] at h
      obtain ⟨before, after, hsplit, -⟩ := List.lookup_eq_some_iff.mp h
      refine (hoptions (key, t) ?_).2
      rw [← List.mem_reverse, hsplit]
      exact List.mem_append_right _ List.mem_cons_self
    · refine hdisjoint key ?_ hmanaged
      rw [Dict.mem_keys_ofItems, hgiven]
      exact ⟨item, hitem, hkey⟩

/-- Which objects configure a connection, and what the drivers of both protocols then get: the
connector's own arguments and exactly the caller's options. -/
theorem dorisConnection_configured (g : ObjectGraph V) (pickle : g.Pickle)
    (arguments : ConnectionArguments V) :
    ((∃ connection, DorisConnection.fromOptions g pickle arguments = .ok connection) ↔
      (∃ connection : DorisConnection V, connection.IsOf arguments) ∧
      ObjectGraph.Freezable g pickle reservedMySqlOptions arguments.mysqlOptions ∧
      ObjectGraph.Freezable g pickle reservedFlightOptions
        arguments.flightOptions ∧
      ∀ item ∈ ObjectGraph.givenItems arguments.flightOptions,
        ∃ t, g.shape item.2 = .leaf (.str t)) ∧
    ∀ connection, DorisConnection.fromOptions g pickle arguments = .ok connection →
      Invoked g pickle arguments connection :=
  ⟨exists_fromOptions_iff, fun _ h => fromOptions_invoked h⟩

end Arguments

/-- The user `root` at the host `fe`. -/
def exampleConnection : DorisConnection (Fin 2) where
  host := str "fe"
  database := str "d"
  username := str "root"
  password := .text (str "p:w")
  mysqlPort := 9030
  httpPort := 8030
  flightPort := 8070
  mysqlOptions := .empty
  flightOptions := []
  httpSecure := false
  flightSecure := false
  host_valid := ⟨by decide, by decide, by decide, by decide⟩
  texts_ne_nil := by decide
  ports_valid := by decide

end Doris
end DaftOlap
