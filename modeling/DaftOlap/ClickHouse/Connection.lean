/-
Connection settings for ClickHouse (`clickhouse/discovery.py`).

A connection is configured once and pickled to the workers; every client is created from
fresh arguments, with the password resolved at that moment.
-/
import DaftOlap.Common.Sessions

namespace DaftOlap
namespace ClickHouse

open Python

/-- `_RESERVED_CLIENT_OPTIONS`. -/
def reservedClientOptions : List Text :=
  ["access_token", "connect_timeout", "database", "dsn", "host", "interface", "password", "port",
    "secure", "send_receive_timeout", "settings", "username"].map str

/-- `_RESERVED_SETTINGS`. -/
def reservedSettings : List Text := ["max_block_size", "max_execution_time"].map str

/-- Serializable ClickHouse connection settings. -/
structure ClickHouseConnection (V : Type) where
  host : Text
  database : Text
  username : Text
  password : Secret
  port : Nat
  secure : Bool
  settings : Options V reservedSettings
  clientOptions : Options V reservedClientOptions
  texts_ne_nil : host ≠ [] ∧ database ≠ [] ∧ username ≠ []
  port_valid : 1 ≤ port ∧ port ≤ maxPort

/-- The keyword arguments of `from_options`; `settings` and `client_options` by what their
`items()` come to. -/
structure ConnectionArguments (V : Type) where
  host : PyValue
  database : PyValue
  username : PyValue
  password : PasswordArgument
  port : PyValue
  secure : PyValue
  settings : Option (Except PyException (List (V × V)))
  clientOptions : Option (Except PyException (List (V × V)))

variable {V : Type} [Fintype V] [DecidableEq V]

/-- Freeze caller-owned settings and protect connector-managed options. -/
def ClickHouseConnection.fromOptions (g : ObjectGraph V) (pickle : g.Pickle)
    (arguments : ConnectionArguments V) : Except PyException (ClickHouseConnection V) := do
  let settings ← g.freezeOptions pickle reservedSettings "settings" arguments.settings
  let clientOptions ←
    g.freezeOptions pickle reservedClientOptions "client_options" arguments.clientOptions
  -- `__post_init__`
  let host ← checkText "ClickHouse host must be a non-empty string" arguments.host
  let database ← checkText "ClickHouse database must be a non-empty string" arguments.database
  let username ← checkText "ClickHouse username must be a non-empty string" arguments.username
  let port ← checkBound "ClickHouse port must be between 1 and 65535" maxPort arguments.port
  let secure ← checkBool "ClickHouse secure must be a boolean" arguments.secure
  let password ← validateSecret arguments.password
  return {
    host := host.val, database := database.val, username := username.val, password := password
    port := port.val, secure := secure, settings := settings, clientOptions := clientOptions
    texts_ne_nil := ⟨host.property, database.property, username.property⟩
    port_valid := port.property }

namespace ClickHouseConnection

/-- What `client_kwargs` sets itself, for a resolved password. -/
def managedKwargs (connection : ClickHouseConnection V) (timeouts : Timeouts) (password : Text) :
    Dict Text PyValue :=
  [(str "host", .str connection.host), (str "port", .int connection.port),
    (str "username", .str connection.username), (str "password", .str password),
    (str "database", .str connection.database), (str "secure", .bool connection.secure),
    (str "connect_timeout", timeouts.connect.val),
    (str "send_receive_timeout", timeouts.query.val)]

/-- Build fresh clickhouse-connect arguments in the current process, with the resolved
password. -/
def clientKwargs (g : ObjectGraph V) (pickle : g.Pickle) (connection : ClickHouseConnection V)
    (timeouts : Timeouts) (password : Text) : Except PyException (Dict Text (Kwarg V)) := do
  let options ← g.thawOptions pickle "client_options" connection.clientOptions
  return withOptions (connection.managedKwargs timeouts password) options

/-- Build fresh clickhouse-connect settings for one driver invocation. -/
def settingsKwargs (g : ObjectGraph V) (pickle : g.Pickle) (connection : ClickHouseConnection V) :
    Except PyException (Dict Text V) :=
  g.thawOptions pickle "settings" connection.settings

/-- The settings of the query of a stream: two of them are assigned to. -/
def streamSettings (g : ObjectGraph V) (pickle : g.Pickle) (connection : ClickHouseConnection V)
    (limits : ResourceLimits) (timeouts : Timeouts) :
    Except PyException (Dict Text (Kwarg V)) := do
  let settings ← connection.settingsKwargs g pickle
  return Dict.set (str "max_execution_time")
    (.managed (.int (max 1 (ceilSeconds timeouts.query.val))))
    (Dict.set (str "max_block_size") (.managed (.int limits.batchRows))
      (Dict.mapValues .option settings))

end ClickHouseConnection

/-! ## What a client is created with -/

section Arguments

variable {g : ObjectGraph V} {pickle : g.Pickle} {arguments : ConnectionArguments V}
  {connection : ClickHouseConnection V}

/-- The settings were given as these objects. -/
structure ClickHouseConnection.IsOf (connection : ClickHouseConnection V)
    (arguments : ConnectionArguments V) : Prop where
  host : arguments.host = .str connection.host
  database : arguments.database = .str connection.database
  username : arguments.username = .str connection.username
  password : arguments.password = connection.password.argument
  port : arguments.port = .int connection.port
  secure : arguments.secure = .bool connection.secure

theorem fromOptions_eq_ok
    (h : ClickHouseConnection.fromOptions g pickle arguments = .ok connection) :
    connection.IsOf arguments ∧
      g.freezeOptions pickle reservedSettings "settings" arguments.settings =
        .ok connection.settings ∧
      g.freezeOptions pickle reservedClientOptions "client_options" arguments.clientOptions =
        .ok connection.clientOptions := by
  obtain ⟨settings, hsettings, h⟩ := bind_eq_ok.mp h
  obtain ⟨clientOptions, hclientOptions, h⟩ := bind_eq_ok.mp h
  obtain ⟨host, hhost, h⟩ := bind_eq_ok.mp h
  obtain ⟨database, hdatabase, h⟩ := bind_eq_ok.mp h
  obtain ⟨username, husername, h⟩ := bind_eq_ok.mp h
  obtain ⟨port, hport, h⟩ := bind_eq_ok.mp h
  obtain ⟨secure, hsecure, h⟩ := bind_eq_ok.mp h
  obtain ⟨password, hpassword, h⟩ := bind_eq_ok.mp h
  obtain rfl := Except.ok.inj h
  exact ⟨⟨checkText_eq_ok_iff.mp hhost, checkText_eq_ok_iff.mp hdatabase,
    checkText_eq_ok_iff.mp husername, validateSecret_eq_ok_iff.mp hpassword,
    checkBound_eq_ok_iff.mp hport, checkBool_eq_ok_iff.mp hsecure⟩, hsettings, hclientOptions⟩

/-- A connection is configured exactly if its settings have the right types and bounds and its
options can be frozen. -/
theorem exists_fromOptions_iff :
    (∃ connection, ClickHouseConnection.fromOptions g pickle arguments = .ok connection) ↔
      (∃ connection : ClickHouseConnection V, connection.IsOf arguments) ∧
      ObjectGraph.Freezable g pickle reservedSettings arguments.settings ∧
      ObjectGraph.Freezable g pickle reservedClientOptions
        arguments.clientOptions := by
  rw [← ObjectGraph.freezable_iff, ← ObjectGraph.freezable_iff]
  constructor
  · intro h
    obtain ⟨connection, h⟩ := h
    obtain ⟨hof, hsettings, hclientOptions⟩ := fromOptions_eq_ok h
    exact ⟨⟨connection, hof⟩, ⟨_, hsettings⟩, ⟨_, hclientOptions⟩⟩
  · intro h
    obtain ⟨⟨connection, hof⟩, ⟨settings, hsettings⟩, ⟨clientOptions, hclientOptions⟩⟩ := h
    have hne := connection.texts_ne_nil
    refine ⟨_, bind_eq_ok.mpr ⟨settings, hsettings, bind_eq_ok.mpr ⟨clientOptions, hclientOptions,
      bind_eq_ok.mpr ⟨⟨connection.host, hne.1⟩, checkText_eq_ok_iff.mpr hof.host,
      bind_eq_ok.mpr ⟨⟨connection.database, hne.2.1⟩, checkText_eq_ok_iff.mpr hof.database,
      bind_eq_ok.mpr ⟨⟨connection.username, hne.2.2⟩, checkText_eq_ok_iff.mpr hof.username,
      bind_eq_ok.mpr ⟨⟨connection.port, connection.port_valid⟩, checkBound_eq_ok_iff.mpr hof.port,
      bind_eq_ok.mpr ⟨connection.secure, checkBool_eq_ok_iff.mpr hof.secure,
      bind_eq_ok.mpr ⟨connection.password, validateSecret_eq_ok_iff.mpr hof.password,
        rfl⟩⟩⟩⟩⟩⟩⟩⟩⟩

/-- What the connector sets in the settings of a stream. -/
def managedSettings (limits : ResourceLimits) (timeouts : Timeouts) : Dict Text PyValue :=
  [(str "max_block_size", .int limits.batchRows),
    (str "max_execution_time", .int (max 1 (ceilSeconds timeouts.query.val)))]

/-- A client gets the connector's own arguments and the caller's options, and nothing else; so
do the settings of the probe and of every stream, whose time limit is no shorter than that of
the client. -/
structure Invoked (g : ObjectGraph V) (pickle : g.Pickle) (arguments : ConnectionArguments V)
    (connection : ClickHouseConnection V) : Prop where
  settings : connection.IsOf arguments
  client : ∀ timeouts password kwargs,
    connection.clientKwargs g pickle timeouts password = .ok kwargs →
      Configured g pickle (connection.managedKwargs timeouts password)
        (ObjectGraph.givenItems arguments.clientOptions) kwargs
  probe : ∀ thawed, connection.settingsKwargs g pickle = .ok thawed →
    Configured g pickle [] (ObjectGraph.givenItems arguments.settings)
      (Dict.mapValues .option thawed)
  stream : ∀ limits timeouts settings,
    connection.streamSettings g pickle limits timeouts = .ok settings →
      Configured g pickle (managedSettings limits timeouts)
        (ObjectGraph.givenItems arguments.settings) settings
  time : ∀ timeouts : Timeouts, ∃ seconds : Nat,
    max 1 (ceilSeconds timeouts.query.val) = seconds ∧ 1 ≤ seconds ∧
      seconds ≤ maxTimeoutSeconds ∧ atMostSeconds timeouts.query.val seconds = true

theorem fromOptions_invoked
    (h : ClickHouseConnection.fromOptions g pickle arguments = .ok connection) :
    Invoked g pickle arguments connection := by
  obtain ⟨hof, hsettings, hclientOptions⟩ := fromOptions_eq_ok h
  refine ⟨hof, fun timeouts password kwargs hkwargs => ?_, fun thawed hthawed => ?_,
    fun limits timeouts settings hstream => ?_, fun timeouts => ?_⟩
  · obtain ⟨thawed, hthawed, hkwargs⟩ := bind_eq_ok.mp hkwargs
    rw [← Except.ok.inj hkwargs]
    refine configured_withOptions ?_ (ObjectGraph.thawed_of_options hclientOptions hthawed) ?_
    · show (["host", "port", "username", "password", "database", "secure", "connect_timeout",
        "send_receive_timeout"].map str).Nodup
      decide
    · intro key hkey hmanaged
      refine ObjectGraph.unreserved_of_options hthawed key hkey ?_
      have hsubset : ∀ name ∈ ["host", "port", "username", "password", "database", "secure",
        "connect_timeout", "send_receive_timeout"].map str, name ∈ reservedClientOptions := by
        decide
      exact hsubset key hmanaged
  · have hnodup : (Dict.keys ([] : Dict Text PyValue)).Nodup := List.nodup_nil
    exact configured_update hnodup (ObjectGraph.thawed_of_options hsettings hthawed)
      fun _ _ => List.not_mem_nil
  · obtain ⟨thawed, hthawed, hstream⟩ := bind_eq_ok.mp hstream
    have hnodup : (Dict.keys (managedSettings limits timeouts)).Nodup := by
      show (["max_block_size", "max_execution_time"].map str).Nodup
      decide
    rw [← Except.ok.inj hstream]
    exact configured_update hnodup (ObjectGraph.thawed_of_options hsettings hthawed)
      fun key hkey hmanaged => ObjectGraph.unreserved_of_options hthawed key hkey hmanaged
  · obtain ⟨hat, hone, hmost⟩ := ceilSeconds_spec timeouts.query
    exact ⟨_, (Nat.max_eq_right hone), hone, hmost, hat⟩

/-- Which objects configure a connection, and what every client and every query of it then gets:
the connector's own arguments and exactly the caller's options. -/
theorem clickHouseConnection_configured (g : ObjectGraph V) (pickle : g.Pickle)
    (arguments : ConnectionArguments V) :
    ((∃ connection, ClickHouseConnection.fromOptions g pickle arguments = .ok connection) ↔
      (∃ connection : ClickHouseConnection V, connection.IsOf arguments) ∧
      ObjectGraph.Freezable g pickle reservedSettings arguments.settings ∧
      ObjectGraph.Freezable g pickle reservedClientOptions
        arguments.clientOptions) ∧
    ∀ connection, ClickHouseConnection.fromOptions g pickle arguments = .ok connection →
      Invoked g pickle arguments connection :=
  ⟨exists_fromOptions_iff, fun _ h => fromOptions_invoked h⟩

end Arguments

end ClickHouse
end DaftOlap
