/-
The request of the Doris query planner (`doris/discovery.py`).

One request carries the table in its path, the credentials in a header and the SQL in its body.
`readRequest` is how the other side reads the parts: the authority up to its last colon, the
path between slashes, the credentials up to their first colon.
-/
import DaftOlap.Common.Identifiers
import DaftOlap.Doris.Connection
import DaftOlap.Python.Digits
import DaftOlap.Python.JsonText
import DaftOlap.Python.Url

namespace DaftOlap
namespace Doris

open Python

variable {V : Type}

/-! ## Writing -/

namespace DorisConnection

/-- `_authority`: an address is put in brackets. -/
def authority (connection : DorisConnection V) (port : Nat) : Text :=
  (if PyChar.scalar ':' ∈ connection.host then str "[" ++ connection.host ++ str "]"
    else connection.host) ++ str ":" ++ natText port

/-- `_query_plan_origin`. -/
def queryPlanOrigin (connection : DorisConnection V) : Text :=
  str (if connection.httpSecure then "https" else "http") ++ str "://" ++
    connection.authority connection.httpPort

/-- `_flight_uri`. -/
def flightUri (connection : DorisConnection V) : Text :=
  str (if connection.flightSecure then "grpc+tls" else "grpc") ++ str "://" ++
    connection.authority connection.flightPort

end DorisConnection

/-- `urllib.parse.quote(text, safe="")`; a `UnicodeEncodeError` is a `ValueError`. -/
def quoteText (t : Text) : Except PyException Text :=
  match t.quote? with
  | some quoted => .ok (quoted.map PyChar.scalar)
  | none => .error .valueError

/-- The URL of the query plan of a table. -/
def queryPlanUrl (connection : DorisConnection V) (table : QualifiedTable) :
    Except PyException Text := do
  let database ← quoteText table.database
  let tableName ← quoteText table.table
  return connection.queryPlanOrigin ++ str "/api/" ++ database ++ str "/" ++ tableName ++
    str "/_query_plan"

/-- The value of the header `Authorization`. -/
def basicAuthorization (username password : Text) : Except PyException Text :=
  match Text.encodeUtf8? (username ++ str ":" ++ password) with
  | some bytes => .ok (str "Basic " ++ (encodeBase64 bytes).map PyChar.scalar)
  | none => .error .valueError

/-- `json.dumps({"sql": sql})`. -/
def planBody (sql : Text) : List Char :=
  '\x7b' :: (jsonString (str "sql") ++ ':' :: ' ' :: (jsonString sql ++ ['\x7d']))

/-- The request of a query plan. -/
structure PlanRequest where
  url : Text
  authorization : Text
  body : List UInt8

/-- The request `discover_tablets` sends, for a resolved password. -/
def planRequest (connection : DorisConnection V) (table : QualifiedTable) (password sql : Text) :
    Except PyException PlanRequest := do
  let url ← queryPlanUrl connection table
  let authorization ← basicAuthorization connection.username password
  return ⟨url, authorization, (planBody sql).flatMap String.utf8EncodeChar⟩

/-! ## Reading -/

/-- What a request asks. -/
structure PlanQuestion where
  secure : Bool
  host : Text
  port : Nat
  database : Text
  table : Text
  username : Text
  password : Text
  sql : Text

/-- Brackets stand around a host. -/
def Bracketed (host : Text) : Prop :=
  host.head? = some (PyChar.scalar '[') ∧ host.getLast? = some (PyChar.scalar ']')

instance (host : Text) : Decidable (Bracketed host) := inferInstanceAs (Decidable (_ ∧ _))

/-- A host without the brackets around it. -/
def unbracketed (host : Text) : Text := if Bracketed host then host.tail.dropLast else host

/-- Two hexadecimal digits begin a text. -/
def beginsEscape : Text → Bool
  | hi :: lo :: _ => hi.isHexDigit && lo.isHexDigit
  | _ => false

/-- An escape stands in a text. -/
def hasEscape : Text → Bool
  | [] => false
  | c :: rest => (c == PyChar.scalar '%' && beginsEscape rest) || hasEscape rest

/-- The host and the port of an authority; brackets around the host are taken off.  What
becomes of a host with an escape is left out; it is not the host. -/
def readAuthority (authority : Text) : Option (Text × Nat) :=
  let port := authority.rtakeWhile (· ≠ PyChar.scalar ':')
  let host := (authority.rdropWhile (· ≠ PyChar.scalar ':')).dropLast
  if hasEscape authority = false ∧ port ≠ [] ∧ port.all PyChar.isAsciiDigit then
    some (unbracketed host, numeralValue port)
  else none

/-- What a part of a path says. -/
def readPart (part : Text) : Option Text := (Text.scalars? part).bind Text.unquote?

/-- The database and the table of a path. -/
def readPath (path : Text) : Option (Text × Text) :=
  match path.splitOn (PyChar.scalar '/') with
  | [root, api, database, table, leaf] =>
    if root = [] ∧ api = str "api" ∧ leaf = str "_query_plan" then do
      return (← readPart database, ← readPart table)
    else none
  | _ => none

/-- Whether a URL is secure, its authority and its path. -/
def readUrl (url : Text) : Option (Bool × Text × Text) :=
  let scheme := url.takeWhile (· ≠ PyChar.scalar ':')
  let rest := (url.dropWhile (· ≠ PyChar.scalar ':')).drop 3
  if scheme = str "http" ∨ scheme = str "https" then
    some (scheme = str "https", rest.takeWhile (· ≠ PyChar.scalar '/'),
      rest.dropWhile (· ≠ PyChar.scalar '/'))
  else none

/-- The credentials of a header of the scheme `Basic`, which are parted at the first colon. -/
def readAuthorization (authorization : Text) : Option (Text × Text) := do
  let encoded ← Text.scalars? (← authorization.dropPrefix? (str "Basic "))
  let bytes ← decodeBase64? encoded
  let credentials ← Text.decodeUtf8? bytes
  return (credentials.takeWhile (· ≠ PyChar.scalar ':'),
    (credentials.dropWhile (· ≠ PyChar.scalar ':')).tail)

/-- The SQL of a body, an object with one member. -/
def readPlanBody (body : List UInt8) : Option Text := do
  let text ← Text.decodeUtf8? body
  match ← Text.scalars? text with
  | '\x7b' :: rest =>
    match ← readJsonString rest with
    | (key, ':' :: ' ' :: rest) =>
      match ← readJsonString rest with
      | (sql, ['\x7d']) => if key = str "sql" then some sql else none
      | _ => none
    | _ => none
  | _ => none

/-- How the other side reads a request. -/
def readRequest (request : PlanRequest) : Option PlanQuestion := do
  let (secure, authority, path) ← readUrl request.url
  let (host, port) ← readAuthority authority
  let (database, table) ← readPath path
  let (username, password) ← readAuthorization request.authorization
  let sql ← readPlanBody request.body
  return ⟨secure, host, port, database, table, username, password, sql⟩

/-! ## What is read -/

section Parts

variable {connection : DorisConnection V}

theorem scalars?_map_scalar (cs : List Char) : Text.scalars? (cs.map PyChar.scalar) = some cs := by
  induction cs with
  | nil => rfl
  | cons c cs ih => rw [List.map_cons, Text.scalars?, ih, Option.map_some]

theorem numeralValue_natText (n : Nat) : numeralValue (natText n) = n := by
  rw [numeralValue, natText, List.foldl_map]
  exact Nat.ofDigitChars_ten_toDigits

theorem hasEscape_of_not_mem {t : Text} (h : PyChar.scalar '%' ∉ t) : hasEscape t = false := by
  induction t with
  | nil => rfl
  | cons c t ih =>
    rw [List.mem_cons, not_or] at h
    rw [hasEscape, beq_eq_false_iff_ne.mpr (Ne.symm h.1), ih h.2]
    rfl

theorem beginsEscape_append {c : PyChar} {t rest : Text} (h : c.isHexDigit = false) :
    beginsEscape (t ++ c :: rest) = beginsEscape t := by
  cases t with
  | nil =>
    cases rest with
    | nil => rfl
    | cons d rest => exact congrArg (· && d.isHexDigit) h
  | cons hi t =>
    cases t with
    | nil => exact (congrArg (hi.isHexDigit && ·) h).trans (Bool.and_false _)
    | cons lo t => rfl

/-- No escape goes over a character that is no part of one. -/
theorem hasEscape_append {c : PyChar} {t rest : Text} (hpercent : PyChar.scalar '%' ∉ c :: rest)
    (hdigit : c.isHexDigit = false) : hasEscape (t ++ c :: rest) = hasEscape t := by
  induction t with
  | nil => exact hasEscape_of_not_mem hpercent
  | cons d t ih => rw [List.cons_append, hasEscape, beginsEscape_append hdigit, ih, hasEscape]

theorem percent_not_mem_port (n : Nat) : PyChar.scalar '%' ∉ str ":" ++ natText n := by
  intro hmem
  rcases List.mem_append.mp hmem with hcolon | hdigit
  · exact absurd hcolon (by decide)
  · cases isAsciiDigit_of_mem_natText hdigit

theorem readAuthority_host {host : Text} (n : Nat) :
    readAuthority (host ++ str ":" ++ natText n) =
      if hasEscape host = false then some (unbracketed host, n) else none := by
  have hdigit : ∀ c ∈ (natText n).reverse, decide (c ≠ PyChar.scalar ':') = true := by
    intro c hc
    have hc := isAsciiDigit_of_mem_natText (List.mem_reverse.mp hc)
    refine decide_eq_true fun heq => ?_
    rw [heq] at hc
    cases hc
  have hreverse : (host ++ str ":" ++ natText n).reverse =
      (natText n).reverse ++ PyChar.scalar ':' :: host.reverse := by
    rw [List.reverse_append, List.reverse_append]
    rfl
  have hport : (host ++ str ":" ++ natText n).rtakeWhile (· ≠ PyChar.scalar ':') = natText n := by
    rw [List.rtakeWhile, hreverse, List.takeWhile_append_of_pos hdigit,
      List.takeWhile_cons_of_neg (by simp), List.append_nil, List.reverse_reverse]
  have hhost : (host ++ str ":" ++ natText n).rdropWhile (· ≠ PyChar.scalar ':') =
      host ++ str ":" := by
    rw [List.rdropWhile, hreverse, List.dropWhile_append_of_pos hdigit,
      List.dropWhile_cons_of_neg (by simp), List.reverse_cons, List.reverse_reverse]
    rfl
  have hescape : hasEscape (host ++ str ":" ++ natText n) = hasEscape host := by
    rw [List.append_assoc]
    exact hasEscape_append (percent_not_mem_port n) (by decide)
  have hdigits : natText n ≠ [] ∧ (natText n).all PyChar.isAsciiDigit = true :=
    ⟨natText_ne_nil n, List.all_eq_true.mpr fun c hc => isAsciiDigit_of_mem_natText hc⟩
  have hlast : (host ++ str ":").dropLast = host := List.dropLast_concat
  rw [readAuthority, hport, hhost, hescape, hlast, numeralValue_natText]
  by_cases h : hasEscape host = false
  · rw [if_pos h, if_pos ⟨h, hdigits⟩]
  · rw [if_neg h, if_neg fun hall => h hall.1]

theorem unbracketed_brackets (host : Text) : unbracketed (str "[" ++ host ++ str "]") = host := by
  have hlast : (str "[" ++ host ++ str "]").getLast? = some (PyChar.scalar ']') :=
    List.getLast?_concat
  rw [unbracketed, if_pos ⟨rfl, hlast⟩]
  exact List.dropLast_concat

theorem unbracketed_eq_self_iff {host : Text} : unbracketed host = host ↔ ¬ Bracketed host := by
  constructor
  · intro h hbracketed
    rw [unbracketed, if_pos hbracketed] at h
    have hlength := congrArg List.length h
    cases host with
    | nil => cases hbracketed.1
    | cons c host =>
      rw [List.tail_cons, List.length_dropLast, List.length_cons] at hlength
      omega
  · exact fun h => if_neg h

theorem hasEscape_brackets (host : Text) :
    hasEscape (str "[" ++ host ++ str "]") = hasEscape host := by
  show hasEscape (PyChar.scalar '[' :: (host ++ [PyChar.scalar ']'])) = _
  rw [hasEscape, hasEscape_append (by decide) (by decide)]
  rfl

/-- The authority of a connection is read as its host and port, unless the host has an escape or
brackets of its own. -/
theorem readAuthority_authority_iff {connection : DorisConnection V} {port : Nat} :
    readAuthority (connection.authority port) = some (connection.host, port) ↔
      hasEscape connection.host = false ∧
        (PyChar.scalar ':' ∈ connection.host ∨ ¬ Bracketed connection.host) := by
  rw [DorisConnection.authority, readAuthority_host]
  by_cases hcolon : PyChar.scalar ':' ∈ connection.host
  · rw [if_pos hcolon, hasEscape_brackets, unbracketed_brackets]
    by_cases h : hasEscape connection.host = false
    · rw [if_pos h]
      exact iff_of_true rfl ⟨h, Or.inl hcolon⟩
    · rw [if_neg h]
      exact iff_of_false (fun heq => by cases heq) fun hand => h hand.1
  · rw [if_neg hcolon]
    by_cases h : hasEscape connection.host = false
    · rw [if_pos h, Option.some.injEq, Prod.mk.injEq, and_iff_left rfl, unbracketed_eq_self_iff,
        and_iff_right h, or_iff_right hcolon]
    · rw [if_neg h]
      exact iff_of_false (fun heq => by cases heq) fun hand => h hand.1

theorem quoteText_eq_ok {t part : Text} (h : quoteText t = .ok part) :
    readPart part = some t ∧ PyChar.scalar '/' ∉ part := by
  unfold quoteText at h
  cases hquoted : t.quote? with
  | none =>
    rw [hquoted] at h
    cases h
  | some quoted =>
    rw [hquoted] at h
    obtain rfl := Except.ok.inj h
    constructor
    · rw [readPart, scalars?_map_scalar, Option.bind_some, Text.unquote?_quote? hquoted]
    · intro hmem
      obtain ⟨c, hc, heq⟩ := List.mem_map.mp hmem
      rw [PyChar.scalar.inj heq] at hc
      exact Text.slash_not_mem_quote? hquoted hc

theorem quoteText_eq_error {t : Text} {e : PyException} (h : quoteText t = .error e) :
    e = .valueError := by
  unfold quoteText at h
  split at h
  · cases h
  · exact (Except.error.inj h).symm

theorem readPath_parts {database table d t : Text} (hd : quoteText database = .ok d)
    (ht : quoteText table = .ok t) :
    readPath (str "/api/" ++ d ++ str "/" ++ t ++ str "/_query_plan") = some (database, table) := by
  obtain ⟨hdatabase, hd⟩ := quoteText_eq_ok hd
  obtain ⟨htable, ht⟩ := quoteText_eq_ok ht
  have hsplit : ([PyChar.scalar '/'].intercalate [[], str "api", d, t, str "_query_plan"]).splitOn
      (PyChar.scalar '/') = [[], str "api", d, t, str "_query_plan"] := by
    refine List.splitOn_intercalate _ ?_ (List.cons_ne_nil _ _)
    simp only [List.forall_mem_cons, List.not_mem_nil, not_false_eq_true, false_implies,
      implies_true, and_true, true_and]
    exact ⟨by decide, hd, ht, by decide⟩
  have hjoin : [PyChar.scalar '/'].intercalate [[], str "api", d, t, str "_query_plan"] =
      str "/api/" ++ d ++ str "/" ++ t ++ str "/_query_plan" := by
    show Text.join (str "/") [[], str "api", d, t, str "_query_plan"] = _
    rw [Text.join_cons_cons, Text.join_cons_cons, Text.join_cons_cons, Text.join_cons_cons,
      Text.join_singleton]
    simp only [List.append_assoc, List.nil_append]
    rfl
  rw [hjoin] at hsplit
  rw [readPath, hsplit]
  simp only [and_self, if_true, hdatabase, htable]
  rfl

/-- The credentials of a request. -/
theorem readAuthorization_basic {username password authorization : Text}
    (h : basicAuthorization username password = .ok authorization) :
    readAuthorization authorization =
      some ((username ++ str ":" ++ password).takeWhile (· ≠ PyChar.scalar ':'),
        ((username ++ str ":" ++ password).dropWhile (· ≠ PyChar.scalar ':')).tail) := by
  unfold basicAuthorization at h
  cases hbytes : Text.encodeUtf8? (username ++ str ":" ++ password) with
  | none =>
    rw [hbytes] at h
    cases h
  | some bytes =>
    rw [hbytes] at h
    obtain rfl := Except.ok.inj h
    have hdrop : (str "Basic " ++ (encodeBase64 bytes).map PyChar.scalar).dropPrefix?
        (str "Basic ") = some ((encodeBase64 bytes).map PyChar.scalar) :=
      List.dropPrefix?_eq_some_iff.mpr ⟨str "Basic ", rfl, beq_self_eq_true _⟩
    rw [readAuthorization, hdrop]
    simp only [Option.bind_eq_bind, Option.bind_some, scalars?_map_scalar, decodeBase64?_encodeBase64,
      Text.decodeUtf8?_of_encodeUtf8? hbytes]
    rfl

theorem parted_eq_iff {username password : Text} :
    (username ++ str ":" ++ password).takeWhile (· ≠ PyChar.scalar ':') = username ∧
      ((username ++ str ":" ++ password).dropWhile (· ≠ PyChar.scalar ':')).tail = password ↔
    PyChar.scalar ':' ∉ username := by
  constructor
  · intro h hmem
    have hall := List.mem_takeWhile_imp (h.1.symm ▸ hmem)
    simp at hall
  · intro h
    have hall : ∀ c ∈ username, decide (c ≠ PyChar.scalar ':') = true := by
      intro c hc
      refine decide_eq_true fun heq => h ?_
      rwa [← heq]
    rw [List.append_assoc, List.takeWhile_append_of_pos hall, List.dropWhile_append_of_pos hall]
    exact ⟨List.append_nil _, rfl⟩

/-- The SQL of a request, but for surrogates that make pairs. -/
theorem readPlanBody_planBody (sql : Text) :
    readPlanBody ((planBody sql).flatMap String.utf8EncodeChar) = some (joinPairs sql) := by
  have hencoded : Text.encodeUtf8? ((planBody sql).map PyChar.scalar) =
      some ((planBody sql).flatMap String.utf8EncodeChar) := by
    rw [Text.encodeUtf8?, scalars?_map_scalar]
    rfl
  have hkey : joinPairs (str "sql") = str "sql" := by decide
  rw [readPlanBody, Text.decodeUtf8?_of_encodeUtf8? hencoded]
  simp only [Option.bind_eq_bind, Option.bind_some, scalars?_map_scalar, planBody,
    readJsonString_jsonString, hkey, if_true]

theorem slash_not_mem_authority (connection : DorisConnection V) (port : Nat) :
    PyChar.scalar '/' ∉ connection.authority port := by
  have hhost : PyChar.scalar '/' ∉ connection.host := fun hmem =>
    connection.host_valid.bare _ hmem (by decide)
  have hport : PyChar.scalar '/' ∉ natText port := fun hmem => by
    cases isAsciiDigit_of_mem_natText hmem
  have hopen : PyChar.scalar '/' ∉ str "[" := by decide
  have hclose : PyChar.scalar '/' ∉ str "]" := by decide
  have hcolon : PyChar.scalar '/' ∉ str ":" := by decide
  rw [DorisConnection.authority]
  by_cases h : PyChar.scalar ':' ∈ connection.host
  · simp only [if_pos h, List.mem_append, hhost, hport, hopen, hclose, hcolon, or_self,
      not_false_eq_true]
  · simp only [if_neg h, List.mem_append, hhost, hport, hcolon, or_self, not_false_eq_true]

theorem readUrl_origin (connection : DorisConnection V) (path : Text) :
    readUrl (connection.queryPlanOrigin ++ PyChar.scalar '/' :: path) =
      some (connection.httpSecure, connection.authority connection.httpPort,
        PyChar.scalar '/' :: path) := by
  have hauthority : ∀ c ∈ connection.authority connection.httpPort,
      decide (c ≠ PyChar.scalar '/') = true := by
    intro c hc
    refine decide_eq_true fun heq => slash_not_mem_authority connection connection.httpPort ?_
    rwa [← heq]
  have hread : ∀ rest, rest = connection.authority connection.httpPort ++ PyChar.scalar '/' :: path →
      rest.takeWhile (· ≠ PyChar.scalar '/') = connection.authority connection.httpPort ∧
      rest.dropWhile (· ≠ PyChar.scalar '/') = PyChar.scalar '/' :: path := by
    rintro rest rfl
    rw [List.takeWhile_append_of_pos hauthority, List.takeWhile_cons_of_neg (by simp),
      List.append_nil, List.dropWhile_append_of_pos hauthority,
      List.dropWhile_cons_of_neg (by simp)]
    exact ⟨rfl, rfl⟩
  rw [DorisConnection.queryPlanOrigin, List.append_assoc, List.append_assoc]
  generalize connection.authority connection.httpPort ++ PyChar.scalar '/' :: path = rest at hread ⊢
  obtain ⟨htake, hdrop⟩ := hread rest rfl
  rw [← htake, ← hdrop]
  cases connection.httpSecure with
  | true => rfl
  | false => rfl

theorem exists_quoteText_iff {t : Text} : (∃ part, quoteText t = .ok part) ↔ t.ValidUtf8 := by
  rw [← Text.exists_quote?_iff]
  unfold quoteText
  cases t.quote? with
  | none => exact iff_of_false (fun ⟨_, h⟩ => by cases h) fun ⟨_, h⟩ => by cases h
  | some quoted => exact iff_of_true ⟨_, rfl⟩ ⟨_, rfl⟩

theorem exists_basicAuthorization_iff {username password : Text} :
    (∃ authorization, basicAuthorization username password = .ok authorization) ↔
      (username ++ str ":" ++ password).ValidUtf8 := by
  unfold basicAuthorization
  rw [Text.encodeUtf8?, Text.ValidUtf8]
  cases Text.scalars? (username ++ str ":" ++ password) with
  | none => exact iff_of_false (fun h => by cases h.choose_spec) fun h => by cases h
  | some bytes => exact iff_of_true ⟨_, rfl⟩ rfl

end Parts

/-! ## The request -/

section Request

variable {connection : DorisConnection V} {table : QualifiedTable} {password sql : Text}

theorem planRequest_eq_ok {request : PlanRequest}
    (h : planRequest connection table password sql = .ok request) :
    queryPlanUrl connection table = .ok request.url ∧
      basicAuthorization connection.username password = .ok request.authorization ∧
      request.body = (planBody sql).flatMap String.utf8EncodeChar := by
  obtain ⟨url, hurl, h⟩ := bind_eq_ok.mp h
  obtain ⟨authorization, hauthorization, h⟩ := bind_eq_ok.mp h
  obtain rfl := Except.ok.inj h
  exact ⟨hurl, hauthorization, rfl⟩

theorem queryPlanUrl_eq_error {e : PyException} (h : queryPlanUrl connection table = .error e) :
    e = .valueError := by
  rcases bind_eq_error.mp h with hd | ⟨d, -, h⟩
  · exact quoteText_eq_error hd
  · rcases bind_eq_error.mp h with ht | ⟨t, -, h⟩
    · exact quoteText_eq_error ht
    · cases h

theorem basicAuthorization_eq_error {username : Text} {e : PyException}
    (h : basicAuthorization username password = .error e) : e = .valueError := by
  unfold basicAuthorization at h
  split at h
  · cases h
  · exact (Except.error.inj h).symm

theorem queryPlanUrl_eq_ok {url : Text} (h : queryPlanUrl connection table = .ok url) :
    readUrl url = some (connection.httpSecure, connection.authority connection.httpPort, url.drop
      connection.queryPlanOrigin.length) ∧
    readPath (url.drop connection.queryPlanOrigin.length) = some (table.database, table.table) := by
  obtain ⟨d, hd, h⟩ := bind_eq_ok.mp h
  obtain ⟨t, ht, h⟩ := bind_eq_ok.mp h
  obtain rfl := Except.ok.inj h
  have hurl : connection.queryPlanOrigin ++ str "/api/" ++ d ++ str "/" ++ t ++
      str "/_query_plan" = connection.queryPlanOrigin ++
        (str "/api/" ++ d ++ str "/" ++ t ++ str "/_query_plan") := by
    simp only [List.append_assoc]
  rw [hurl, List.drop_left]
  exact ⟨readUrl_origin connection _, readPath_parts hd ht⟩

/-- There is a request if the names and the credentials can be encoded. -/
theorem exists_planRequest_iff :
    (∃ request, planRequest connection table password sql = .ok request) ↔
      table.database.ValidUtf8 ∧ table.table.ValidUtf8 ∧
        (connection.username ++ str ":" ++ password).ValidUtf8 := by
  constructor
  · rintro ⟨request, h⟩
    obtain ⟨hurl, hauthorization, -⟩ := planRequest_eq_ok h
    obtain ⟨d, hd, hurl⟩ := bind_eq_ok.mp hurl
    obtain ⟨t, ht, -⟩ := bind_eq_ok.mp hurl
    exact ⟨exists_quoteText_iff.mp ⟨d, hd⟩, exists_quoteText_iff.mp ⟨t, ht⟩,
      exists_basicAuthorization_iff.mp ⟨_, hauthorization⟩⟩
  · rintro ⟨hdatabase, htable, hcredentials⟩
    obtain ⟨d, hd⟩ := exists_quoteText_iff.mpr hdatabase
    obtain ⟨t, ht⟩ := exists_quoteText_iff.mpr htable
    obtain ⟨authorization, hauthorization⟩ := exists_basicAuthorization_iff.mpr hcredentials
    exact ⟨_, bind_eq_ok.mpr ⟨_, bind_eq_ok.mpr ⟨d, hd, bind_eq_ok.mpr ⟨t, ht, rfl⟩⟩,
      bind_eq_ok.mpr ⟨authorization, hauthorization, rfl⟩⟩⟩

theorem readRequest_eq {request : PlanRequest}
    (h : planRequest connection table password sql = .ok request) :
    readRequest request = (readAuthority (connection.authority connection.httpPort)).map
      fun authority => ⟨connection.httpSecure, authority.1, authority.2, table.database, table.table,
        (connection.username ++ str ":" ++ password).takeWhile (· ≠ PyChar.scalar ':'),
        ((connection.username ++ str ":" ++ password).dropWhile (· ≠ PyChar.scalar ':')).tail,
        joinPairs sql⟩ := by
  obtain ⟨hurl, hauthorization, hbody⟩ := planRequest_eq_ok h
  obtain ⟨hurl, hpath⟩ := queryPlanUrl_eq_ok hurl
  rw [readRequest, hurl, hbody]
  simp only [Option.bind_eq_bind, Option.bind_some, hpath, readAuthorization_basic hauthorization,
    readPlanBody_planBody]
  cases readAuthority (connection.authority connection.httpPort) with
  | none => rfl
  | some authority => rfl

/-- The table and the SQL of a request are read if the host has no escape. -/
theorem exists_readRequest {request : PlanRequest}
    (h : planRequest connection table password sql = .ok request)
    (hhost : hasEscape connection.host = false) :
    ∃ question, readRequest request = some question ∧ question.database = table.database ∧
      question.table = table.table ∧ question.sql = joinPairs sql := by
  have hescape : ∀ host, (host = connection.host ∨
      host = str "[" ++ connection.host ++ str "]") → hasEscape host = false := by
    rintro host (rfl | rfl)
    · exact hhost
    · rw [hasEscape_brackets, hhost]
  rw [readRequest_eq h, DorisConnection.authority, readAuthority_host, if_pos]
  · exact ⟨_, rfl, rfl, rfl, rfl⟩
  · refine hescape _ ?_
    split
    · exact Or.inr rfl
    · exact Or.inl rfl

/-- Which requests there are, and which of them are read as they were meant: the host has neither
an escape nor brackets of its own, the user no colon, and the SQL no surrogates that make a
pair. -/
theorem readRequest_planRequest (connection : DorisConnection V) (table : QualifiedTable)
    (password sql : Text) :
    ((∃ request, planRequest connection table password sql = .ok request) ↔
      table.database.ValidUtf8 ∧ table.table.ValidUtf8 ∧
        (connection.username ++ str ":" ++ password).ValidUtf8) ∧
    ∀ request, planRequest connection table password sql = .ok request →
      (readRequest request = some ⟨connection.httpSecure, connection.host, connection.httpPort,
          table.database, table.table, connection.username, password, sql⟩ ↔
        hasEscape connection.host = false ∧
          (PyChar.scalar ':' ∈ connection.host ∨ ¬ Bracketed connection.host) ∧
          PyChar.scalar ':' ∉ connection.username ∧ sql.IsChain fun c d => ¬ IsPair c d) := by
  refine ⟨exists_planRequest_iff, fun request h => ?_⟩
  rw [readRequest_eq h, ← and_assoc, ← readAuthority_authority_iff, ← parted_eq_iff,
    ← joinPairs_eq_self_iff, Option.map_eq_some_iff]
  constructor
  · rintro ⟨⟨host, port⟩, hauthority, heq⟩
    simp only [PlanQuestion.mk.injEq, true_and] at heq
    obtain ⟨rfl, rfl, husername, hpassword, hsql⟩ := heq
    exact ⟨hauthority, ⟨husername, hpassword⟩, hsql⟩
  · rintro ⟨hauthority, ⟨husername, hpassword⟩, hsql⟩
    refine ⟨_, hauthority, ?_⟩
    rw [husername, hpassword, hsql]

theorem readRequest_planRequest_select :
    ∃ request, planRequest exampleConnection exampleTable (str "p:w") (str "SELECT 1") =
      .ok request ∧ readRequest request = some ⟨false, str "fe", 8030, str "d", str "t",
        str "root", str "p:w", str "SELECT 1"⟩ := by
  obtain ⟨hexists, hread⟩ :=
    readRequest_planRequest exampleConnection exampleTable (str "p:w") (str "SELECT 1")
  obtain ⟨request, h⟩ := hexists.mpr ⟨by decide, by decide, by decide⟩
  exact ⟨request, h, (hread request h).mpr ⟨by decide, by decide, by decide,
    joinPairs_eq_self_iff.mp (by decide)⟩⟩

end Request

end Doris
end DaftOlap
