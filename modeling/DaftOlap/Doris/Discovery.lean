/-
Doris tablet discovery (`doris/discovery.py`).

The model starts where the request has been sent: the exchange raises or returns a
response, whose body is read, decoded, parsed and checked.
-/
import DaftOlap.Doris.DataSource
import DaftOlap.Python.Json

namespace DaftOlap
namespace Doris

open Python

/-! ## The answer of the planner -/

def authenticationError (message : Message) : PyException := .daftOlap .authentication message
def permissionError (message : Message) : PyException := .daftOlap .databasePermission message
def objectNotFoundError (message : Message) : PyException :=
  .daftOlap .databaseObjectNotFound message

/-- What `_raise_query_plan_rejection` raises. -/
def queryPlanRejection (u : UnicodeData) (exception : Option Json) : PyException :=
  let exception := exception.getD .null
  let normalized := Text.casefold u (if exception.isFalsy then [] else exception.toStr u)
  if str "access denied" <+: normalized then
    permissionError "Doris denied SELECT during tablet planning"
  else if Text.contains (str "unknown table") normalized = true ∨
      Text.contains (str "does not exist") normalized = true then
    objectNotFoundError "Doris database object was not found during tablet planning"
  else discoveryError "Doris query-plan service rejected the query"

/-- The check of one key of the partitions. -/
def readTabletId (u : UnicodeData) (rawTabletId : Text) : Except PyException Int :=
  match parseInt u rawTabletId with
  | none => .error (discoveryError "Doris query-plan returned a non-integer tablet ID")
  | some tabletId =>
    if tabletId ≤ 0 then
      .error (discoveryError "Doris query-plan returned a non-positive tablet ID")
    else .ok tabletId

/-- The tablet ids of the partitions. -/
def readTabletIds (u : UnicodeData) (partitions : List (Text × Json)) :
    Except PyException (List Int) := do
  let tabletIds ← partitions.mapM fun entry => readTabletId u entry.1
  if ¬ tabletIds.Nodup then
    .error (discoveryError "Doris query-plan returned duplicate tablet IDs")
  else return sortInts tabletIds

/-- `mapping.get(key) == n`. -/
def getEqualsInt (entries : List (Text × Json)) (key : Text) (n : Int) : Bool :=
  (entries.lookup key).any fun value => value.equalsInt n

/-- Validate the Doris response envelope and intentionally consume only tablet IDs. -/
def parseQueryPlanResponse (u : UnicodeData) (payload : Json) : Except PyException (List Int) :=
  match payload with
  | .object payload =>
    if getEqualsInt payload (str "code") 401 then
      .error (authenticationError "Doris rejected query-plan credentials")
    else if ¬ getEqualsInt payload (str "code") 0 then
      .error (discoveryError "Doris query-plan request failed")
    else
      match payload.lookup (str "data") with
      | some (.object data) =>
        if (data.lookup (str "status")).any fun status => status.equalsText (str "1") then
          .error (queryPlanRejection u (data.lookup (str "exception")))
        else if ¬ getEqualsInt data (str "status") 200 then
          .error (discoveryError "Doris query-plan response has an invalid status")
        else
          match data.lookup (str "partitions") with
          | some (.object partitions) => readTabletIds u partitions
          | _ => .error (discoveryError "Doris query-plan response has no partitions object")
      | _ => .error (discoveryError "Doris query-plan response has no data object")
  | _ => .error (discoveryError "Doris query-plan response must be an object")

/-! ## The exchange -/

/-- `_MAX_QUERY_PLAN_RESPONSE_BYTES`. -/
def maxQueryPlanResponseBytes : Nat := 16 * 1024 * 1024

/-- A response: its status, and the bytes of its body or what reading them raises. -/
structure HttpResponse where
  status : Int
  read : Except HttpFailure (List UInt8)

/-- What `_open_query_plan` raises or returns. -/
abbrev Exchange := Except HttpFailure HttpResponse

/-- The handlers of the `try` statement around the exchange.  None of them is for an
`HTTPException`. -/
def handleFailure : HttpFailure → PyException
  | .httpError code =>
    if code = 401 then authenticationError "Doris rejected query-plan credentials"
    else if code = 403 then permissionError "Doris denied access to tablet planning"
    else
      discoveryError [.text "Doris query-plan endpoint returned HTTP ", .plain (intText code)]
  | .timeoutError => discoveryError "Doris query-plan request timed out"
  | .urlError .timeout => discoveryError "Doris query-plan request timed out"
  | .urlError .other => discoveryError "Doris query-plan endpoint is unavailable"
  | .osError => discoveryError "Doris query-plan endpoint is unavailable"
  | .httpException => .http .httpException

/-- The body of the response. -/
def readBody (exchange : Exchange) : Except PyException (List UInt8) :=
  match exchange with
  | .error failure => .error (handleFailure failure)
  | .ok response =>
    if response.status ≠ 200 then
      .error (discoveryError
        [.text "Doris query-plan endpoint returned HTTP ", .plain (intText response.status)])
    else
      match response.read with
      | .error failure => .error (handleFailure failure)
      | .ok bytes =>
        let body := bytes.take (maxQueryPlanResponseBytes + 1)
        if maxQueryPlanResponseBytes < body.length then
          .error (discoveryError "Doris query-plan response exceeds the 16 MiB safety limit")
        else .ok body

/-- What becomes of the text of the body.  `loads` is `json.loads`. -/
def parseText (u : UnicodeData) (loads : Text → Except JsonFailure Json) (text : Text) :
    Except PyException (List Int) :=
  match loads text with
  | .error .jsonDecodeError =>
    .error (discoveryError "Doris query-plan endpoint returned invalid JSON")
  | .error failure => .error (.json failure)
  | .ok payload => parseQueryPlanResponse u payload

/-- `discover_tablets`, from the exchange on. -/
def discoverTablets (u : UnicodeData) (loads : Text → Except JsonFailure Json)
    (exchange : Exchange) : Except PyException (List Int) := do
  let body ← readBody exchange
  match Text.decodeUtf8? body with
  | none => .error (discoveryError "Doris query-plan endpoint returned invalid JSON")
  | some text => parseText u loads text

/-! ## What the answer is made of -/

/-- The public classes discovery raises. -/
def IsPlanningKind (kind : ErrorKind) : Prop :=
  kind = .discovery ∨ kind = .authentication ∨ kind = .databasePermission ∨
    kind = .databaseObjectNotFound

/-- Returned tablet ids are positive and strictly increasing, and an exception is one of
the public classes. -/
def Planned (result : Except PyException (List Int)) : Prop :=
  match result with
  | .ok tabletIds => tabletIds.Pairwise (· < ·) ∧ ∀ id ∈ tabletIds, 0 < id
  | .error e => ∃ kind, e.kind? = some kind ∧ IsPlanningKind kind

theorem planned_discoveryError (message : Message) : Planned (.error (discoveryError message)) :=
  ⟨.discovery, rfl, Or.inl rfl⟩

theorem planned_queryPlanRejection (u : UnicodeData) (exception : Option Json) :
    Planned (.error (queryPlanRejection u exception)) := by
  unfold queryPlanRejection
  simp only
  generalize Text.casefold u _ = normalized
  split
  · exact ⟨.databasePermission, rfl, Or.inr (Or.inr (Or.inl rfl))⟩
  · split
    · exact ⟨.databaseObjectNotFound, rfl, Or.inr (Or.inr (Or.inr rfl))⟩
    · exact planned_discoveryError _

theorem readTabletId_eq_error {u : UnicodeData} {key : Text} {e : PyException}
    (h : readTabletId u key = .error e) : ∃ message, e = discoveryError message := by
  unfold readTabletId at h
  split at h
  · exact ⟨_, (Except.error.inj h).symm⟩
  · split at h
    · exact ⟨_, (Except.error.inj h).symm⟩
    · cases h

theorem readTabletId_eq_ok_iff {u : UnicodeData} {key : Text} {id : Int} :
    readTabletId u key = .ok id ↔ parseInt u key = some id ∧ 0 < id := by
  unfold readTabletId
  cases hparsed : parseInt u key with
  | none => exact iff_of_false (fun h => by cases h) fun h => by cases h.1
  | some n =>
    simp only [Option.some.injEq]
    split
    · next hpos => exact iff_of_false (fun h => by cases h) fun h => by omega
    · next hpos =>
      rw [Except.ok.injEq]
      exact ⟨fun h => ⟨h, by omega⟩, And.left⟩

/-- The tablets of partitions: the integers that the keys denote, which are positive and pairwise
different, in increasing order. -/
structure Tablets (u : UnicodeData) (partitions : List (Text × Json)) (ids : List Int) : Prop where
  keys : ∃ read, List.Forall₂ (fun entry id => parseInt u entry.1 = some id) partitions read ∧
    ids.Perm read
  positive : ∀ id ∈ ids, 0 < id
  increasing : ids.Pairwise (· < ·)

theorem sortInts_pairwise (values : List Int) : (sortInts values).Pairwise (· ≤ ·) := by
  refine (List.pairwise_mergeSort ?_ ?_ values).imp fun h => of_decide_eq_true h
  · intro a b c hab hbc
    exact decide_eq_true ((of_decide_eq_true hab).trans (of_decide_eq_true hbc))
  · intro a b
    simpa using Int.le_total a b

theorem readTabletIds_eq_ok_iff {u : UnicodeData} {partitions : List (Text × Json)}
    {ids : List Int} : readTabletIds u partitions = .ok ids ↔ Tablets u partitions ids := by
  have hread : ∀ read, partitions.mapM (fun entry => readTabletId u entry.1) = .ok read ↔
      List.Forall₂ (fun entry id => parseInt u entry.1 = some id) partitions read ∧
        ∀ id ∈ read, 0 < id := by
    intro read
    rw [mapM_eq_ok]
    constructor
    · intro h
      refine ⟨h.imp fun _ _ h => (readTabletId_eq_ok_iff.mp h).1, fun id hid => ?_⟩
      obtain ⟨entry, -, hentry⟩ := exists_of_mem_right h id hid
      exact (readTabletId_eq_ok_iff.mp hentry).2
    · intro h
      obtain ⟨hkeys, hpositive⟩ := h
      induction hkeys with
      | nil => exact .nil
      | cons hkey _ ih =>
        rw [List.forall_mem_cons] at hpositive
        exact .cons (readTabletId_eq_ok_iff.mpr ⟨hkey, hpositive.1⟩) (ih hpositive.2)
  constructor
  · intro h
    obtain ⟨read, hmapped, h⟩ := bind_eq_ok.mp h
    obtain ⟨hkeys, hpositive⟩ := (hread read).mp hmapped
    split at h
    · cases h
    · next hnodup =>
      have hperm : (sortInts read).Perm read := List.mergeSort_perm read fun a b => decide (a ≤ b)
      rw [← Except.ok.inj h]
      refine ⟨⟨read, hkeys, hperm⟩, fun id hid => hpositive id (hperm.mem_iff.mp hid), ?_⟩
      exact (sortInts_pairwise read).imp₂ (fun a b hle hne => lt_of_le_of_ne hle hne)
        (hperm.nodup_iff.mpr (not_not.mp hnodup))
  · intro h
    obtain ⟨read, hkeys, hperm⟩ := h.keys
    have hpositive : ∀ id ∈ read, 0 < id := fun id hid => h.positive id (hperm.mem_iff.mpr hid)
    have hnodup : read.Nodup := hperm.nodup_iff.mp (h.increasing.imp ne_of_lt)
    have hsorted : sortInts read = ids :=
      ((List.mergeSort_perm read fun a b => decide (a ≤ b)).trans hperm.symm).eq_of_pairwise
        (fun a b _ _ hab hba => le_antisymm hab hba) (sortInts_pairwise read)
        (h.increasing.imp le_of_lt)
    refine bind_eq_ok.mpr ⟨read, (hread read).mpr ⟨hkeys, hpositive⟩, ?_⟩
    rw [if_neg (not_not.mpr hnodup), hsorted]
    rfl

theorem planned_readTabletIds (u : UnicodeData) (partitions : List (Text × Json)) :
    Planned (readTabletIds u partitions) := by
  cases hresult : readTabletIds u partitions with
  | ok ids =>
    have htablets := readTabletIds_eq_ok_iff.mp hresult
    exact ⟨htablets.increasing, htablets.positive⟩
  | error e =>
    rw [readTabletIds] at hresult
    cases hids : partitions.mapM fun entry => readTabletId u entry.1 with
    | error e' =>
      rw [hids] at hresult
      obtain ⟨entry, -, hentry⟩ := exists_of_mapM_eq_error hids
      obtain ⟨message, rfl⟩ := readTabletId_eq_error hentry
      rw [← Except.error.inj hresult]
      exact planned_discoveryError message
    | ok tabletIds =>
      rw [hids, ok_bind] at hresult
      split at hresult
      · rw [← Except.error.inj hresult]
        exact planned_discoveryError _
      · cases hresult

theorem planned_parseQueryPlanResponse (u : UnicodeData) (payload : Json) :
    Planned (parseQueryPlanResponse u payload) := by
  unfold parseQueryPlanResponse
  split
  · split
    · exact ⟨.authentication, rfl, Or.inr (Or.inl rfl)⟩
    · split
      · exact planned_discoveryError _
      · split
        · split
          · exact planned_queryPlanRejection u _
          · split
            · exact planned_discoveryError _
            · split
              · exact planned_readTabletIds u _
              · exact planned_discoveryError _
        · exact planned_discoveryError _
  · exact planned_discoveryError _

/-- Every handled failure of the exchange is public. -/
theorem planned_handleFailure {failure : HttpFailure} (h : failure ≠ .httpException) :
    Planned (.error (handleFailure failure)) := by
  cases failure with
  | httpError code =>
    rw [handleFailure]
    split
    · exact ⟨.authentication, rfl, Or.inr (Or.inl rfl)⟩
    · split
      · exact ⟨.databasePermission, rfl, Or.inr (Or.inr (Or.inl rfl))⟩
      · exact planned_discoveryError _
  | timeoutError => exact planned_discoveryError _
  | urlError reason => cases reason <;> exact planned_discoveryError _
  | osError => exact planned_discoveryError _
  | httpException => exact absurd rfl h

/-! ## Which exchanges stay inside the public hierarchy -/

/-- The HTTP status of an exchange: of the raised `HTTPError` or of the response. -/
def Exchange.status? : Exchange → Option Int
  | .error (.httpError code) => some code
  | .error _ => none
  | .ok response => some response.status

/-- The exception opening or reading raises. -/
def Exchange.failure? : Exchange → Option HttpFailure
  | .error failure => some failure
  | .ok response =>
    if response.status = 200 then
      match response.read with
      | .error failure => some failure
      | .ok _ => none
    else none

/-- The text of a complete answer: status 200 and a body that is not too long and is
UTF-8. -/
def Exchange.text? : Exchange → Option Text
  | .error _ => none
  | .ok response =>
    if response.status = 200 then
      match response.read with
      | .error _ => none
      | .ok bytes =>
        if bytes.length ≤ maxQueryPlanResponseBytes then Text.decodeUtf8? bytes else none
    else none

/-- A response with another status is a discovery failure. -/
theorem discoverTablets_of_status (u : UnicodeData) (loads : Text → Except JsonFailure Json)
    {response : HttpResponse} (h : response.status ≠ 200) :
    ∃ message, discoverTablets u loads (.ok response) = .error (discoveryError message) := by
  refine ⟨[.text "Doris query-plan endpoint returned HTTP ", .plain (intText response.status)], ?_⟩
  rw [discoverTablets, readBody, if_pos h]
  rfl

/-- The body of a response with status 200, unless it is too long. -/
theorem readBody_of_read {response : HttpResponse} {bytes : List UInt8}
    (hstatus : response.status = 200) (hread : response.read = .ok bytes) :
    readBody (.ok response) =
      if bytes.length ≤ maxQueryPlanResponseBytes then .ok bytes
      else .error (discoveryError "Doris query-plan response exceeds the 16 MiB safety limit") := by
  rw [readBody, if_neg (not_not.mpr hstatus), hread]
  simp only
  by_cases hlength : bytes.length ≤ maxQueryPlanResponseBytes
  · have htake : bytes.take (maxQueryPlanResponseBytes + 1) = bytes :=
      List.take_of_length_le (Nat.le_succ_of_le hlength)
    rw [htake, if_neg (Nat.not_lt.mpr hlength), if_pos hlength]
  · have hlong : maxQueryPlanResponseBytes <
        (bytes.take (maxQueryPlanResponseBytes + 1)).length := by
      rw [List.length_take]
      omega
    rw [if_pos hlong, if_neg hlength]

/-- What discovery makes of an exchange: of its failure, of its text, or of an answer that
is not complete. -/
theorem discoverTablets_cases (u : UnicodeData) (loads : Text → Except JsonFailure Json)
    (exchange : Exchange) :
    (∃ failure, exchange.failure? = some failure ∧ exchange.text? = none ∧
      discoverTablets u loads exchange = .error (handleFailure failure)) ∨
    (∃ text, exchange.failure? = none ∧ exchange.text? = some text ∧
      discoverTablets u loads exchange = parseText u loads text) ∨
    ∃ message, exchange.failure? = none ∧ exchange.text? = none ∧
      discoverTablets u loads exchange = .error (discoveryError message) := by
  cases exchange with
  | error failure => exact Or.inl ⟨failure, rfl, rfl, rfl⟩
  | ok response =>
    by_cases hstatus : response.status = 200
    · cases hread : response.read with
      | error failure =>
        refine Or.inl ⟨failure, ?_, ?_, ?_⟩
        · rw [Exchange.failure?, if_pos hstatus, hread]
        · rw [Exchange.text?, if_pos hstatus, hread]
        · rw [discoverTablets, readBody, if_neg (not_not.mpr hstatus), hread]
          rfl
      | ok bytes =>
        have hfailure : Exchange.failure? (.ok response) = none := by
          rw [Exchange.failure?, if_pos hstatus, hread]
        rw [hfailure, Exchange.text?, if_pos hstatus, hread, discoverTablets,
          readBody_of_read hstatus hread]
        simp only
        split
        · rw [ok_bind]
          cases Text.decodeUtf8? bytes with
          | none => exact Or.inr (Or.inr ⟨_, trivial, rfl, rfl⟩)
          | some text => exact Or.inr (Or.inl ⟨text, trivial, rfl, rfl⟩)
        · exact Or.inr (Or.inr ⟨_, trivial, rfl, rfl⟩)
    · obtain ⟨message, hresult⟩ := discoverTablets_of_status u loads hstatus
      exact Or.inr (Or.inr ⟨message, if_neg hstatus, if_neg hstatus, hresult⟩)

theorem discoverTablets_of_failure (u : UnicodeData) (loads : Text → Except JsonFailure Json)
    {exchange : Exchange} {failure : HttpFailure} (h : exchange.failure? = some failure) :
    discoverTablets u loads exchange = .error (handleFailure failure) := by
  rcases discoverTablets_cases u loads exchange with
    ⟨failure', hfailure, -, hresult⟩ | ⟨_, hnone, -⟩ | ⟨_, hnone, -⟩
  · obtain rfl := Option.some.inj (hfailure.symm.trans h)
    exact hresult
  · cases hnone.symm.trans h
  · cases hnone.symm.trans h

theorem discoverTablets_of_text (u : UnicodeData) (loads : Text → Except JsonFailure Json)
    {exchange : Exchange} {text : Text} (h : exchange.text? = some text) :
    discoverTablets u loads exchange = parseText u loads text := by
  rcases discoverTablets_cases u loads exchange with
    ⟨_, -, hnone, -⟩ | ⟨text', -, htext, hresult⟩ | ⟨_, -, hnone, -⟩
  · cases hnone.symm.trans h
  · obtain rfl := Option.some.inj (htext.symm.trans h)
    exact hresult
  · cases hnone.symm.trans h

/-- A complete answer without an error code carries these partitions. -/
def Exchange.Carries (loads : Text → Except JsonFailure Json) (exchange : Exchange)
    (partitions : List (Text × Json)) : Prop :=
  ∃ text payload data, exchange.text? = some text ∧ loads text = .ok (.object payload) ∧
    getEqualsInt payload (str "code") 0 = true ∧ payload.lookup (str "data") = some (.object data) ∧
    getEqualsInt data (str "status") 200 = true ∧
    data.lookup (str "partitions") = some (.object partitions)

/-- The planner answered by these tablets. -/
def Exchange.Plans (u : UnicodeData) (loads : Text → Except JsonFailure Json) (exchange : Exchange)
    (ids : List Int) : Prop :=
  ∃ partitions, exchange.Carries loads partitions ∧ Tablets u partitions ids

theorem getEqualsInt_unique {entries : List (Text × Json)} {key : Text} {n m : Int}
    (hn : getEqualsInt entries key n = true) (hm : getEqualsInt entries key m = true) : n = m := by
  unfold getEqualsInt at hn hm
  cases hlookup : entries.lookup key with
  | none =>
    rw [hlookup] at hn
    cases hn
  | some value =>
    rw [hlookup] at hn hm
    exact Json.eq_of_equalsInt hn hm

theorem parseQueryPlanResponse_eq_ok_iff {u : UnicodeData} {value : Json} {ids : List Int} :
    parseQueryPlanResponse u value = .ok ids ↔
      ∃ payload data partitions, value = .object payload ∧
        getEqualsInt payload (str "code") 0 = true ∧
        payload.lookup (str "data") = some (.object data) ∧
        getEqualsInt data (str "status") 200 = true ∧
        data.lookup (str "partitions") = some (.object partitions) ∧ Tablets u partitions ids := by
  constructor
  · intro h
    unfold parseQueryPlanResponse at h
    split at h
    · next payload =>
      split at h
      · cases h
      · split at h
        · cases h
        · next hcode =>
          split at h
          · next data hdata =>
            split at h
            · cases h
            · split at h
              · cases h
              · next hstatus =>
                split at h
                · next partitions hpartitions =>
                  exact ⟨payload, data, partitions, rfl, not_not.mp hcode, hdata,
                    not_not.mp hstatus, hpartitions, readTabletIds_eq_ok_iff.mp h⟩
                · cases h
          · cases h
    · cases h
  · intro h
    obtain ⟨payload, data, partitions, rfl, hcode, hdata, hstatus, hpartitions, htablets⟩ := h
    have hauthorized : ¬ getEqualsInt payload (str "code") 401 = true := fun h401 =>
      absurd (getEqualsInt_unique hcode h401) (by decide)
    have haccepted : ¬ (data.lookup (str "status")).any
        (fun status => status.equalsText (str "1")) = true := by
      unfold getEqualsInt at hstatus
      cases hlookup : data.lookup (str "status") with
      | none => exact Bool.false_ne_true
      | some status =>
        rw [hlookup] at hstatus
        cases status with
        | string t => cases hstatus
        | null | bool | int | float | array | object => exact Bool.false_ne_true
    rw [parseQueryPlanResponse, if_neg hauthorized, if_neg (not_not.mpr hcode)]
    simp only [hdata]
    rw [if_neg haccepted, if_neg (not_not.mpr hstatus)]
    simp only [hpartitions]
    exact readTabletIds_eq_ok_iff.mpr htablets

/-- Discovery returns the tablets that the planner answered by, and nothing else. -/
theorem discoverTablets_eq_ok_iff {u : UnicodeData} {loads : Text → Except JsonFailure Json}
    {exchange : Exchange} {ids : List Int} :
    discoverTablets u loads exchange = .ok ids ↔ exchange.Plans u loads ids := by
  constructor
  · intro h
    rcases discoverTablets_cases u loads exchange with
      ⟨failure, -, -, hresult⟩ | ⟨text, -, htext, hresult⟩ | ⟨message, -, -, hresult⟩
    · cases hresult.symm.trans h
    · have hparsed := hresult.symm.trans h
      unfold parseText at hparsed
      split at hparsed
      · cases hparsed
      · cases hparsed
      · next value hvalue =>
        obtain ⟨payload, data, partitions, rfl, hcode, hdata, hstatus, hpartitions, htablets⟩ :=
          parseQueryPlanResponse_eq_ok_iff.mp hparsed
        exact ⟨partitions, ⟨text, payload, data, htext, hvalue, hcode, hdata, hstatus, hpartitions⟩,
          htablets⟩
    · cases hresult.symm.trans h
  · intro h
    obtain ⟨partitions, ⟨text, payload, data, htext, hvalue, hcode, hdata, hstatus, hpartitions⟩,
      htablets⟩ := h
    rw [discoverTablets_of_text u loads htext, parseText, hvalue]
    exact parseQueryPlanResponse_eq_ok_iff.mpr
      ⟨payload, data, partitions, rfl, hcode, hdata, hstatus, hpartitions, htablets⟩

/-- An exception of discovery that is no connector error: of an `HTTPException`, or of `json.loads`
on the text of the answer. -/
theorem discoverTablets_eq_error {u : UnicodeData} {loads : Text → Except JsonFailure Json}
    {exchange : Exchange} {e : PyException} (h : discoverTablets u loads exchange = .error e) :
    (∃ kind message, e = .daftOlap kind message) ∨
      exchange.failure? = some .httpException ∨
      ∃ text failure, exchange.text? = some text ∧ loads text = .error failure ∧
        failure ≠ .jsonDecodeError := by
  have hkind : ∀ result : Except PyException (List Int), Planned result → result = .error e →
      ∃ kind message, e = .daftOlap kind message := by
    intro result hplanned hresult
    rw [hresult] at hplanned
    obtain ⟨kind, hkind, -⟩ := hplanned
    cases e with
    | daftOlap kind message => exact ⟨kind, message, rfl⟩
    | valueError | keyError | http | json => cases hkind
  rcases discoverTablets_cases u loads exchange with
    ⟨failure, hfailure, -, hresult⟩ | ⟨text, -, htext, hresult⟩ | ⟨message, -, -, hresult⟩
  · by_cases hhttp : failure = .httpException
    · rw [← hhttp]
      exact Or.inr (Or.inl hfailure)
    · exact Or.inl (hkind _ (planned_handleFailure hhttp) (hresult.symm.trans h))
  · have hparsed := hresult.symm.trans h
    unfold parseText at hparsed
    split at hparsed
    · exact Or.inl ⟨_, _, (Except.error.inj hparsed).symm⟩
    · next failure hne hloads => exact Or.inr (Or.inr ⟨text, failure, htext, hloads, hne⟩)
    · exact Or.inl (hkind _ (planned_parseQueryPlanResponse u _) hparsed)
  · exact Or.inl ⟨_, _, Except.error.inj (h.symm.trans hresult)⟩

/-- The exchange ends in ways the handlers know: no `HTTPException` is raised, `json.loads`
raises nothing but `JSONDecodeError`, and a status 401 or 403 is raised, not returned. -/
structure Exchange.Foreseen (loads : Text → Except JsonFailure Json) (exchange : Exchange) :
    Prop where
  failure : exchange.failure? ≠ some .httpException
  payload : ∀ text failure, exchange.text? = some text → loads text = .error failure →
    failure = .jsonDecodeError
  status : ∀ response, exchange = .ok response → response.status ≠ 401 ∧ response.status ≠ 403

theorem planned_discoverTablets {u : UnicodeData} {loads : Text → Except JsonFailure Json}
    {exchange : Exchange} (h : exchange.Foreseen loads) :
    Planned (discoverTablets u loads exchange) := by
  rcases discoverTablets_cases u loads exchange with
    ⟨failure, hfailure, -, hresult⟩ | ⟨text, -, htext, hresult⟩ | ⟨message, -, -, hresult⟩
  · rw [hresult]
    refine planned_handleFailure ?_
    rintro rfl
    exact h.failure hfailure
  · rw [hresult, parseText]
    split
    · exact planned_discoveryError _
    · next failure hne hloads => exact absurd (h.payload text failure htext hloads) hne
    · exact planned_parseQueryPlanResponse u _
  · rw [hresult]
    exact planned_discoveryError message

/-- A discovery failure makes one ordinary task when the policy says so. -/
theorem tabletPlan_of_discoveryError {source : DataSource} {columns : List Text}
    {predicate : Option Predicate} {limit : Option Nat}
    {discover : Text × List PyValue → Except PyException (List Int)}
    {query : Text × List PyValue} {e : PyException}
    (hquery : (source.tabletPlan columns predicate limit).question? = some query)
    (hpolicy : source.discoveryPolicy = .single) (he : discover query = .error e)
    (hkind : e.kind? = some .discovery) :
    (source.tabletPlan columns predicate limit).run discover = .ok { groups := [none] } := by
  unfold DataSource.tabletPlan at hquery ⊢
  split at hquery
  · cases hquery
  · next hask =>
    rw [if_neg hask]
    split at hquery
    · cases hquery
    · next query' hbuilt =>
      obtain rfl : query' = query := Option.some.inj hquery
      simp only [Planning.run, he]
      exact if_pos ⟨hkind, by simp [hpolicy]⟩

/-- What discovery promises about an exchange. -/
structure FailsPublicly (u : UnicodeData) (loads : Text → Except JsonFailure Json)
    (exchange : Exchange) : Prop where
  /-- The result is strictly increasing and positive, or a `DaftOlapError`. -/
  result : match discoverTablets u loads exchange with
    | .ok tabletIds => tabletIds.Pairwise (· < ·) ∧ ∀ id ∈ tabletIds, 0 < id
    | .error e => e.isDaftOlapError = true
  unauthorized : exchange.status? = some 401 →
    ∃ message, discoverTablets u loads exchange = .error (authenticationError message)
  rejected : ∀ text entries, exchange.text? = some text → loads text = .ok (.object entries) →
    getEqualsInt entries (str "code") 401 = true →
    ∃ message, discoverTablets u loads exchange = .error (authenticationError message)
  forbidden : exchange.status? = some 403 →
    ∃ message, discoverTablets u loads exchange = .error (permissionError message)
  /-- Every other failure makes one ordinary task under the policy `single`. -/
  fallback : ∀ (source : DataSource) columns predicate limit e,
    source.discoveryPolicy = .single →
    (source.tabletPlan columns predicate limit).question? ≠ none →
    discoverTablets u loads exchange = .error e →
    e.kind? ≠ some .authentication → e.kind? ≠ some .databasePermission →
    e.kind? ≠ some .databaseObjectNotFound →
    (source.tabletPlan columns predicate limit).run (fun _ => discoverTablets u loads exchange) =
      .ok { groups := [none] }

theorem eq_httpError_of_status? {failure : HttpFailure} {code : Int}
    (h : Exchange.status? (.error failure) = some code) : failure = .httpError code := by
  cases failure with
  | httpError code' => exact congrArg HttpFailure.httpError (Option.some.inj h)
  | timeoutError => cases h
  | urlError reason => cases h
  | osError => cases h
  | httpException => cases h

/-- A returned status other than 200 is a discovery error. -/
theorem not_error_of_status {u : UnicodeData} {loads : Text → Except JsonFailure Json}
    {response : HttpResponse} (hstatus : response.status ≠ 200) {kind : ErrorKind}
    (hkind : kind ≠ .discovery) (message : Message) :
    discoverTablets u loads (.ok response) ≠ .error (.daftOlap kind message) := by
  intro h
  obtain ⟨message', hresult⟩ := discoverTablets_of_status u loads hstatus
  obtain ⟨rfl, -⟩ := PyException.daftOlap.inj (Except.error.inj (h.symm.trans hresult))
  exact hkind rfl

theorem FailsPublicly.foreseen {u : UnicodeData} {loads : Text → Except JsonFailure Json}
    {exchange : Exchange} (h : FailsPublicly u loads exchange) : exchange.Foreseen loads := by
  have hraises : ∀ e, discoverTablets u loads exchange = .error e → e.isDaftOlapError = true := by
    intro e he
    have hresult := h.result
    rwa [he] at hresult
  refine ⟨fun hfailure => ?_, fun text failure htext hloads => ?_, ?_⟩
  · exact absurd (hraises _ (discoverTablets_of_failure u loads hfailure)) (by decide)
  · have hresult := discoverTablets_of_text u loads htext
    rw [parseText, hloads] at hresult
    cases failure with
    | jsonDecodeError => rfl
    | valueError => exact absurd (hraises _ hresult) (by decide)
    | recursionError => exact absurd (hraises _ hresult) (by decide)
  · rintro response rfl
    constructor
    · intro h401
      obtain ⟨message, hresult⟩ := h.unauthorized (congrArg some h401)
      exact not_error_of_status (by omega) (by decide) message hresult
    · intro h403
      obtain ⟨message, hresult⟩ := h.forbidden (congrArg some h403)
      exact not_error_of_status (by omega) (by decide) message hresult

/-- Discovery fails inside the public hierarchy exactly on the foreseen exchanges. -/
theorem failsPublicly_iff (u : UnicodeData) (loads : Text → Except JsonFailure Json)
    (exchange : Exchange) : FailsPublicly u loads exchange ↔ exchange.Foreseen loads := by
  refine ⟨FailsPublicly.foreseen, fun h => ?_⟩
  have hplanned := planned_discoverTablets (u := u) h
  refine ⟨?_, fun hstatus => ?_, fun text entries htext hloads hcode => ?_, fun hstatus => ?_, ?_⟩
  · cases hresult : discoverTablets u loads exchange with
    | ok tabletIds => rwa [hresult] at hplanned
    | error e =>
      rw [hresult] at hplanned
      obtain ⟨kind, hkind, -⟩ := hplanned
      exact PyException.isDaftOlapError_of_kind? hkind
  · cases exchange with
    | ok response => exact absurd (Option.some.inj hstatus) (h.status response rfl).1
    | error failure =>
      obtain rfl := eq_httpError_of_status? hstatus
      exact ⟨_, rfl⟩
  · refine ⟨"Doris rejected query-plan credentials", ?_⟩
    rw [discoverTablets_of_text u loads htext, parseText, hloads]
    exact if_pos hcode
  · cases exchange with
    | ok response => exact absurd (Option.some.inj hstatus) (h.status response rfl).2
    | error failure =>
      obtain rfl := eq_httpError_of_status? hstatus
      exact ⟨_, rfl⟩
  · intro source columns predicate limit e hpolicy hasked he hauthentication hpermission hmissing
    obtain ⟨query, hquery⟩ := Option.ne_none_iff_exists'.mp hasked
    refine tabletPlan_of_discoveryError hquery hpolicy he ?_
    rw [he] at hplanned
    obtain ⟨kind, hkind, rfl | rfl | rfl | rfl⟩ := hplanned
    · exact hkind
    · exact absurd hkind hauthentication
    · exact absurd hkind hpermission
    · exact absurd hkind hmissing

/-- A status line that is none reaches the caller as `http.client.BadStatusLine`, which is
no `DaftOlapError`. -/
theorem not_failsPublicly_badStatusLine :
    discoverTablets .ascii (fun _ => .error .jsonDecodeError) (.error .httpException) =
        .error (.http .httpException) ∧
      ¬ FailsPublicly .ascii (fun _ => .error .jsonDecodeError) (.error .httpException) :=
  ⟨rfl, fun h => Bool.false_ne_true h.result⟩

end Doris
end DaftOlap
