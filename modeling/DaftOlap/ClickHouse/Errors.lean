/-
Errors of the ClickHouse driver (`clickhouse/errors.py`).

A driver's exception is classified by its code and its symbolic name alone, so its text
is in no connector error.
-/
import DaftOlap.Common.Streams
import DaftOlap.Python.Digits

namespace DaftOlap
namespace ClickHouse

open Python

def authenticationCodes : List Int := [192, 193, 194, 516]

def authenticationNames : List Text :=
  ["AUTHENTICATION_FAILED", "REQUIRED_PASSWORD", "UNKNOWN_USER", "WRONG_PASSWORD"].map str

def permissionCodes : List Int := [497]

def permissionNames : List Text := ["ACCESS_DENIED"].map str

def notFoundCodes : List Int := [60]

def notFoundNames : List Text := ["UNKNOWN_TABLE"].map str

/-- `_integer_attribute(error, "code", "error_code")`. -/
def errorCode (error : DriverError) : Option Int :=
  (integerAttribute error.code).or (integerAttribute error.errorCode)

/-- `_symbolic_name`. -/
def symbolicName (u : CaseData) (error : DriverError) : Option Text :=
  match error.name with
  | .str name => some (Text.upper u name)
  | _ => none

/-- Translate only structured ClickHouse codes without retaining driver text. -/
def translateClickHouseError (u : CaseData) (error : DriverError) (operation : String) :
    Option Raised :=
  let code := errorCode error
  let name := symbolicName u error
  if (∃ c ∈ code, c ∈ authenticationCodes) ∨ ∃ n ∈ name, n ∈ authenticationNames then
    some (.daftOlap .authentication
      ("ClickHouse authentication failed during " ++ operation : String))
  else if (∃ c ∈ code, c ∈ permissionCodes) ∨ ∃ n ∈ name, n ∈ permissionNames then
    some (.daftOlap .databasePermission ("ClickHouse denied access during " ++ operation : String))
  else if (∃ c ∈ code, c ∈ notFoundCodes) ∨ ∃ n ∈ name, n ∈ notFoundNames then
    some (.daftOlap .databaseObjectNotFound
      ("ClickHouse database object was not found during " ++ operation : String))
  else none

/-- The handler of the stream for exceptions that are neither control flow nor connector
errors. -/
def convertClickHouseError (u : CaseData) (error : DriverError) : Raised :=
  (translateClickHouseError u error "query execution").getD
    (.daftOlap .transport "ClickHouse async Arrow query failed")

/-- All that the handler can raise. -/
def convertedErrors : List Raised :=
  [.daftOlap .authentication "ClickHouse authentication failed during query execution",
    .daftOlap .databasePermission "ClickHouse denied access during query execution",
    .daftOlap .databaseObjectNotFound
      "ClickHouse database object was not found during query execution",
    .daftOlap .transport "ClickHouse async Arrow query failed"]

theorem convertClickHouseError_mem (u : CaseData) (error : DriverError) :
    convertClickHouseError u error ∈ convertedErrors := by
  unfold convertClickHouseError translateClickHouseError
  simp only
  split
  · exact List.mem_cons_self
  · split
    · exact List.mem_cons_of_mem _ List.mem_cons_self
    · split
      · exact List.mem_cons_of_mem _ (List.mem_cons_of_mem _ List.mem_cons_self)
      · exact List.mem_cons_of_mem _ (List.mem_cons_of_mem _
          (List.mem_cons_of_mem _ List.mem_cons_self))

end ClickHouse
end DaftOlap
