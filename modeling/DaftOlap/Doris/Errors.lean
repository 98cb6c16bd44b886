/-
Errors of Doris drivers (`doris/errors.py`).

A driver's exception is classified by its vendor code, its ADBC status and its SQLSTATE.
Of its text only the markers under the generic code 1105 are looked at, and no text of
it is kept: the message depends on the operation alone.
-/
import DaftOlap.Common.Streams
import DaftOlap.Python.Digits

namespace DaftOlap
namespace Doris

open Python

def authenticationVendorCodes : List Int := [1045, 1698, 3955]

def permissionVendorCodes : List Int :=
  [1044, 1142, 1143, 1221, 1222, 1223, 1224, 1225, 1226, 1227, 1370, 5087]

def notFoundVendorCodes : List Int := [1049, 1051, 1109, 1146]

def genericVendorError : Int := 1105

def notFoundMessageMarkers : List Text :=
  ["unknown table", "unknown database", "does not exist"].map str

/-- `_vendor_code`. -/
def vendorCode (error : DriverError) : Option Int :=
  match integerAttribute error.vendorCode with
  | some code => some code
  | none => error.args.head?.bind integerAttribute

/-- Classify Doris' generic 1105 code without retaining its server-provided text. -/
def genericErrorIsNotFound (u : CaseData) (error : DriverError) : Bool :=
  match error.args with
  | _ :: .str detail :: _ =>
    vendorCode error = some genericVendorError && notFoundMessageMarkers.any fun marker =>
      Text.contains marker (Text.casefold u.toUnicodeData detail)
  | _ => false

/-- `_sqlstate`. -/
def sqlstate (u : CaseData) (error : DriverError) : Option Text :=
  match error.sqlstate with
  | .bytes b =>
    if b.all (· < 128) then some (Text.upper u (b.map fun x => .scalar (Char.ofNat x.toNat)))
    else none
  | .str t => some (Text.upper u t)
  | _ => none

/-- Translate structured status and bounded Doris 1105 markers without retaining text. -/
def translateDorisError (u : CaseData) (error : DriverError) (operation : String) :
    Option Raised :=
  let code := vendorCode error
  let status := integerAttribute error.statusCode
  if (∃ c ∈ code, c ∈ authenticationVendorCodes) ∨ status = some 13 ∨
      sqlstate u error = some (str "28000") then
    some (.daftOlap .authentication ("Doris authentication failed during " ++ operation : String))
  else if (∃ c ∈ code, c ∈ permissionVendorCodes) ∨ status = some 14 then
    some (.daftOlap .databasePermission ("Doris denied access during " ++ operation : String))
  else if (∃ c ∈ code, c ∈ notFoundVendorCodes) ∨ status = some 3 ∨
      genericErrorIsNotFound u error = true then
    some (.daftOlap .databaseObjectNotFound
      ("Doris database object was not found during " ++ operation : String))
  else none

/-- The handler of a Doris stream for exceptions that are neither control flow nor
connector errors. -/
def convertDorisError (u : CaseData) (protocol : String) (error : DriverError) : Raised :=
  (translateDorisError u error (protocol ++ " query execution")).getD
    (.daftOlap .transport ("Doris " ++ protocol ++ " query failed" : String))

/-- A converted error is one of four connector errors, whatever the driver's exception
says. -/
theorem convertDorisError_mem (u : CaseData) (protocol : String) (error : DriverError) :
    convertDorisError u protocol error ∈ [
      Raised.daftOlap .authentication
        ("Doris authentication failed during " ++ (protocol ++ " query execution") : String),
      .daftOlap .databasePermission
        ("Doris denied access during " ++ (protocol ++ " query execution") : String),
      .daftOlap .databaseObjectNotFound
        ("Doris database object was not found during " ++ (protocol ++ " query execution") : String),
      .daftOlap .transport ("Doris " ++ protocol ++ " query failed" : String)] := by
  unfold convertDorisError translateDorisError
  simp only
  split
  · exact List.mem_cons_self
  · split
    · exact List.mem_cons_of_mem _ List.mem_cons_self
    · split
      · exact List.mem_cons_of_mem _ (List.mem_cons_of_mem _ List.mem_cons_self)
      · exact List.mem_cons_of_mem _ (List.mem_cons_of_mem _
          (List.mem_cons_of_mem _ List.mem_cons_self))

theorem convertDorisError_eq (u : CaseData) (protocol : String) (error : DriverError) :
    ∃ kind message, convertDorisError u protocol error = .daftOlap kind message := by
  have hmem := convertDorisError_mem u protocol error
  simp only [List.mem_cons, List.not_mem_nil, or_false] at hmem
  rcases hmem with h | h | h | h
  all_goals exact ⟨_, _, h⟩

end Doris
end DaftOlap
