/-
The exception hierarchy.

`ErrorKind` is the public hierarchy of `_common/errors.py`, whose members all
derive from `DaftOlapError`.  `PyException` adds the builtin and standard-library
classes the modelled code can meet, split exactly as far as its handlers tell
them apart.
-/
import DaftOlap.Python.Text

namespace DaftOlap

open Python

/-- One part of an error message: literal text, or a value the source
interpolates with or without `!r`. -/
inductive MessagePart
  | text (s : String)
  | plain (value : Text)
  | repr (value : Text)
deriving DecidableEq, Repr

abbrev Message := List MessagePart

instance : Coe String Message := ⟨fun s => [.text s]⟩

/-- The subclasses of `DaftOlapError`. -/
inductive ErrorKind
  | configuration
  | dependency
  | compatibility
  | schema
  | discovery
  | authentication
  | databasePermission
  | databaseObjectNotFound
  | transport
  | unsupportedPredicate
deriving DecidableEq, Repr

/-- What a `urllib.error.URLError` carries as its reason. -/
inductive UrlReason
  | timeout
  | other
deriving DecidableEq, Repr

/-- The exceptions an HTTP exchange raises, in the order its handlers try them. -/
inductive HttpFailure
  /-- `urllib.error.HTTPError`, a `URLError`. -/
  | httpError (code : Int)
  /-- `TimeoutError`, an `OSError`. -/
  | timeoutError
  /-- `urllib.error.URLError`, an `OSError`. -/
  | urlError (reason : UrlReason)
  /-- Any other `OSError`, `http.client.RemoteDisconnected` included. -/
  | osError
  /-- An `http.client.HTTPException` that is no `OSError`, such as
  `BadStatusLine` or `IncompleteRead`. -/
  | httpException
deriving DecidableEq, Repr

/-- The exceptions `json.loads` raises on a text. -/
inductive JsonFailure
  | jsonDecodeError
  /-- A `ValueError` that is no `JSONDecodeError`: an integer is too long. -/
  | valueError
  | recursionError
deriving DecidableEq, Repr

/-- The exceptions the modelled functions raise or handle. -/
inductive PyException
  | daftOlap (kind : ErrorKind) (message : Message)
  | valueError
  | keyError
  | http (failure : HttpFailure)
  | json (failure : JsonFailure)
deriving DecidableEq, Repr

namespace PyException

/-- `isinstance(exc, DaftOlapError)`. -/
def isDaftOlapError : PyException → Bool
  | daftOlap _ _ => true
  | _ => false

/-- The public class of an exception, when it has one. -/
def kind? : PyException → Option ErrorKind
  | daftOlap kind _ => some kind
  | _ => none

theorem isDaftOlapError_of_kind? {e : PyException} {kind : ErrorKind} (h : e.kind? = some kind) :
    e.isDaftOlapError = true := by
  cases e with
  | daftOlap kind message => rfl
  | valueError => cases h
  | keyError => cases h
  | http failure => cases h
  | json failure => cases h

end PyException

def configurationError (message : Message) : PyException := .daftOlap .configuration message
def compatibilityError (message : Message) : PyException := .daftOlap .compatibility message
def schemaError (message : Message) : PyException := .daftOlap .schema message
def discoveryError (message : Message) : PyException := .daftOlap .discovery message
def unsupportedPredicateError (message : Message) : PyException :=
  .daftOlap .unsupportedPredicate message

end DaftOlap
