import Sidecar.Http.Fault
import Sidecar.Json.Fault
import Sidecar.Options

/-! # Failures of sidecar operations -/

namespace Sidecar

inductive Error where
  /-- A name that must not be empty. -/
  | emptyArgument (name : String)
  | remoteFault (status : Nat) (message : String)
  | serialization (fault : Json.Fault)
  | transport (fault : Http.Fault)
  | invalidEndpoint (detail : String)
  | unknownToken (word : UnknownWord)
deriving DecidableEq, Repr

namespace Error

def text : Error → String
  | .emptyArgument name => "invalid argument: " ++ name ++ " must not be empty"
  | .remoteFault status message =>
    "remote call failed with status " ++ toString status ++ ": " ++ message
  | .serialization fault => "serialization error: " ++ fault.text
  | .transport fault => "transport error: " ++ fault.text
  | .invalidEndpoint detail => "invalid sidecar endpoint: " ++ detail
  | .unknownToken word => "unknown " ++ word.kind ++ " token: " ++ word.word

/-- What lies behind it, outermost first. -/
def causes : Error → List String
  | .serialization fault => [fault.text]
  | .transport fault => fault.text :: fault.causes
  | _ => []

/-- Conflict and precondition failed: the statuses by which an etag is refused. -/
def isStaleEtag : Error → Bool
  | .remoteFault status _ => status == 409 || status == 412
  | _ => false

end Error

/-- An operation on a sidecar whose state is of type `σ`. -/
abbrev Action (σ : Type) := ExceptT Error (StateM σ)

def requireName (name value : String) : Except Error Unit :=
  if value.isEmpty then .error (.emptyArgument name) else .ok ()

end Sidecar
