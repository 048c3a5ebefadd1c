import Sidecar.Error

/-! # Failures of loading a configuration -/

namespace Sidecar.Secret

inductive LoadError where
  /-- A setting that is absent, empty or contradicts another. -/
  | invalidArgument (detail : String)
  /-- Two values resolve to the same key. -/
  | duplicateKey (key : String)
  | alreadyLoaded
  /-- A failure of the store, shown as it is. -/
  | store (error : Error)
deriving DecidableEq, Repr

namespace LoadError

def text : LoadError → String
  | .invalidArgument detail => "invalid argument: " ++ detail
  | .duplicateKey key => "a duplicate key '" ++ key ++ "' was found"
  | .alreadyLoaded => "the secret store configuration was already loaded"
  | .store error => error.text

/-- What lies behind it, outermost first. -/
def causes : LoadError → List String
  | .store error => error.causes
  | _ => []

def emptyStore : LoadError := .invalidArgument "store must not be empty"

def noClient : LoadError := .invalidArgument "a secret store client is required"

def mixedSelection : LoadError :=
  .invalidArgument "secrets can be given as descriptors or as names, not both"

def idleManager : LoadError :=
  .invalidArgument "a secret store manager only applies to secrets given by name"

end LoadError

end Sidecar.Secret
