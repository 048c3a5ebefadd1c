import Sidecar.Secret.Store

/-! # How secrets given by name are fetched and named -/

namespace Sidecar.Secret

structure Manager where
  /-- The configuration key for a key that the store returns. -/
  key : String → String
  /-- What is sent along when the secret of a name is fetched. -/
  metadata : String → Metadata

namespace Manager

/-- Two dashes become a delimiter, the leftmost first. -/
def delimitDashes : List Char → List Char
  | '-' :: '-' :: rest => ':' :: delimitDashes rest
  | c :: rest => c :: delimitDashes rest
  | [] => []

/-- Dashes in names stand for sections, and nothing is sent along. -/
def standard : Manager where
  key s := String.ofList (delimitDashes s.toList)
  metadata _ := []

end Manager

end Sidecar.Secret
