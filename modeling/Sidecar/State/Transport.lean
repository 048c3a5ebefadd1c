import Sidecar.Bytes
import Sidecar.Error

/-! # What is asked of a state store -/

namespace Sidecar

/-- In ascending order of names. -/
abbrev Metadata := List (String × String)

namespace State

structure GetRequest where
  store : String
  key : String
  consistency : Option Consistency
deriving DecidableEq, Repr

structure GetResponse where
  data : Option Bytes
  etag : Option String
deriving DecidableEq, Repr

def GetResponse.absent : GetResponse := ⟨none, none⟩

/-- Without a value the item is removed; with an etag it is written only if that is current. -/
structure Item where
  key : String
  value : Option Bytes
  etag : Option String
  metadata : Option Metadata
  options : Option StateOptions
deriving DecidableEq, Repr

structure SaveRequest where
  store : String
  items : List Item
deriving DecidableEq, Repr

structure DeleteRequest where
  store : String
  key : String
  etag : Option String
  options : Option StateOptions
deriving DecidableEq, Repr

/-- A way to reach state stores; `σ` is what a call may change. -/
structure Transport (σ : Type) where
  get : GetRequest → Action σ GetResponse
  save : SaveRequest → Action σ Unit
  delete : DeleteRequest → Action σ Unit

end State

end Sidecar
