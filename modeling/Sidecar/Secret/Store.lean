import Sidecar.State.Transport

/-! # What is asked of a secret store -/

namespace Sidecar.Secret

/-- A secret to fetch, with hints for the store. -/
structure Descriptor where
  name : String
  metadata : Metadata := []
deriving DecidableEq, Repr

structure Request where
  store : String
  name : String
  metadata : Metadata
deriving DecidableEq, Repr

/-- The values of a secret under different keys, in the order in which the store gives them. -/
abbrev Values := List (String × String)

inductive Answer where
  | immediate (result : Except Error Values)
  /-- It has to be waited for. -/
  | delayed (result : Except Error Values)
  /-- It is waited for in vain. -/
  | missing

/-- A way to reach secret stores; `σ` is what a call may change. -/
structure Api (σ : Type) where
  fetch : Request → StateM σ Answer

end Sidecar.Secret
