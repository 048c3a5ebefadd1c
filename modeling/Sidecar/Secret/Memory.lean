import Sidecar.Secret.Store

/-! # A secret store in memory -/

namespace Sidecar.Secret

structure Memory where
  answers : List (String × Answer)
  /-- Newest first. -/
  requests : List Request := []

namespace Memory

def unknownSecret (name : String) : Error :=
  .remoteFault 500 ("failed getting secret with key " ++ name)

def fetch (request : Request) : StateM Memory Answer := fun m =>
  ((m.answers.lookup request.name).getD (.immediate (.error (unknownSecret request.name))),
    { m with requests := request :: m.requests })

def api : Api Memory := ⟨fetch⟩

end Memory

end Sidecar.Secret
