import Sidecar.Http.State
import Sidecar.Json.Shape
import Sidecar.Secret.Store

/-! # Secret stores over HTTP -/

namespace Sidecar.Http

variable [Redirection]

def metadataQuery (metadata : Metadata) : List (String × String) :=
  metadata.map fun (name, value) => ("metadata." ++ name, value)

def secretMessage (base : Url) (request : Secret.Request) : Request :=
  { method := .get
    url := resource base ["secrets", request.store, request.name]
      (metadataQuery request.metadata) }

/-- The members of the response in the order in which they first occur. -/
def getSecret (base : Url) (request : Secret.Request) : Action Wire Secret.Values := do
  let d ← ask (secretMessage base request)
  let body ← d.content
  let read := Json.readText (Json.membersShape Json.stringShape) body
  return Json.inOrder (← read.mapError Error.serialization)

/-- Every response is waited for. -/
def secrets (base : Url) : Secret.Api Wire :=
  ⟨fun request => do return .delayed (← (getSecret base request).run)⟩

end Sidecar.Http
