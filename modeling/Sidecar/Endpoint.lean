import Sidecar.Error
import Sidecar.Url.Parser

/-! # Where a sidecar listens -/

namespace Sidecar

structure Endpoint where
  host : String := "127.0.0.1"
  port : UInt16 := 3500
  /-- How long a request may take. -/
  timeout : Option Duration := none
deriving DecidableEq, Repr, Inhabited

namespace Endpoint

/-- The host is taken as it is, so that it may bring other parts of a URL with it. -/
def address (e : Endpoint) : String :=
  "http://" ++ e.host ++ ":" ++ toString e.port.toNat ++ "/"

def baseUrl (e : Endpoint) : Except Error Url :=
  (Url.parse e.address).mapError fun fault => .invalidEndpoint (e.address ++ ": " ++ fault.text)

end Endpoint

end Sidecar
