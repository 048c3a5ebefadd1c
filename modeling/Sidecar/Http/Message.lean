import Sidecar.Text.Base64
import Sidecar.Url.Basic

/-! # Requests and responses -/

namespace Sidecar.Http

inductive Method where
  | get
  | post
  | delete
deriving DecidableEq, Repr

def Method.text : Method → String
  | .get => "GET"
  | .post => "POST"
  | .delete => "DELETE"

structure Request where
  method : Method
  url : Url
  ifMatch : Option Bytes := none
  authorization : Option Bytes := none
  /-- A JSON document. -/
  body : Option Bytes := none
deriving DecidableEq, Repr

namespace Request

def contentType (r : Request) : Option String := r.body.map fun _ => "application/json"

/-- The URL as it is sent. -/
def target (r : Request) : String := r.url.withoutUserInfo.withoutFragment.text

end Request

structure Response where
  /-- Three digits. -/
  status : Nat := 200
  headers : List (String × Bytes) := []
  body : Bytes := []
  /-- How many announced bytes of the body never come. -/
  missing : Nat := 0
deriving DecidableEq, Repr

namespace Response

/-- Not one that announces another response to the same request.  Where protocols are switched there
is none behind it. -/
def isFinal (r : Response) : Bool := r.status == 101 || 200 ≤ r.status && r.status ≤ 999

def isSuccess (r : Response) : Bool := 200 ≤ r.status && r.status < 300

/-- Protocols switched, no content, not modified: such responses have no body. -/
def isBodiless (r : Response) : Bool := r.status == 101 || r.status == 204 || r.status == 304

/-- The bytes of the body, or nothing if it is cut short. -/
def content? (r : Response) : Option Bytes :=
  if r.isBodiless then some []
  else if r.missing = 0 then some r.body
  else none

def isHeaderBlank (b : UInt8) : Bool := b == 32 || b == 9

def trimBlanks (value : Bytes) : Bytes :=
  ((value.dropWhile isHeaderBlank).reverse.dropWhile isHeaderBlank).reverse

def sameName (a b : String) : Bool := a.toList.map Char.toLower == b.toList.map Char.toLower

/-- The first of the headers of a name, without the blanks around its value. -/
def header? (r : Response) (name : String) : Option Bytes :=
  (r.headers.find? fun header => sameName header.1 name).map fun header => trimBlanks header.2

end Response

/-- Bytes that may stand in a header. -/
def isHeaderByte (b : UInt8) : Bool := b == 9 || (32 ≤ b && b != 127)

/-- Bytes of a header that can be read as text. -/
def isTextByte (b : UInt8) : Bool := b == 9 || (32 ≤ b && b < 127)

end Sidecar.Http
