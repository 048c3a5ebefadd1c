import Sidecar.Http.Fault
import Sidecar.Http.Message
import Sidecar.Url.Parser

/-!
# Exchanging messages

A wire holds what the other side answers and what it was sent.  Redirects are followed, and every
request that a redirect calls for is a message of its own.  Where a redirect leads is said by the
library that follows it.
-/

namespace Sidecar.Http

inductive Reply where
  | response (response : Response)
  /-- The connection is closed before a response. -/
  | closed
  /-- No response comes before the time limit is over.  Without a limit a response is waited for, and
  no reply is this one. -/
  | silent
  /-- There is no connection, and nothing is sent. -/
  | unreachable
deriving DecidableEq, Repr

/-- Whether the request is over with the reply. -/
def Reply.isFinal : Reply → Bool
  | .response r => r.isFinal
  | .closed | .silent | .unreachable => true

structure Wire where
  replies : List Reply
  /-- The answer to requests for which no reply is left. -/
  otherwise : Reply
  /-- Newest first. -/
  sent : List Request := []

namespace Wire

/-- The reply that the next request gets, and those behind it.  Interim responses are passed over; if
nothing follows them, the connection is closed. -/
def next (w : Wire) : Reply × List Reply :=
  match w.replies.dropWhile (!·.isFinal) with
  | [] => (if w.otherwise.isFinal then w.otherwise else .closed, [])
  | reply :: replies => (reply, replies)

/-- Hands a request over and takes the next reply. -/
def exchange (request : Request) : StateM Wire Reply := fun w =>
  let (reply, replies) := w.next
  let sent := if reply = .unreachable then w.sent else request :: w.sent
  (reply, { w with replies, sent })

end Wire

/-! ## Targets -/

def isTargetChar (c : Char) : Bool :=
  c != '"' && c != '\x7b' && c != '\x7d' && c != '`'

def greatestTarget : Nat := 65534

/-- Whether a request line can carry the URL. -/
def isTarget (url : Url) : Bool :=
  url.host.toList.all isTargetChar && url.text.utf8ByteSize ≤ greatestTarget

def isForeignTarget (text : String) : Bool :=
  text.toList.all (fun c => '!' ≤ c && c ≤ '~' && isTargetChar c) &&
    text.utf8ByteSize ≤ greatestTarget

/-- Whether it can be the target of a request as far as its characters and its length go. -/
def isReferenceTarget : Url.Reference → Bool
  | .url url | .secure url => isTarget url
  | .foreign text => isForeignTarget text

/-- How the library that follows redirects reads the location of a response.  What is sent, and what
comes of it, is stated for every such library. -/
class Redirection where
  /-- What the location refers to, read relative to the URL that the response came from; `none` if
  that can be no target of a request. -/
  target? : Url → List Char → Option Url.Reference

/-- References are read as they are in documents. -/
instance : Redirection where
  target? base location := (base.refer? location).filter isReferenceTarget

/-! ## Redirects -/

/-- What is sent to `url` by a redirect; credentials stay with their host and port. -/
def Request.movedTo (r : Request) (url : Url) : Request :=
  let authorization :=
    if url.host = r.url.host ∧ url.port = r.url.port then r.authorization else none
  { r with url, authorization }

def Request.asGet (r : Request) : Request := { r with method := .get, body := none }

/-- What a response calls for. -/
inductive Redirect where
  | request (next : Request)
  /-- A request that would have to be encrypted. -/
  | secure
  /-- A request of another scheme. -/
  | foreign (url : String)
deriving DecidableEq, Repr

/-- Repeats a request at another place. -/
def Redirect.to : Url.Reference → Request → Redirect
  | .url url, repeated => .request (repeated.movedTo url)
  | .secure _, _ => .secure
  | .foreign text, _ => .foreign text

variable [Redirection]

/-- What a response calls for, if anything: the request is repeated, or turned into a GET without a
body.  A response whose location can be no target stands as it is. -/
def Request.redirected? (r : Request) (response : Response) : Option Redirect := do
  let repeated ←
    if response.status = 303 then some r.asGet
    else if response.status = 301 ∨ response.status = 302 then
      some (if r.method = .post then r.asGet else r)
    else if response.status = 307 ∨ response.status = 308 then some r
    else none
  let location ← (response.header? "location").bind Text.Utf8.decode?
  let target ← Redirection.target? r.url location
  return .to target repeated

def redirectLimit : Nat := 10

/-- A response and the URL that it came from. -/
structure Delivery where
  response : Response
  url : Url
deriving DecidableEq, Repr

/-- Sends a request and at most `limit` that redirects call for; `origin` is the URL of the first. -/
def follow (origin : Url) (limit : Nat) (request : Request) :
    StateM Wire (Except Fault Delivery) := do
  match ← Wire.exchange request with
  | .closed => return .error (.disconnected origin.text)
  | .silent => return .error (.timedOut origin.text)
  | .unreachable => return .error (.unreachable origin.text)
  | .response response =>
    match request.redirected? response with
    | none => return .ok ⟨response, request.url.withoutFragment⟩
    | some redirect =>
      match limit with
      | 0 => return .error (.tooManyRedirects request.url.withoutFragment.text)
      | limit + 1 =>
        match redirect with
        | .secure => return .error (.unencrypted origin.text)
        | .foreign url => return .error (.foreignScheme url)
        | .request next => follow origin limit next

/-! ## Sending -/

def credentials (username : String) (password : Option String) : Bytes :=
  let plain := username ++ ":" ++ password.getD ""
  Text.Utf8.encode ("Basic " ++ String.ofList (Text.Base64.encode (Text.Utf8.encode plain)))

/-- Text without its percent-encoding. -/
def unescaped? (s : String) : Option String :=
  Text.Utf8.decodeText? (Url.percentDecode (Text.Utf8.encode s))

/-- User information of the URL is sent in a header; what cannot be decoded stays where it is. -/
def Request.withCredentials (r : Request) : Request :=
  match unescaped? r.url.username, r.url.password.bind unescaped? with
  | none, _ => r
  | some "", none => r
  | some username, password =>
    { r with
      url := r.url.withoutUserInfo
      authorization := some (credentials username password) }

def send (request : Request) : StateM Wire (Except Fault Delivery) :=
  let request := request.withCredentials
  if !(request.ifMatch.getD []).all isHeaderByte then return .error .malformedHeader
  else if !isTarget request.url then return .error (.malformedTarget request.url.text)
  else follow request.url redirectLimit request

end Sidecar.Http
