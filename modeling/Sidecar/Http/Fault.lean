/-!
# Why a request got no usable response

A fault names a URL.  What goes wrong with the connection is put down to the URL that was asked for
first, wherever redirects have led by then.
-/

namespace Sidecar.Http

inductive Fault where
  /-- A header value with bytes that no header can carry. -/
  | malformedHeader
  /-- A host with characters that no request line can carry. -/
  | malformedTarget (url : String)
  /-- No connection could be made. -/
  | unreachable (url : String)
  /-- The connection was closed before a response. -/
  | disconnected (url : String)
  | timedOut (url : String)
  /-- The body ended before its announced length. -/
  | truncatedBody (url : String)
  /-- The URL is the one whose response would have led on. -/
  | tooManyRedirects (url : String)
  /-- A redirect leads to a place where messages would have to be encrypted. -/
  | unencrypted (url : String)
  /-- A redirect leads to a URL whose scheme is none of these messages; that URL is named. -/
  | foreignScheme (url : String)
deriving DecidableEq, Repr

namespace Fault

def forUrl (text url : String) : String := text ++ " for url (" ++ url ++ ")"

def text : Fault → String
  | .malformedHeader => "builder error"
  | .malformedTarget url | .foreignScheme url => forUrl "builder error" url
  | .unreachable url | .disconnected url | .timedOut url | .unencrypted url =>
    forUrl "error sending request" url
  | .truncatedBody url => forUrl "error decoding response body" url
  | .tooManyRedirects url => forUrl "error following redirect" url

/-- What lies behind it, outermost first. -/
def causes : Fault → List String
  | .malformedHeader => ["failed to parse header value"]
  | .malformedTarget _ => ["Parsed Url is not a valid Uri"]
  | .unreachable _ =>
    ["client error (Connect)", "tcp connect error", "Network is unreachable (os error 101)"]
  | .disconnected _ =>
    ["client error (SendRequest)", "connection closed before message completed"]
  | .timedOut _ => ["operation timed out"]
  | .truncatedBody _ =>
    ["request or response body error", "error reading a body from connection",
      "end of file before message length reached"]
  | .tooManyRedirects _ => ["too many redirects"]
  | .unencrypted _ => ["client error (Connect)", "invalid URL, scheme is not http"]
  | .foreignScheme _ => ["URL scheme is not allowed"]

end Fault

end Sidecar.Http
