import Sidecar.Http.Wire
import Sidecar.Json.Reader
import Sidecar.State.Transport

/-!
# State stores over HTTP

Items travel as JSON documents: a save is refused as a whole, and nothing is sent, if one of them is
not.
-/

namespace Sidecar.Http

variable [Redirection]

def apiVersion : String := "v1.0"

/-- The URL of a resource below the base. -/
def resource (base : Url) (segments : List String) (query : List (String × String)) : Url :=
  (base.pushSegments (apiVersion :: segments)).appendQuery query

/-- The response to a request; one that is not a success is a fault, with the body as its
message. -/
def ask (request : Request) : Action Wire Delivery := do
  match ← (send request : StateM Wire _) with
  | .error fault => throw (.transport fault)
  | .ok d =>
    if d.response.isSuccess then return d
    else
      let message := Text.Utf8.decodeLossy (d.response.content?.getD [])
      throw (.remoteFault d.response.status message)

/-- The whole body of a response. -/
def Delivery.content (d : Delivery) : Except Error Bytes :=
  match d.response.content? with
  | some body => .ok body
  | none => .error (.transport (.truncatedBody d.url.text))

/-- The etag of a response; one that is no text is passed over. -/
def Response.etag? (r : Response) : Option String := do
  let value ← r.header? "etag"
  if value.all isTextByte then Text.Utf8.decodeText? value else none

def noContent : Nat := 204

def getMessage (base : Url) (request : State.GetRequest) : Request :=
  let query := request.consistency.toList.map fun c => ("consistency", Vocabulary.word c)
  { method := .get, url := resource base ["state", request.store, request.key] query }

def getState (base : Url) (request : State.GetRequest) : Action Wire State.GetResponse := do
  let d ← ask (getMessage base request)
  if d.response.status = noContent then return .absent
  else
    let body ← d.content
    return ⟨if body.isEmpty then none else some body, d.response.etag?⟩

/-- An item as a member of a save. -/
def itemJson (item : State.Item) : Except Error Json := do
  let value ← match item.value with
    | none => pure []
    | some bytes => do
      let value ← (Json.ofBytes bytes).mapError Error.serialization
      pure [("value", value)]
  return .object <|
    [("key", .string item.key)] ++ value ++
      item.etag.toList.map (fun etag => ("etag", .string etag)) ++
      item.metadata.toList.map (fun metadata => ("metadata", Json.ofStrings metadata)) ++
      item.options.toList.map fun options => ("options", options.json)

def saveBody (items : List State.Item) : Except Error Bytes := do
  let items ← items.mapM itemJson
  return Text.Utf8.encode (Json.array items).text

def saveState (base : Url) (request : State.SaveRequest) : Action Wire Unit := do
  let url := resource base ["state", request.store] []
  let body ← saveBody request.items
  let _ ← ask { method := .post, url, body := some body }

def deleteMessage (base : Url) (request : State.DeleteRequest) : Request :=
  let query := match request.options with
    | none => []
    | some options => options.query
  { method := .delete
    url := resource base ["state", request.store, request.key] query
    ifMatch := request.etag.map Text.Utf8.encode }

def deleteState (base : Url) (request : State.DeleteRequest) : Action Wire Unit := do
  let _ ← ask (deleteMessage base request)

def transport (base : Url) : State.Transport Wire :=
  ⟨getState base, saveState base, deleteState base⟩

end Sidecar.Http
