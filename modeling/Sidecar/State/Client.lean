import Sidecar.Json.Shape
import Sidecar.State.Transport

/-!
# Values in state stores

Values are stored as JSON.  Store and key are checked before anything is asked of the transport, and
every operation is one call.
-/

namespace Sidecar.State

variable {σ α : Type}

def requireAddress (store key : String) : Except Error Unit := do
  requireName "store" store
  requireName "key" key

/-- A cleared item may come back as `null`. -/
def decodeValue (reader : Json.Reader α) (data : Option Bytes) : Except Error (Option α) :=
  match data with
  | none | some [] => .ok none
  | some bytes => (Json.readText (Json.nullable reader) bytes).mapError .serialization

def encodeValue (value : Json) : Bytes := Text.Utf8.encode value.text

/-- The data of a value, if there is one and it can be encoded. -/
def encodedData : Option (Except Error Bytes) → Except Error (Option Bytes)
  | none => .ok none
  | some encoding => encoding.map some

/-- An etag that is refused is an answer, not a failure. -/
def soften (action : Action σ Unit) : Action σ Bool := fun s =>
  match action s with
  | (.ok (), s) => (.ok true, s)
  | (.error e, s) => (if e.isStaleEtag then .ok false else .error e, s)

namespace Transport

variable (t : Transport σ)

/-- The value and its current etag. -/
def getWithEtag (reader : Json.Reader α) (store key : String) (consistency : Option Consistency) :
    Action σ (Option α × Option String) := do
  requireAddress store key
  let response ← t.get ⟨store, key, consistency⟩
  let value ← decodeValue reader response.data
  return (value, response.etag)

def getValue (reader : Json.Reader α) (store key : String) (consistency : Option Consistency) :
    Action σ (Option α) := do
  let (value, _) ← t.getWithEtag reader store key consistency
  return value

/-- A save of one item with a value of any type, given what comes of encoding that. -/
def writeEncoded (store key : String) (value : Option (Except Error Bytes)) (etag : Option String)
    (options : Option StateOptions) (metadata : Option Metadata) : Action σ Unit := do
  requireAddress store key
  let data ← encodedData value
  t.save ⟨store, [⟨key, data, etag, metadata, options⟩]⟩

/-- A save of one item.  JSON can always be encoded. -/
def write (store key : String) (value : Option Json) (etag : Option String)
    (options : Option StateOptions) (metadata : Option Metadata) : Action σ Unit :=
  t.writeEncoded store key (value.map fun v => .ok (encodeValue v)) etag options metadata

def remove (store key : String) (etag : Option String) (options : Option StateOptions) :
    Action σ Unit := do
  requireAddress store key
  t.delete ⟨store, key, etag, options⟩

/-- Writes whatever is stored; no value clears the item. -/
def saveValue (store key : String) (value : Option Json) (options : Option StateOptions)
    (metadata : Option Metadata) : Action σ Unit :=
  t.write store key value none options metadata

def trySaveValue (store key : String) (value : Option Json) (etag : Option String)
    (options : Option StateOptions) (metadata : Option Metadata) : Action σ Bool :=
  soften (t.write store key value etag options metadata)

/-- Saves several encoded items in one request. -/
def saveItems (store : String) (items : List Item) : Action σ Unit := do
  requireName "store" store
  items.forM fun item => requireName "key" item.key
  t.save ⟨store, items⟩

def deleteValue (store key : String) (options : Option StateOptions) : Action σ Unit :=
  t.remove store key none options

def tryDeleteValue (store key : String) (etag : Option String) (options : Option StateOptions) :
    Action σ Bool :=
  soften (t.remove store key etag options)

end Transport

end Sidecar.State
