import Sidecar.State.Client

/-! # Values together with where and how they were read -/

namespace Sidecar.State

/-- Saving an entry does not refresh its etag. -/
structure Entry (α : Type) where
  store : String
  key : String
  value : Option α
  etag : Option String

def Entry.same (entry other : Entry Json) : Bool :=
  entry.store == other.store && entry.key == other.key && entry.etag == other.etag &&
    match entry.value, other.value with
    | some v, some w => v.same w
    | none, none => true
    | _, _ => false

namespace Transport

variable {σ α : Type} (t : Transport σ)

def getEntry (reader : Json.Reader α) (store key : String) (consistency : Option Consistency) :
    Action σ (Entry α) := do
  let (value, etag) ← t.getWithEtag reader store key consistency
  return ⟨store, key, value, etag⟩

/-- Writes the value back with the etag; a refused etag is a failure. -/
def saveEntry (entry : Entry Json) (options : Option StateOptions) : Action σ Unit :=
  t.write entry.store entry.key entry.value entry.etag options none

def trySaveEntry (entry : Entry Json) (options : Option StateOptions) : Action σ Bool :=
  soften (t.saveEntry entry options)

def deleteEntry (entry : Entry α) (options : Option StateOptions) : Action σ Unit :=
  t.remove entry.store entry.key entry.etag options

def tryDeleteEntry (entry : Entry α) (options : Option StateOptions) : Action σ Bool :=
  soften (t.deleteEntry entry options)

end Transport

end Sidecar.State
