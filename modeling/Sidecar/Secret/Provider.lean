import Sidecar.Secret.LoadError
import Sidecar.Secret.Selection
import Sidecar.Secret.Snapshot

/-!
# Loading a configuration

A provider loads once: it fetches its secrets in order, and every value becomes an entry of the
snapshot that it publishes at the end.  The first failure ends the load, and nothing is published.
-/

namespace Sidecar.Secret

/-- The key under which a store returns the value of a secret that has only one. -/
def singleValueKey : String := "_default"

inductive Progress where
  | unloaded
  | loading
  | loaded (snapshot : Snapshot)
  | failed

structure Provider (σ : Type) where
  store : String
  selection : Selection
  api : Api σ
  progress : Progress := .unloaded

/-- How long a load goes on. -/
inductive Patience where
  | toTheEnd
  /-- The load is given up where it first has to wait. -/
  | untilWait
deriving DecidableEq, Repr

/-- The result of a fetch, unless the load ends before it. -/
def Patience.result? : Patience → Answer → Option (Except Error Values)
  | _, .immediate result => some result
  | .toTheEnd, .delayed result => some result
  | .untilWait, .delayed _ => none
  | _, .missing => none

/-- The entry for a value of the secret `name`. -/
def Selection.entryKey (s : Selection) (name key : String) : String :=
  s.mapKey (if key = singleValueKey then name else key)

/-- The snapshot with the values of the secret `name`. -/
def Selection.addValues (s : Selection) (name : String) (data : Snapshot) :
    Values → Except LoadError Snapshot
  | [] => .ok data
  | (key, value) :: rest =>
    let key := s.entryKey name key
    match data.insert? key value with
    | none => .error (.duplicateKey key)
    | some data => s.addValues name data rest

namespace Provider

variable {σ : Type}

def create (store : String) (selection : Selection) (api : Api σ) : Except LoadError (Provider σ) :=
  if store.isEmpty then .error .emptyStore else .ok { store, selection, api }

def snapshot? (p : Provider σ) : Option Snapshot :=
  match p.progress with
  | .loaded snapshot => some snapshot
  | _ => none

def isLoaded (p : Provider σ) : Bool := p.snapshot?.isSome

def get? (p : Provider σ) (key : String) : Option String := p.snapshot?.bind (·.get? key)

/-- Fetches secrets behind those whose values are in `data`; `none` if the load is given up. -/
def fetchAll (p : Provider σ) (patience : Patience) (data : Snapshot) :
    List Descriptor → StateM σ (Option (Except LoadError Snapshot))
  | [] => return some (.ok data)
  | d :: rest => do
    let answer ← p.api.fetch ⟨p.store, d.name, d.metadata⟩
    match patience.result? answer with
    | none => return none
    | some (.error e) => return some (.error (.store e))
    | some (.ok values) =>
      match p.selection.addValues d.name data values with
      | .error e => return some (.error e)
      | .ok data => p.fetchAll patience data rest

/-- The result, or `none` if the load is given up, and the provider behind it. -/
def load (p : Provider σ) (patience : Patience) :
    StateM σ (Option (Except LoadError Snapshot) × Provider σ) := do
  match p.progress with
  | .unloaded =>
    let result ← p.fetchAll patience .empty p.selection.toDescriptors
    let progress := match result with
      | none => .loading
      | some (.ok snapshot) => .loaded snapshot
      | some (.error _) => .failed
    return (result, { p with progress })
  | _ => return (some (.error .alreadyLoaded), p)

end Provider

end Sidecar.Secret
