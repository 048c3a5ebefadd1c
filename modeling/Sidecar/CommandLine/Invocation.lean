import Sidecar.CommandLine.Scan
import Sidecar.Endpoint

/-! # What a command line asks for -/

namespace Sidecar.CommandLine

structure Target where
  store : String
  key : String
deriving DecidableEq, Repr

/-- Documents about the tool itself. -/
inductive Document where
  | markdown
  | manual
  | completion (shell : Shell)
deriving DecidableEq, Repr

inductive Task where
  | get (target : Target) (consistency : Option Consistency)
  | save (target : Target) (valueJson : String) (etag : Option String)
      (options : Option StateOptions) (metadata : Option Metadata)
  | delete (target : Target) (etag : Option String) (options : Option StateOptions)
  | load (store : String) (secrets : List Secret.Descriptor) (names : List String)
      (showValues : Bool)
deriving DecidableEq, Repr

inductive Invocation where
  | document (document : Document)
  | task (endpoint : Endpoint) (task : Task)
deriving DecidableEq, Repr

/-! ## Values of a level -/

def Found.valuesOf (p : Parameter) (f : Found) : List p.Value :=
  if h : f.parameter = p then h ▸ f.values else []

namespace Level

def values (l : Level) (p : Parameter) : List p.Value := l.found.flatMap (Found.valuesOf p)

def value? (l : Level) (p : Parameter) : Option p.Value := (l.values p).head?

/-- A parameter that has to be given. -/
def text (l : Level) (p : Parameter) (h : p.Value = String := by rfl) : String :=
  ((l.value? p).map (h ▸ ·)).getD ""

def target (l : Level) : Target := ⟨l.text .store, l.text .key⟩

def defaultInterval : UInt64 := 1000

def retryPolicy (l : Level) : Option RetryPolicy :=
  match l.value? .retryPattern, l.value? .retryThreshold with
  | some pattern, some threshold =>
    let interval : UInt64 := (l.value? .retryInterval).getD defaultInterval
    some ⟨pattern, .ofMilliseconds interval.toNat, threshold⟩
  | _, _ => none

/-- Nothing unless one of them is given, so that the store keeps its own defaults. -/
def stateOptions (l : Level) : Option StateOptions :=
  match l.value? .consistency, l.value? .concurrency, l.retryPolicy with
  | none, none, none => none
  | consistency, concurrency, retry =>
    some ⟨consistency.getD default, concurrency.getD default, retry⟩

def metadata (l : Level) : Option Metadata :=
  match l.values .metadata with
  | [] => none
  | pairs => some (Json.sortMembers pairs)

def document? (l : Level) : Option Document :=
  match l.command with
  | .markdown => some .markdown
  | .manual => some .manual
  | .completion => (l.value? .shell).map .completion
  | _ => none

def task? (l : Level) : Option Task :=
  match l.command with
  | .stateGet => some (.get l.target (l.value? .consistency))
  | .stateSave =>
    some (.save l.target (l.text .valueJson) (l.value? .etag) l.stateOptions l.metadata)
  | .stateDelete => some (.delete l.target (l.value? .etag) l.stateOptions)
  | .secretsLoad =>
    some (.load (l.text .store) (l.values .secret) (l.values .names) (l.has .showValues))
  | _ => none

end Level

/-! ## Values that hold for all levels -/

/-- What is given on the command line comes before the environment, and the last level first. -/
def commonValue? (levels : List Level) (p : Parameter) : Option p.Value :=
  let found := levels.flatMap (·.found)
  let given := found.filter (·.origin == .commandLine)
  ((given ++ found).flatMap (Found.valuesOf p)).head?

def endpoint (levels : List Level) : Endpoint where
  host := (commonValue? levels .host).getD (default : Endpoint).host
  port := (commonValue? levels .port).getD (default : Endpoint).port
  timeout := (commonValue? levels .timeout).map fun s => .ofParts s.toNat 0

def parse (environment : String → Option String) (args : List String) :
    Except Exit Invocation := do
  let levels ← levels environment args
  match levels.head?.bind Level.document?, levels.head?.bind Level.task? with
  | some document, _ => return .document document
  | none, some task => return .task (endpoint levels) task
  | none, none => throw (.usage .root)

end Sidecar.CommandLine
