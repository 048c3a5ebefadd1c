import Sidecar.CommandLine.Invocation
import Sidecar.Http.Secret
import Sidecar.Secret.Source
import Sidecar.State.Client

/-!
# Carrying out commands

A command prints its result, or reports a failure together with all that lies behind it.
-/

namespace Sidecar.CommandLine

structure Outcome where
  exit : UInt32
  stdout : String
  stderr : String
deriving DecidableEq, Repr

def Outcome.printed (text : String) : Outcome := ⟨0, text, ""⟩

/-- A failure, outermost description first. -/
structure Failure where
  chain : List String
deriving DecidableEq, Repr

namespace Failure

def ofError (e : Error) : Failure := ⟨e.text :: e.causes⟩

def ofLoadError (e : Secret.LoadError) : Failure := ⟨e.text :: e.causes⟩

/-- Says what was being done. -/
def under (doing : String) (f : Failure) : Failure := ⟨doing :: f.chain⟩

def text (f : Failure) : String :=
  "dapr-cli error: " ++ String.intercalate ": " f.chain ++ "\n"

def outcome (f : Failure) : Outcome := ⟨1, "", f.text⟩

end Failure

/-- A command that talks to a sidecar; its result is what is printed. -/
abbrev Job := ExceptT Failure (StateM Http.Wire) String

def during (doing : String) (action : Action Http.Wire α) : ExceptT Failure (StateM Http.Wire) α :=
  fun w =>
    match action w with
    | (.ok a, w) => (.ok a, w)
    | (.error e, w) => (.error ((Failure.ofError e).under doing), w)

def printJson (v : Json) : String := v.pretty ++ "\n"

/-! ## State -/

def quoted (key : String) : String := "'" ++ key ++ "'"

def staleEtag (key done etag : String) : Failure :=
  ⟨[quoted key ++ " was not " ++ done ++ ": etag " ++ etag ++ " is stale"]⟩

/-- No value prints as `null`. -/
def printState (key : String) (value : Option Json) (etag : Option String) : String :=
  printJson <| .object [
    ("etag", etag.elim .null .string),
    ("key", .string key),
    ("value", value.getD .null)]

def getState (t : State.Transport Http.Wire) (target : Target) (consistency : Option Consistency) :
    Job := do
  let (value, etag) ← during ("reading " ++ quoted target.key)
    (t.getWithEtag Json.readAny target.store target.key consistency)
  return printState target.key value etag

/-- With an etag, one that is refused is reported as stale. -/
def saveState (t : State.Transport Http.Wire) (target : Target) (valueJson : String)
    (etag : Option String) (options : Option StateOptions) (metadata : Option Metadata) : Job := do
  let value ← (Json.ofText valueJson).mapError fun fault =>
    (⟨["parsing --value-json", fault.text]⟩ : Failure)
  let doing := "saving " ++ quoted target.key
  match etag with
  | none =>
    during doing (t.saveValue target.store target.key (some value) options metadata)
    return ""
  | some etag =>
    let saved ← during doing
      (t.trySaveValue target.store target.key (some value) (some etag) options metadata)
    if saved then return "" else throw (staleEtag target.key "saved" etag)

/-- A refused deletion is reported as a stale etag, also if no etag was given. -/
def deleteState (t : State.Transport Http.Wire) (target : Target) (etag : Option String)
    (options : Option StateOptions) : Job := do
  let deleted ← during ("deleting " ++ quoted target.key)
    (t.tryDeleteValue target.store target.key etag options)
  if deleted then return "" else throw (staleEtag target.key "deleted" (etag.getD ""))

/-! ## Secrets -/

def mask : String := "***"

/-- Keys in ascending order; values are masked unless they are to be shown. -/
def printSecrets (entries : List (String × String)) (showValues : Bool) : String :=
  let shown := entries.map fun (key, value) => (key, if showValues then value else mask)
  printJson (Json.ofStrings (Json.sortMembers shown))

def loadSecrets (api : Secret.Api Http.Wire) (store : String) (secrets : List Secret.Descriptor)
    (names : List String) (showValues : Bool) : Job := do
  let source : Secret.Source Http.Wire :=
    { store := some store, descriptors := secrets, names, api := some api }
  let provider ← source.build.mapError Failure.ofLoadError
  let doing := "loading secrets from store " ++ quoted store
  match ← (provider.load .toTheEnd : StateM Http.Wire _) with
  | (some (.ok snapshot), _) => return printSecrets snapshot.toList showValues
  | (some (.error e), _) => throw ((Failure.ofLoadError e).under doing)
  | (none, _) => throw ⟨[doing]⟩

/-! ## Documents -/

/-- The first line. -/
def Document.heading : Document → String
  | .markdown => "# Command-Line Help for `dapr-cli`"
  | .manual => ".ie \\n(.g .ds Aq \\(aq"
  | .completion .bash => "_dapr__cli() \x7b"
  | .completion .fish =>
    "# Print an optspec for argparse to handle cmd's options that are independent of any subcommand."
  | .completion .zsh => "#compdef dapr-cli"
  | .completion .elvish | .completion .powershell => ""

/-! ## All commands -/

variable [Http.Redirection]

def Task.job (base : Url) : Task → Job
  | .get target consistency => getState (Http.transport base) target consistency
  | .save target valueJson etag options metadata =>
    saveState (Http.transport base) target valueJson etag options metadata
  | .delete target etag options => deleteState (Http.transport base) target etag options
  | .load store secrets names showValues =>
    loadSecrets (Http.secrets base) store secrets names showValues

/-- The endpoint is looked at before anything else. -/
def Invocation.job : Invocation → Job
  | .document d => return d.heading ++ "\n"
  | .task e t => do
    let base ← e.baseUrl.mapError Failure.ofError
    t.job base

def Exit.outcome : Exit → Outcome
  | .help command => .printed (command.summary ++ "\n")
  | .version => .printed "dapr-cli 0.1.0\n"
  | .usage command => ⟨2, "", command.summary ++ "\n"⟩
  | .fault why => ⟨2, "", "error: " ++ why.text ++ "\n"⟩

/-- Runs the tool with its arguments. -/
def run (environment : String → Option String) (args : List String) : StateM Http.Wire Outcome := do
  match parse environment args with
  | .error exit => return exit.outcome
  | .ok invocation =>
    match ← invocation.job.run with
    | .ok text => return .printed text
    | .error failure => return failure.outcome

end Sidecar.CommandLine
