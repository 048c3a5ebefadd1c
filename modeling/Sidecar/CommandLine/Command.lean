import Sidecar.CommandLine.Parameter

/-! # The commands of the tool -/

namespace Sidecar.CommandLine

inductive Command where
  | root
  | secrets
  | secretsLoad
  | state
  | stateGet
  | stateSave
  | stateDelete
  | markdown
  | manual
  | completion
  | help
deriving DecidableEq, Repr

namespace Command

/-- As it is called from the command above it. -/
def name : Command → String
  | .root => "dapr-cli"
  | .secrets => "secrets"
  | .secretsLoad => "load"
  | .state => "state"
  | .stateGet => "get"
  | .stateSave => "save"
  | .stateDelete => "delete"
  | .markdown => "generate-markdown"
  | .manual => "generate-man"
  | .completion => "generate-completion"
  | .help => "help"

def summary : Command → String
  | .root => "Command-line access to the state and secret stores of a Dapr sidecar"
  | .secrets => "Read secrets the way an application loads its configuration"
  | .secretsLoad => "Load secrets into a configuration and print it as JSON"
  | .state => "Read, write and delete state"
  | .stateGet => "Print a value and its etag as JSON"
  | .stateSave => "Store a JSON value"
  | .stateDelete => "Delete a value"
  | .markdown => "Generate markdown documentation for dapr-cli"
  | .manual => "Generate a manpage for dapr-cli"
  | .completion => "Generate shell completion for dapr-cli"
  | .help => "Print this message or the help of the given subcommand(s)"

def subcommands : Command → List Command
  | .root => [.secrets, .state, .markdown, .manual, .completion, .help]
  | .secrets => [.secretsLoad, .help]
  | .state => [.stateGet, .stateSave, .stateDelete, .help]
  | _ => []

def subcommand? (c : Command) (name : String) : Option Command :=
  c.subcommands.find? (·.name == name)

/-- The whole name of a command that needs a subcommand. -/
def path : Command → String
  | .root => Command.root.name
  | c => Command.root.name ++ " " ++ c.name

/-- The parameters of every command. -/
def commonParameters : List Parameter := [.verbose, .host, .port, .timeout, .help]

def writeParameters : List Parameter :=
  [.consistency, .concurrency, .retryPattern, .retryInterval, .retryThreshold]

def ownParameters : Command → List Parameter
  | .root => [.version]
  | .secretsLoad => [.store, .secret, .names, .showValues]
  | .stateGet => [.store, .key, .consistency]
  | .stateSave => [.store, .key, .valueJson, .etag, .metadata] ++ writeParameters
  | .stateDelete => [.store, .key, .etag] ++ writeParameters
  | .completion => [.shell]
  | _ => []

def parameters (c : Command) : List Parameter := c.ownParameters ++ commonParameters

/-- Parameters that have to be given. -/
def required : Command → List Parameter
  | .secretsLoad => [.store]
  | .stateGet | .stateDelete => [.store, .key]
  | .stateSave => [.store, .key, .valueJson]
  | .completion => [.shell]
  | _ => []

end Command

/-- Parameters without which the parameter must not be given. -/
def Parameter.requires : Parameter → List Parameter
  | .retryPattern => [.retryThreshold]
  | .retryInterval | .retryThreshold => [.retryPattern]
  | _ => []

/-- Parameters together with which the parameter must not be given. -/
def Parameter.excludes : Parameter → List Parameter
  | .secret => [.names]
  | .names => [.secret]
  | _ => []

end Sidecar.CommandLine
