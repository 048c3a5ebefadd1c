import Sidecar.CommandLine.Reading

/-! # Parameters of commands -/

namespace Sidecar.CommandLine

/-- Programs for which completions can be generated. -/
inductive Shell where
  | bash
  | elvish
  | fish
  | powershell
  | zsh
deriving DecidableEq, Repr

instance : Vocabulary Shell where
  kind := "shell"
  all := [.bash, .elvish, .fish, .powershell, .zsh]
  word
    | .bash => "bash"
    | .elvish => "elvish"
    | .fish => "fish"
    | .powershell => "powershell"
    | .zsh => "zsh"

inductive Parameter where
  | verbose
  | host
  | port
  | timeout
  | store
  | key
  | consistency
  | valueJson
  | etag
  | concurrency
  | retryPattern
  | retryInterval
  | retryThreshold
  | metadata
  | secret
  | names
  | showValues
  | shell
  | help
  | version
deriving DecidableEq, Repr

/-- How many values a parameter has. -/
inductive Arity where
  /-- None, and it is given at most once. -/
  | flag
  /-- One, and it is given at most once. -/
  | single
  /-- One each time it is given. -/
  | repeated
  /-- One or more each time it is given. -/
  | several
deriving DecidableEq, Repr

namespace Parameter

def name : Parameter → String
  | .verbose => "verbose"
  | .host => "dapr-host"
  | .port => "dapr-http-port"
  | .timeout => "timeout"
  | .store => "store"
  | .key => "key"
  | .consistency => "consistency"
  | .valueJson => "value-json"
  | .etag => "etag"
  | .concurrency => "concurrency"
  | .retryPattern => "retry-pattern"
  | .retryInterval => "retry-interval"
  | .retryThreshold => "retry-threshold"
  | .metadata => "metadata"
  | .secret => "secret"
  | .names => "names"
  | .showValues => "show-values"
  | .shell => "shell"
  | .help => "help"
  | .version => "version"

def letter? : Parameter → Option Char
  | .verbose => some 'v'
  | .help => some 'h'
  | .version => some 'V'
  | _ => none

def arity : Parameter → Arity
  | .verbose | .showValues | .help | .version => .flag
  | .metadata | .secret => .repeated
  | .names => .several
  | _ => .single

/-- What stands for a value in messages. -/
def placeholder : Parameter → String
  | .secret => "SECRETS"
  | p => String.ofList (p.name.toList.map fun c => if c = '-' then '_' else c.toUpper)

def text (p : Parameter) : String :=
  "--" ++ p.name ++
    match p.arity with
    | .flag => ""
    | .single | .repeated => " <" ++ p.placeholder ++ ">"
    | .several => " <" ++ p.placeholder ++ ">..."

/-- The environment variable from which a value is taken if none is given. -/
def environmentName? : Parameter → Option String
  | .host => some "DAPR_HOST"
  | .port => some "DAPR_HTTP_PORT"
  | .timeout => some "DAPR_API_TIMEOUT_SECONDS"
  | _ => none

abbrev Value : Parameter → Type
  | .verbose | .showValues | .help | .version => Unit
  | .host | .store | .key | .valueJson | .etag | .names => String
  | .port => UInt16
  | .timeout | .retryInterval => UInt64
  | .retryThreshold => UInt32
  | .consistency => Consistency
  | .concurrency => Concurrency
  | .retryPattern => RetryPattern
  | .metadata => String × String
  | .secret => Secret.Descriptor
  | .shell => Shell

def read : (p : Parameter) → String → Reading p.Value
  | .verbose, _ | .showValues, _ | .help, _ | .version, _ => .ok ()
  | .host, s | .store, s | .key, s | .valueJson, s | .etag, s | .names, s => .ok s
  | .port, s => readUInt16 s
  | .timeout, s | .retryInterval, s => readUInt64 s
  | .retryThreshold, s => readUInt32 s
  | .consistency, s => readWord s
  | .concurrency, s => readWord s
  | .retryPattern, s => readWord s
  | .metadata, s => readPair s
  | .secret, s => readSecret s
  | .shell, s => readWord s

/-- Whether messages about its values leave the reason out. -/
def isTerse : Parameter → Bool
  | .shell => true
  | _ => false

end Parameter

end Sidecar.CommandLine
