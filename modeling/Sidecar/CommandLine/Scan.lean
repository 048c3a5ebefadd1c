import Sidecar.CommandLine.Fault

/-!
# Reading a command line

Each command on the way to the last one has its own level of parameters.  Levels are completed from
the last one up, once all arguments have been looked at: what is given nowhere on a level is taken
from the environment, and then it is checked that the parameters of the level go together.
-/

namespace Sidecar.CommandLine

inductive Origin where
  | environment
  | commandLine
deriving DecidableEq, Repr

/-- A parameter with the values that were read for it. -/
structure Found where
  parameter : Parameter
  values : List parameter.Value
  origin : Origin

/-- A parameter given by name whose values have not been read. -/
structure Pending where
  parameter : Parameter
  values : List String

/-- Whether the next argument may be one of its values. -/
def Pending.isOpen (p : Pending) : Bool :=
  match p.parameter.arity with
  | .several => true
  | .flag => false
  | .single | .repeated => p.values.isEmpty

structure Level where
  command : Command
  /-- In the order in which they were found. -/
  found : List Found := []
  pending : Option Pending := none

/-- What a command line asks for instead of a command, or what is wrong with it. -/
inductive Exit where
  | help (command : Command)
  | version
  /-- Nothing was asked for. -/
  | usage (command : Command)
  | fault (fault : Fault)
deriving DecidableEq, Repr

namespace Level

def has (l : Level) (p : Parameter) : Bool := l.found.any (·.parameter == p)

def readValue (p : Parameter) (s : String) : Except Fault p.Value :=
  (p.read s).mapError fun reason =>
    if p.isTerse ∧ s.isEmpty then .missingValue p else .invalidValue s p reason

def mayRepeat (p : Parameter) : Bool :=
  match p.arity with
  | .repeated | .several => true
  | .flag | .single => false

def record (l : Level) (p : Parameter) (values : List String) (origin : Origin) :
    Except Fault Level := do
  if l.has p ∧ !mayRepeat p then throw (.givenAgain p)
  let values ← values.mapM (readValue p)
  return { l with found := l.found ++ [⟨p, values, origin⟩] }

/-- Reads the values of the pending parameter. -/
def settle (l : Level) : Except Fault Level :=
  match l.pending with
  | none => .ok l
  | some ⟨p, []⟩ => .error (.missingValue p)
  | some ⟨p, values⟩ => { l with pending := none }.record p values .commandLine

def parameterNamed? (l : Level) (name : String) : Option Parameter :=
  l.command.parameters.find? (·.name == name)

def parameterLettered? (l : Level) (letter : Char) : Option Parameter :=
  l.command.parameters.find? (·.letter? == some letter)

/-! ## One argument -/

/-- A parameter without a value. -/
def takeFlag (l : Level) (p : Parameter) : Except Exit Level := do
  let l ← l.settle.mapError .fault
  match p with
  | .help => throw (.help l.command)
  | .version => throw .version
  | _ => (l.record p [] .commandLine).mapError .fault

def takeLong (l : Level) (name : String) (value : Option String) : Except Exit Level :=
  match l.parameterNamed? name with
  | none => throw (.fault (.unknownArgument ("--" ++ name)))
  | some p =>
    match p.arity, value with
    | .flag, none => l.takeFlag p
    | .flag, some value => throw (.fault (.unexpectedValue value p))
    | _, none => do
      let l ← l.settle.mapError .fault
      return { l with pending := some ⟨p, []⟩ }
    | _, some value => do
      let l ← l.settle.mapError .fault
      (l.record p [value] .commandLine).mapError .fault

/-- Letters behind one dash. -/
def takeLetters (l : Level) : List Char → Except Exit Level
  | [] => return l
  | c :: rest =>
    match l.parameterLettered? c with
    | none => throw (.fault (.unknownArgument (String.ofList ['-', c])))
    | some p => do (← l.takeFlag p).takeLetters rest

/-- An argument that is neither a parameter nor a value of one. -/
def refuse (l : Level) (arg : String) : Exit :=
  .fault (if l.command.subcommands.isEmpty then .unknownArgument arg else .unknownSubcommand arg)

def isOpen (l : Level) : Bool := l.pending.any (·.isOpen)

def takeValue (l : Level) (arg : String) : Except Exit Level :=
  match l.pending with
  | some p =>
    if p.isOpen then .ok { l with pending := some { p with values := p.values ++ [arg] } }
    else .error (l.refuse arg)
  | none => .error (l.refuse arg)

/-- An argument other than a subcommand and the double dash. -/
def take (l : Level) (arg : String) : Except Exit Level :=
  match arg.toList with
  | '-' :: '-' :: body =>
    match Text.cutOnce '=' body with
    | none => l.takeLong (String.ofList body) none
    | some (name, value) => l.takeLong (String.ofList name) (some (String.ofList value))
  | '-' :: c :: letters => l.takeLetters (c :: letters)
  | _ => l.takeValue arg

/-! ## Completing a level -/

/-- Adds what the environment gives for parameters that are not given. -/
def addVariables (l : Level) (environment : String → Option String) : Except Fault Level :=
  l.command.parameters.foldlM
    (fun l p =>
      if l.has p then return l
      else match p.environmentName?.bind environment with
        | none => return l
        | some value => l.record p [value] .environment)
    l

def firstConflict? (l : Level) : Option (Parameter × Parameter) :=
  (l.found.flatMap fun f => f.parameter.excludes.map (f.parameter, ·)).find? fun c => l.has c.2

/-- What has to be given, whether always or because of what is given. -/
def needed (l : Level) : List Parameter :=
  l.command.required ++ l.found.flatMap (·.parameter.requires)

def check (l : Level) (isLast : Bool) : Except Exit Level := do
  if isLast ∧ !l.command.subcommands.isEmpty then
    throw (if l.found.isEmpty then .usage l.command else .fault (.missingSubcommand l.command))
  match l.firstConflict? with
  | some (p, other) => throw (.fault (.conflict p other))
  | none =>
    if l.needed.all l.has then return l else throw (.fault .missingParameters)

def complete (environment : String → Option String) (isLast : Bool) (l : Level) :
    Except Exit Level := do
  let l ← l.settle.mapError .fault
  let l ← (l.addVariables environment).mapError .fault
  l.check isLast

end Level

/-! ## All arguments -/

/-- The help for the subcommand that the arguments lead to. -/
def helpFor (command : Command) : List String → Exit
  | [] => .help command
  | arg :: rest =>
    match command.subcommand? arg with
    | none => .fault (.unknownSubcommand arg)
    | some child => helpFor child rest

/-- Behind the double dash there are no parameters, and no command takes anything else. -/
def refuseTrailing (l : Level) (arg : String) : Exit :=
  if (l.command.subcommand? arg).isSome then .fault (.unknownArgument arg) else l.refuse arg

/-- The levels, last one first; `above` are those over the current one. -/
def scan (l : Level) (above : List Level) : List String → Except Exit (List Level)
  | [] => .ok (l :: above)
  | arg :: rest =>
    match if l.isOpen then none else l.command.subcommand? arg with
    | some .help => .error (helpFor l.command rest)
    | some child => scan ⟨child, [], none⟩ (l :: above) rest
    | none =>
      if arg = "--" then
        match rest with
        | [] => .ok (l :: above)
        | arg :: _ => .error (refuseTrailing l arg)
      else do scan (← l.take arg) above rest

def completeAll (environment : String → Option String) : (isLast : Bool) → List Level →
    Except Exit (List Level)
  | _, [] => .ok []
  | isLast, l :: above => do
    let l ← l.complete environment isLast
    return l :: (← completeAll environment false above)

/-- The completed levels, last one first. -/
def levels (environment : String → Option String) (args : List String) :
    Except Exit (List Level) := do
  completeAll environment true (← scan ⟨.root, [], none⟩ [] args)

end Sidecar.CommandLine
