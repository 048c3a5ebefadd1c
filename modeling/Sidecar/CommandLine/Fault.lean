import Sidecar.CommandLine.Command

/-! # Why a command line is refused -/

namespace Sidecar.CommandLine

inductive Fault where
  | unknownArgument (arg : String)
  | unknownSubcommand (arg : String)
  | missingSubcommand (command : Command)
  | unexpectedValue (value : String) (p : Parameter)
  | missingValue (p : Parameter)
  | invalidValue (value : String) (p : Parameter) (reason : String)
  | givenAgain (p : Parameter)
  | conflict (p other : Parameter)
  | missingParameters
deriving DecidableEq, Repr

namespace Fault

/-- Control characters other than line breaks and tabs do not reach the terminal. -/
def isPrinted (c : Char) : Bool :=
  c.toNat != 0x7F && (0x20 ≤ c.toNat || (9 ≤ c.toNat && c.toNat ≤ 13 && c.toNat != 11))

def plain : Fault → String
  | .unknownArgument arg => "unexpected argument '" ++ arg ++ "' found"
  | .unknownSubcommand arg => "unrecognized subcommand '" ++ arg ++ "'"
  | .missingSubcommand command =>
    "'" ++ command.path ++ "' requires a subcommand but one was not provided"
  | .unexpectedValue value p =>
    "unexpected value '" ++ value ++ "' for '" ++ p.text ++ "' found; no more were expected"
  | .missingValue p => "a value is required for '" ++ p.text ++ "' but none was supplied"
  | .invalidValue value p reason =>
    "invalid value '" ++ value ++ "' for '" ++ p.text ++ "'" ++
      if p.isTerse then "" else ": " ++ reason
  | .givenAgain p => "the argument '" ++ p.text ++ "' cannot be used multiple times"
  | .conflict p other =>
    "the argument '" ++ p.text ++ "' cannot be used with '" ++ other.text ++ "'"
  | .missingParameters => "the following required arguments were not provided:"

def text (f : Fault) : String := String.ofList (f.plain.toList.filter isPrinted)

end Fault

end Sidecar.CommandLine
