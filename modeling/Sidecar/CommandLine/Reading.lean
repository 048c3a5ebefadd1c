import Sidecar.Json.Basic
import Sidecar.Secret.Store
import Sidecar.Text.Pieces

/-! # Values on the command line -/

namespace Sidecar.CommandLine

/-- A value, or why a text is none. -/
abbrev Reading (α : Type) := Except String α

/-! ## Whole numbers -/

def notANumber : String := "invalid digit found in string"

def noNumber : String := "cannot parse integer from empty string"

def tooLarge : String := "number too large to fit in target type"

def tooSmall : String := "number too small to fit in target type"

/-- Digits behind `n`; the first character that does not fit decides. -/
def readDigits (greatest : Nat) (excess : String) (n : Nat) : List Char → Reading Nat
  | [] => .ok n
  | c :: rest =>
    if c.isDigit then
      let n := n * 10 + (c.toNat - 48)
      if greatest < n then .error excess else readDigits greatest excess n rest
    else .error notANumber

/-- A number without a sign, or with a plus sign. -/
def readNat (greatest : Nat) (s : String) : Reading Nat :=
  match s.toList with
  | [] => .error noNumber
  | ['+'] => .error notANumber
  | '+' :: digits => readDigits greatest tooLarge 0 digits
  | digits => readDigits greatest tooLarge 0 digits

def readInt (s : String) : Reading Int :=
  match s.toList with
  | ['-'] => .error notANumber
  | '-' :: digits => (readDigits 9223372036854775808 tooSmall 0 digits).map fun n => -(n : Int)
  | _ => (readNat 9223372036854775807 s).map Int.ofNat

/-- A number from zero to `greatest`. -/
def readUpTo (greatest : Nat) (s : String) : Reading Nat := do
  let n ← readInt s
  if 0 ≤ n ∧ n ≤ greatest then return n.toNat
  else throw (toString n ++ " is not in 0..=" ++ toString greatest)

def readUInt16 (s : String) : Reading UInt16 := (readUpTo 65535 s).map UInt16.ofNat

def readUInt32 (s : String) : Reading UInt32 := (readUpTo 4294967295 s).map UInt32.ofNat

def readUInt64 (s : String) : Reading UInt64 :=
  (readNat 18446744073709551615 s).map UInt64.ofNat

/-! ## Words -/

def readWord [Vocabulary α] (s : String) : Reading α :=
  (Vocabulary.parse s).mapError fun word => (Error.unknownToken word).text

/-! ## Pairs and secrets -/

/-- The value is what follows the first equals sign. -/
def readPair (s : String) : Reading (String × String) :=
  match Text.cutText '=' s with
  | some (key, value) =>
    if key.isEmpty then .error ("expected key=value, got '" ++ s ++ "'") else .ok (key, value)
  | none => .error ("expected key=value, got '" ++ s ++ "'")

def readMetadatum (piece : String) : Reading (String × String) :=
  match Text.cutText ':' piece with
  | some (key, value) =>
    if key.isEmpty then .error ("expected metadata as key:value, got '" ++ piece ++ "'")
    else .ok (key, value)
  | none => .error ("expected metadata as key:value, got '" ++ piece ++ "'")

/-- A name, or a name, an equals sign and metadata; empty pieces of metadata are passed over. -/
def readSecret (s : String) : Reading Secret.Descriptor := do
  let (name, metadata) := (Text.cutText '=' s).getD (s, "")
  if name.isEmpty then throw "secret name must not be empty"
  let pieces := (Text.textPieces ',' metadata).filter (!·.isEmpty)
  return ⟨name, Json.sortMembers (← pieces.mapM readMetadatum)⟩

end Sidecar.CommandLine
