import Sidecar.Bytes
import Sidecar.Json.Basic
import Sidecar.Number.Shortest

/-! # Writing JSON -/

namespace Sidecar.Json

/-- Positional up to 16 digits before and 4 zeros after the point, else with an exponent; a double
always shows a point or an exponent. -/
def doubleText (x : Binary64) : List Char :=
  let d := Shortest.decimal x
  let digits := Nat.toDigits 10 d.digits
  let point : Int := digits.length + d.exponent
  let sign := if x.negative then ['-'] else []
  let zeros (n : Int) := List.replicate n.toNat '0'
  sign ++
    if x.mantissa = 0 then ['0', '.', '0']
    else if 0 ≤ d.exponent ∧ point ≤ 16 then digits ++ zeros d.exponent ++ ['.', '0']
    else if 0 < point ∧ point ≤ 16 then
      digits.take point.toNat ++ ['.'] ++ digits.drop point.toNat
    else if -5 < point ∧ point ≤ 0 then ['0', '.'] ++ zeros (-point) ++ digits
    else
      let fraction := if digits.length = 1 then [] else '.' :: digits.drop 1
      let exponent := point - 1
      digits.take 1 ++ fraction ++ ['e', if exponent < 0 then '-' else '+'] ++
        Nat.toDigits 10 exponent.natAbs

def Number.text : Number → List Char
  | .whole n => (toString n).toList
  | .double x => doubleText x

/-- Quotes, backslashes and control characters are escaped and nothing else is. -/
def escapeChar (c : Char) : List Char :=
  if c = '"' then ['\\', '"']
  else if c = '\\' then ['\\', '\\']
  else if c.toNat < 0x20 then
    if c = '\x08' then ['\\', 'b']
    else if c = '\x0c' then ['\\', 'f']
    else if c = '\n' then ['\\', 'n']
    else if c = '\r' then ['\\', 'r']
    else if c = '\t' then ['\\', 't']
    else ['\\', 'u', '0', '0', Hex.lowerDigit (c.toNat / 16), Hex.lowerDigit (c.toNat % 16)]
  else [c]

def stringText (s : String) : List Char :=
  ['"'] ++ s.toList.flatMap escapeChar ++ ['"']

def boolText (b : Bool) : List Char :=
  if b then ['t', 'r', 'u', 'e'] else ['f', 'a', 'l', 's', 'e']

def nullText : List Char := ['n', 'u', 'l', 'l']

mutual

/-- Without blanks, members in the order they have. -/
def chars : Json → List Char
  | .null => nullText
  | .bool b => boolText b
  | .number n => n.text
  | .string s => stringText s
  | .array items => ['['] ++ itemChars items ++ [']']
  | .object members => ['\x7b'] ++ memberChars members ++ ['\x7d']

def itemChars : List Json → List Char
  | [] => []
  | [v] => chars v
  | v :: w :: rest => chars v ++ [','] ++ itemChars (w :: rest)

def memberChars : List (String × Json) → List Char
  | [] => []
  | [(k, v)] => stringText k ++ [':'] ++ chars v
  | (k, v) :: m :: rest => stringText k ++ [':'] ++ chars v ++ [','] ++ memberChars (m :: rest)

end

def text (v : Json) : String := String.ofList (chars v)

def newline (depth : Nat) : List Char := '\n' :: List.replicate (2 * depth) ' '

mutual

/-- One item or member a line, indented by two blanks for each level. -/
def prettyChars (depth : Nat) : Json → List Char
  | .null => nullText
  | .bool b => boolText b
  | .number n => n.text
  | .string s => stringText s
  | .array [] => ['[', ']']
  | .array (v :: rest) =>
    ['['] ++ prettyItems (depth + 1) (v :: rest) ++ newline depth ++ [']']
  | .object [] => ['\x7b', '\x7d']
  | .object (m :: rest) =>
    ['\x7b'] ++ prettyMembers (depth + 1) (m :: rest) ++ newline depth ++ ['\x7d']

def prettyItems (depth : Nat) : List Json → List Char
  | [] => []
  | [v] => newline depth ++ prettyChars depth v
  | v :: w :: rest =>
    newline depth ++ prettyChars depth v ++ [','] ++ prettyItems depth (w :: rest)

def prettyMembers (depth : Nat) : List (String × Json) → List Char
  | [] => []
  | [(k, v)] => newline depth ++ stringText k ++ [':', ' '] ++ prettyChars depth v
  | (k, v) :: m :: rest =>
    newline depth ++ stringText k ++ [':', ' '] ++ prettyChars depth v ++ [','] ++
      prettyMembers depth (m :: rest)

end

def pretty (v : Json) : String := String.ofList (prettyChars 0 v)

end Sidecar.Json
