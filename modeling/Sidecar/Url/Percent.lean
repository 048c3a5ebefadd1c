import Sidecar.Text.Utf8

/-! # Percent-encoding and form encoding -/

namespace Sidecar.Url

def escapeByte (b : UInt8) : List Char :=
  ['%', Hex.upperDigit (b.toNat / 16), Hex.upperDigit (b.toNat % 16)]

/-- The ASCII characters to be escaped; all others always are. -/
abbrev EscapeSet := Char → Bool

namespace EscapeSet

def control : EscapeSet := fun c => c.toNat < 0x20 || c.toNat == 0x7F

def fragment : EscapeSet := fun c =>
  control c || c == ' ' || c == '"' || c == '<' || c == '>' || c == '`'

def path : EscapeSet := fun c =>
  fragment c || c == '#' || c == '?' || c == '\x7b' || c == '\x7d'

/-- A segment that is pushed onto a path holds no separator, and its percent signs are escaped. -/
def segment : EscapeSet := fun c => path c || c == '/' || c == '%' || c == '\\'

def userInfo : EscapeSet := fun c =>
  path c || c == '/' || c == ':' || c == ';' || c == '=' || c == '@' || c == '[' || c == '\\' ||
    c == ']' || c == '^' || c == '|'

def query : EscapeSet := fun c =>
  control c || c == ' ' || c == '"' || c == '#' || c == '<' || c == '>' || c == '\''

end EscapeSet

def escapeChar (set : EscapeSet) (c : Char) : List Char :=
  if c.toNat < 0x80 && !set c then [c] else (String.utf8EncodeChar c).flatMap escapeByte

def percentEncode (set : EscapeSet) (s : List Char) : List Char :=
  s.flatMap (escapeChar set)

/-- A percent sign that is not followed by two hexadecimal digits stands for itself. -/
def percentDecode : Bytes → Bytes
  | [] => []
  | 37 :: a :: b :: rest =>
    match Hex.value? a, Hex.value? b with
    | some m, some n => UInt8.ofNat (m * 16 + n) :: percentDecode rest
    | _, _ => 37 :: percentDecode (a :: b :: rest)
  | b :: rest => b :: percentDecode rest

def isFormPlain (c : Char) : Bool :=
  c.isAlphanum || c == '*' || c == '-' || c == '.' || c == '_'

/-- A blank is written as a plus sign. -/
def formChar (c : Char) : List Char :=
  if c = ' ' then ['+']
  else if isFormPlain c then [c]
  else (String.utf8EncodeChar c).flatMap escapeByte

def formText (s : String) : List Char := s.toList.flatMap formChar

def formPair (pair : String × String) : List Char := formText pair.1 ++ ['='] ++ formText pair.2

def formPairs (pairs : List (String × String)) : List Char :=
  List.intercalate ['&'] (pairs.map formPair)

end Sidecar.Url
