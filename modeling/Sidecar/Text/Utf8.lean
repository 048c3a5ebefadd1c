import Sidecar.Bytes

/-!
# UTF-8

Decoding is driven byte by byte and yields symbols: characters and malformed stretches.  The strict
reading accepts a byte string without malformed stretches; the lossy one puts a replacement
character in the place of each.
-/

namespace Sidecar.Text.Utf8

def encode (s : String) : Bytes :=
  s.toList.flatMap String.utf8EncodeChar

/-- Between characters, or inside one: how many bytes have to follow the next one, the range of the
next one, and the value so far. -/
inductive State where
  | ready
  | inside (more : Nat) (low high : UInt8) (value : Nat)
deriving DecidableEq, Repr

/-- `none` is a malformed stretch. -/
abbrev Symbol := Option Char

def start (b : UInt8) : List Symbol × State :=
  let n := b.toNat
  if n < 0x80 then ([some (Char.ofNat n)], .ready)
  else if n < 0xC2 then ([none], .ready)
  else if n < 0xE0 then ([], .inside 0 0x80 0xBF (n - 0xC0))
  else if n = 0xE0 then ([], .inside 1 0xA0 0xBF 0)
  else if n = 0xED then ([], .inside 1 0x80 0x9F 0xD)
  else if n < 0xF0 then ([], .inside 1 0x80 0xBF (n - 0xE0))
  else if n = 0xF0 then ([], .inside 2 0x90 0xBF 0)
  else if n < 0xF4 then ([], .inside 2 0x80 0xBF (n - 0xF0))
  else if n = 0xF4 then ([], .inside 2 0x80 0x8F 4)
  else ([none], .ready)

/-- A byte out of range ends a malformed stretch and is looked at afresh. -/
def feed : State → UInt8 → List Symbol × State
  | .ready, b => start b
  | .inside more low high value, b =>
    if low ≤ b ∧ b ≤ high then
      let value := value * 64 + (b.toNat - 0x80)
      match more with
      | 0 => ([some (Char.ofNat value)], .ready)
      | more + 1 => ([], .inside more 0x80 0xBF value)
    else
      let (symbols, state) := start b
      (none :: symbols, state)

def symbols : State → Bytes → List Symbol
  | .ready, [] => []
  | .inside .., [] => [none]
  | state, b :: rest =>
    let (out, state) := feed state b
    out ++ symbols state rest

def decode? (bs : Bytes) : Option (List Char) :=
  (symbols .ready bs).mapM id

def decodeText? (bs : Bytes) : Option String :=
  (decode? bs).map String.ofList

def decodeLossy (bs : Bytes) : String :=
  String.ofList ((symbols .ready bs).map (·.getD '\uFFFD'))

/-- How many bytes precede the first malformed stretch. -/
def validLength (bs : Bytes) : Nat :=
  ((symbols .ready bs).takeWhile (·.isSome)).foldl (fun n s => n + (s.map Char.utf8Size).getD 0) 0

end Sidecar.Text.Utf8
