import Sidecar.Bytes
import Sidecar.Text.Pieces

/-! # Numeric hosts -/

namespace Sidecar.Url

/-! ## Four numbers -/

namespace Ipv4

def digitIn? (radix : Nat) (c : Char) : Option Nat :=
  if c.toNat < 0x80 then
    match Hex.value? (UInt8.ofNat c.toNat) with
    | some n => if n < radix then some n else none
    | none => none
  else none

def numberIn? (radix : Nat) (s : List Char) : Option Nat :=
  s.foldlM (fun n c => (digitIn? radix c).map (n * radix + ·)) 0

/-- Decimal, octal with a leading zero, or hexadecimal. -/
def number? (s : List Char) : Option Nat :=
  match s with
  | [] => none
  | '0' :: 'x' :: rest | '0' :: 'X' :: rest => numberIn? 16 rest
  | '0' :: c :: rest => numberIn? 8 (c :: rest)
  | _ => numberIn? 10 s

/-- The last piece that is not the empty one behind a final dot. -/
def lastPiece (domain : List Char) : List Char :=
  match (Text.pieces '.' domain).reverse with
  | [] :: last :: _ => last
  | last :: _ => last
  | [] => []

def endsInNumber (domain : List Char) : Bool :=
  let last := lastPiece domain
  (!last.isEmpty && last.all (·.isDigit)) || (number? last).isSome

/-- The numbers but the last are bytes, and the last fills the remaining ones. -/
def combine : List Nat → (room : Nat) → Option Nat
  | [], _ => none
  | [n], room => if n < Nat.pow 256 room then some n else none
  | n :: rest, room => do
    let tail ← combine rest (room - 1)
    if n < 256 then some (n * Nat.pow 256 (room - 1) + tail) else none

def parse? (domain : List Char) : Option Nat := do
  let parts := Text.pieces '.' domain
  let parts := if parts.getLast? = some [] then parts.dropLast else parts
  if 4 < parts.length then none
  else combine (← parts.mapM number?) 4

def text (address : Nat) : String :=
  String.intercalate "." <| [3, 2, 1, 0].map fun i => toString (address / Nat.pow 256 i % 256)

end Ipv4

/-! ## Eight numbers -/

namespace Ipv6

def hexDigit? (c : Char) : Option Nat := Ipv4.digitIn? 16 c

/-- At most `limit` digits off the front. -/
def takeHex (limit value : Nat) : List Char → Nat × List Char
  | [] => (value, [])
  | c :: rest =>
    match limit, hexDigit? c with
    | limit + 1, some d => takeHex limit (value * 16 + d) rest
    | _, _ => (value, c :: rest)

/-- A decimal byte without leading zeros. -/
def takeByte (value : Option Nat) : List Char → Option (Nat × List Char)
  | [] => value.map (·, [])
  | c :: rest =>
    if c.isDigit then
      let d := c.toNat - 48
      match value with
      | none => takeByte (some d) rest
      | some 0 => none
      | some v => if v * 10 + d ≤ 255 then takeByte (some (v * 10 + d)) rest else none
    else value.map (·, c :: rest)

/-- Four decimal bytes to the end, as two pieces. -/
def dotted? (s : List Char) : Option (List Nat) := do
  let (a, s) ← takeByte none s
  let (b, s) ← afterDot s
  let (c, s) ← afterDot s
  let (d, s) ← afterDot s
  if s.isEmpty then some [a * 256 + b, c * 256 + d] else none
where
  afterDot : List Char → Option (Nat × List Char)
    | '.' :: s => takeByte none s
    | _ => none

/-- Pieces before the gap, and those behind it if there is one. -/
structure Pieces where
  before : List Nat
  behind : Option (List Nat)

/-- The gap counts as a piece. -/
def Pieces.count (p : Pieces) : Nat :=
  p.before.length + match p.behind with
    | none => 0
    | some behind => behind.length + 1

def Pieces.add (p : Pieces) (pieces : List Nat) : Pieces :=
  match p.behind with
  | none => { p with before := p.before ++ pieces }
  | some behind => { p with behind := some (behind ++ pieces) }

def Pieces.complete? (p : Pieces) : Option (List Nat) :=
  match p.behind with
  | none => if p.before.length = 8 then some p.before else none
  | some behind =>
    if p.before.length + behind.length ≤ 8 then
      some (p.before ++ List.replicate (8 - p.before.length - behind.length) 0 ++ behind)
    else none

/-- Takes pieces off the front; there are at most as many steps as characters. -/
def takePieces : Nat → Pieces → List Char → Option Pieces
  | _, p, [] => some p
  | 0, _, _ => none
  | fuel + 1, p, c :: rest =>
    if p.count = 8 then none
    else if c = ':' then
      if p.behind.isSome then none else takePieces fuel { p with behind := some [] } rest
    else
      let (value, after) := takeHex 4 0 (c :: rest)
      match after with
      | [] => takePieces fuel (p.add [value]) []
      | '.' :: _ =>
        if after.length = rest.length + 1 ∨ 6 < p.count then none
        else (dotted? (c :: rest)).map p.add
      | ':' :: next => if next.isEmpty then none else takePieces fuel (p.add [value]) next
      | _ => none

def parse? (s : List Char) : Option (List Nat) :=
  let pieces :=
    match s with
    | ':' :: ':' :: rest => takePieces rest.length ⟨[], some []⟩ rest
    | ':' :: _ | [] | [_] => none
    | _ => takePieces s.length ⟨[], none⟩ s
  pieces.bind Pieces.complete?

/-- Start and length of the longest run of zeros, the first of equally long ones. -/
def longestRun (pieces : List Nat) : Nat × Nat :=
  (List.range pieces.length).foldl
    (fun (start, length) i =>
      let here := ((pieces.drop i).takeWhile (· == 0)).length
      if length < here then (i, here) else (start, length))
    (0, 0)

def join (pieces : List Nat) : List Char :=
  List.intercalate [':'] (pieces.map Hex.ofNat)

/-- The longest run of at least two zeros is left out. -/
def text (pieces : List Nat) : String :=
  let (start, length) := longestRun pieces
  String.ofList <|
    if length < 2 then join pieces
    else join (pieces.take start) ++ [':', ':'] ++ join (pieces.drop (start + length))

end Ipv6

end Sidecar.Url
