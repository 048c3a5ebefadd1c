/-!
# Punycode

The characters of a label that are not ASCII are written behind the others as numbers: how far to
move on in the list of all positions and code points to the next insertion.  Each number has as many
digits in base 36 as it needs, and how soon it may end adapts to the numbers before it.
-/

namespace Sidecar.Url.Punycode

def digitChar (d : Nat) : Char :=
  Char.ofNat (if d < 26 then 97 + d else 22 + d)

def digitValue? (c : Char) : Option Nat :=
  if 'a' ≤ c ∧ c ≤ 'z' then some (c.toNat - 97)
  else if '0' ≤ c ∧ c ≤ '9' then some (c.toNat - 22)
  else none

/-- A digit below the threshold is the last of its number. -/
def threshold (position bias : Nat) : Nat := min 26 (max 1 (position - bias))

theorem threshold_pos (position bias : Nat) : 0 < threshold position bias := by
  unfold threshold; omega

/-- The digits of a number, least significant first. -/
def digits (bias position n : Nat) : List Char :=
  let t := threshold position bias
  if n < t then [digitChar n]
  else digitChar (t + (n - t) % (36 - t)) :: digits bias (position + 36) ((n - t) / (36 - t))
termination_by n
decreasing_by
  have := threshold_pos position bias
  have := Nat.div_le_self (n - threshold position bias) (36 - threshold position bias)
  omega

def scaleDown (delta bias : Nat) : Nat :=
  if 455 < delta then scaleDown (delta / 35) (bias + 36) else bias + 36 * delta / (delta + 38)
termination_by delta

/-- The bias behind a number, `count` characters being placed. -/
def adapt (delta count : Nat) (first : Bool) : Nat :=
  let delta := if first then delta / 700 else delta / 2
  scaleDown (delta + delta / count) 0

def firstBias : Nat := 72

def isBasic (c : Char) : Bool := c.toNat < 0x80

/-! ## Encoding -/

structure Encoder where
  /-- Code points from here on are not placed. -/
  next : Nat
  delta : Nat
  bias : Nat
  count : Nat
  out : List Char

def Encoder.visit (basic point : Nat) (e : Encoder) (c : Char) : Encoder :=
  if c.toNat < point then { e with delta := e.delta + 1 }
  else if c.toNat = point then
    { e with
      delta := 0
      bias := adapt e.delta (e.count + 1) (e.count == basic)
      count := e.count + 1
      out := e.out ++ digits e.bias 36 e.delta }
  else e

/-- Places all occurrences of a code point. -/
def Encoder.place (label : List Char) (basic : Nat) (e : Encoder) (point : Nat) : Encoder :=
  let e := { e with delta := e.delta + (point - e.next) * (e.count + 1) }
  let e := label.foldl (Encoder.visit basic point) e
  { e with next := point + 1, delta := e.delta + 1 }

def encode (label : List Char) : List Char :=
  let basic := label.filter isBasic
  let points := ((label.filter (!isBasic ·)).map Char.toNat).mergeSort.eraseDups
  let front := if basic.isEmpty then [] else basic ++ ['-']
  let start : Encoder := ⟨0x80, 0, firstBias, basic.length, []⟩
  front ++ (points.foldl (Encoder.place label basic.length) start).out

/-! ## Decoding -/

/-- The greatest number that is read. -/
def greatest : Nat := 4294967295

/-- Takes a number off the front. -/
def takeNumber (bias position weight n : Nat) : List Char → Option (Nat × List Char)
  | [] => none
  | c :: rest => do
    let d ← digitValue? c
    let n := n + d * weight
    if greatest < n then none
    else
      let t := threshold position bias
      if d < t then some (n, rest) else takeNumber bias (position + 36) (weight * (36 - t)) n rest

/-- Places the code points of the remaining numbers, each of which has at least one digit. -/
def insertPoints : Nat → (point index bias : Nat) → List Char → List Char → Option (List Char)
  | _, _, _, _, placed, [] => some placed
  | 0, _, _, _, _, _ => none
  | fuel + 1, point, index, bias, placed, rest => do
    let (moved, rest) ← takeNumber bias 36 1 0 rest
    let count := placed.length + 1
    let point := point + (index + moved) / count
    let place := (index + moved) % count
    if h : point.isValidChar then
      let placed := placed.take place ++ Char.ofNatAux point h :: placed.drop place
      insertPoints fuel point (place + 1) (adapt moved count (index == 0)) placed rest
    else none

def decode? (s : List Char) : Option (List Char) :=
  let behind := (s.reverse.takeWhile (· != '-')).reverse
  let front := s.take (s.length - behind.length)
  let placed := front.dropLast
  if front = ['-'] ∨ !placed.all isBasic then none
  else insertPoints behind.length 0x80 0 firstBias placed behind

end Sidecar.Url.Punycode
