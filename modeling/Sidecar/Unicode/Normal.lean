import Sidecar.Unicode.Composition

/-!
# Composed text

A letter and the marks behind it are one character wherever there is such a character.  Marks stand
in the order of their classes, since marks of different classes do not touch.
-/

namespace Sidecar.Unicode

/-- Zero unless the character is a mark whose order counts. -/
def combiningClass (c : Char) : Nat :=
  match combiningRuns.find? fun (first, last, _) => first ≤ c.toNat && c.toNat ≤ last with
  | some (_, _, number) => number
  | none => 0

/-! ## Two characters and the one they become -/

namespace Hangul

/-- Syllables are in the order of their leads, then of their vowels, then of their tails, of which the
first is none. -/
def isSyllable (c : Char) : Bool := 0xAC00 ≤ c.toNat && c.toNat < 0xD7A4

def join? (front back : Char) : Option Char :=
  if 0x1100 ≤ front.toNat && front.toNat < 0x1113 && 0x1161 ≤ back.toNat && back.toNat < 0x1176 then
    some (Char.ofNat (0xAC00 + ((front.toNat - 0x1100) * 21 + (back.toNat - 0x1161)) * 28))
  else if isSyllable front && (front.toNat - 0xAC00) % 28 == 0 &&
      0x11A7 < back.toNat && back.toNat < 0x11C3 then
    some (Char.ofNat (front.toNat + (back.toNat - 0x11A7)))
  else none

def split? (c : Char) : Option (Char × Char) :=
  if isSyllable c then
    let number := c.toNat - 0xAC00
    if number % 28 = 0 then
      some (Char.ofNat (0x1100 + number / 588), Char.ofNat (0x1161 + number / 28 % 21))
    else some (Char.ofNat (c.toNat - number % 28), Char.ofNat (0x11A7 + number % 28))
  else none

end Hangul

def pairs : List Char → List (Char × Char)
  | front :: whole :: rest => (front, whole) :: pairs rest
  | _ => []

def join? (front back : Char) : Option Char :=
  Hangul.join? front back <|>
    (compositions.filter (·.1 == back.toNat)).findSome? fun (_, row) =>
      (pairs row.toList).lookup front

def split? (c : Char) : Option (Char × Char) :=
  Hangul.split? c <|>
    compositions.findSome? fun (back, row) =>
      ((pairs row.toList).find? (·.2 == c)).map fun (front, _) => (front, Char.ofNat back)

/-! ## Texts -/

/-- At most `fuel` characters are split off. -/
def splitOff : (fuel : Nat) → Char → List Char
  | 0, c => [c]
  | fuel + 1, c =>
    match split? c with
    | none => [c]
    | some (front, back) => splitOff fuel front ++ [back]

/-- No character holds more than three marks. -/
def decompose (s : List Char) : List Char := s.flatMap (splitOff 3)

/-- Puts a character behind the marks of smaller classes. -/
def sink (c : Char) : List Char → List Char
  | [] => [c]
  | d :: rest =>
    if 0 < combiningClass d ∧ combiningClass d < combiningClass c then d :: sink c rest
    else c :: d :: rest

def sortMarks : List Char → List Char
  | [] => []
  | c :: rest => sink c (sortMarks rest)

/-- A mark is out of reach behind one of its own class; `passed` are the marks that were not joined,
last one first. -/
def joinBehind (c : Char) (passed : List Char) : List Char → List Char
  | [] => c :: passed.reverse
  | d :: rest =>
    let isReached := match passed with
      | [] => true
      | mark :: _ => combiningClass mark < combiningClass d
    match if isReached then join? c d else none with
    | some whole => joinBehind whole passed rest
    | none =>
      if combiningClass d = 0 then c :: passed.reverse ++ joinBehind d [] rest
      else joinBehind c (d :: passed) rest

def compose (s : List Char) : List Char :=
  match sortMarks (decompose s) with
  | [] => []
  | c :: rest => joinBehind c [] rest

end Sidecar.Unicode
