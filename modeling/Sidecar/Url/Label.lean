import Sidecar.Text.Pieces
import Sidecar.Unicode.Direction
import Sidecar.Unicode.Folded
import Sidecar.Unicode.Normal
import Sidecar.Url.Punycode

/-!
# Labels of a domain

A label with characters beyond ASCII is written in Punycode behind a mark.  Only folded and composed
text has such a form.
-/

namespace Sidecar.Url.Label

open Sidecar.Unicode

/-! ## ASCII form -/

def asciiMark : List Char := ['x', 'n', '-', '-']

def toAscii (label : List Char) : List Char :=
  if label.all Punycode.isBasic then label else asciiMark ++ Punycode.encode label

def isFolded (label : List Char) : Bool :=
  label.all (fun c => foldChar? c == some [c]) && compose label == label

/-- The label that is shown; a mark in front of nothing but ASCII is refused. -/
def ofAscii? (label : List Char) : Option (List Char) :=
  match Text.stripFront? asciiMark label with
  | none => some label
  | some written => do
    let shown ← Punycode.decode? written
    if shown.all Punycode.isBasic || !isFolded shown then none else some shown

/-! ## Joiners -/

/-- Whether the nearest letter joins towards this side. -/
def joins (oneSided : Ranges) (s : List Char) : Bool :=
  match s.dropWhile nonspacingRanges.contains with
  | [] => false
  | c :: _ => dualJoiningRanges.contains c || oneSided.contains c

def endsInVirama (before : List Char) : Bool :=
  match before with
  | [] => false
  | c :: _ => combiningClass c == 9

/-- Either joiner may follow a virama, and the one that keeps letters apart may stand between
letters that would join.  `before` is what precedes the text, last character first. -/
def joinersFit (before : List Char) : List Char → Bool
  | [] => true
  | c :: after =>
    (if c = '\u200c' then
      endsInVirama before || joins leftJoiningRanges before && joins rightJoiningRanges after
    else c != '\u200d' || endsInVirama before) && joinersFit (c :: before) after

/-! ## Direction -/

inductive Direction where
  | leftToRight
  | rightToLeft
  | europeanNumber
  | arabicNumber
  | neutral
  | mark
  deriving DecidableEq

def direction (c : Char) : Direction :=
  if rightToLeftRanges.contains c then .rightToLeft
  else if arabicNumberRanges.contains c then .arabicNumber
  else if europeanNumberRanges.contains c then .europeanNumber
  else if neutralRanges.contains c then .neutral
  else if nonspacingRanges.contains c then .mark
  else .leftToRight

/-- Whether the label makes its domain one that is written in both directions. -/
def turns (label : List Char) : Bool :=
  label.any fun c => direction c == .rightToLeft || direction c == .arabicNumber

/-- In a domain with both directions a label keeps to the direction of its first letter and ends in
a letter of that direction or a number. -/
def keepsDirection (label : List Char) : Bool :=
  let directions := label.map direction
  match directions, directions.reverse.dropWhile (· == .mark) with
  | .leftToRight :: _, last :: _ =>
    directions.all (fun d => d != .rightToLeft && d != .arabicNumber) &&
      (last == .leftToRight || last == .europeanNumber)
  | .rightToLeft :: _, last :: _ =>
    directions.all (· != .leftToRight) &&
      !(directions.contains .arabicNumber && directions.contains .europeanNumber) &&
      (last == .rightToLeft || last == .europeanNumber || last == .arabicNumber)
  | [], _ => true
  | _, _ => false

/-! ## Valid labels -/

def startsWithMark : List Char → Bool
  | [] => false
  | c :: _ => nonspacingRanges.contains c || spacingMarkRanges.contains c

def isValid (label : List Char) : Bool := !startsWithMark label && joinersFit [] label

end Sidecar.Url.Label
