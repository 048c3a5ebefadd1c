/-! # Cutting text at a delimiter -/

namespace Sidecar.Text

/-- What stands before and after the first delimiter. -/
def cutOnce (delimiter : Char) : List Char → Option (List Char × List Char)
  | [] => none
  | c :: rest =>
    if c = delimiter then some ([], rest)
    else (cutOnce delimiter rest).map fun (before, after) => (c :: before, after)

/-- All pieces between delimiters; there is one more piece than there are delimiters. -/
def pieces (delimiter : Char) : List Char → List (List Char)
  | [] => [[]]
  | c :: rest =>
    if c = delimiter then [] :: pieces delimiter rest
    else match pieces delimiter rest with
      | [] => [[c]]
      | piece :: more => (c :: piece) :: more

/-- What follows the first `n` delimiters; nothing if there are fewer. -/
def dropPieces (delimiter : Char) : Nat → List Char → List Char
  | 0, s => s
  | n + 1, s => match cutOnce delimiter s with
    | none => []
    | some (_, after) => dropPieces delimiter n after

/-- Without the delimiters around it. -/
def trim (delimiter : Char) (s : List Char) : List Char :=
  ((s.dropWhile (· == delimiter)).reverse.dropWhile (· == delimiter)).reverse

/-- What follows `front`, if the list starts with it. -/
def stripFront? [DecidableEq α] : List α → List α → Option (List α)
  | [], s => some s
  | _ :: _, [] => none
  | p :: front, c :: s => if p = c then stripFront? front s else none

def cutText (delimiter : Char) (s : String) : Option (String × String) :=
  (cutOnce delimiter s.toList).map fun (before, after) =>
    (String.ofList before, String.ofList after)

def textPieces (delimiter : Char) (s : String) : List String :=
  (pieces delimiter s.toList).map String.ofList

end Sidecar.Text
