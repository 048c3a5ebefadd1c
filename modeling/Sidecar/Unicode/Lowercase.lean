import Sidecar.Unicode.Case

/-!
# Lowercase of a whole text

Every character is mapped on its own, except for the capital sigma, which becomes the final sigma at
the end of a word.
-/

namespace Sidecar.Unicode

def isCased (c : Char) : Bool := casedRanges.contains c

def isCaseIgnorable (c : Char) : Bool := caseIgnorableRanges.contains c

/-- Only the dotted capital I has a lowercase of two characters. -/
def lowercaseChar (c : Char) : List Char :=
  if c.toNat < 0x80 then [c.toLower]
  else if c = 'İ' then ['i', '\u0307']
  else
    match lowercaseRuns.find? fun (first, last, stride, _) =>
        first ≤ c.toNat && c.toNat ≤ last && (c.toNat - first) % stride == 0 with
    | some (_, _, _, shift) => [Char.ofNat (c.toNat + shift).toNat]
    | none => [c]

/-- Whether the first character that is not ignored is a letter with case. -/
def meetsCased (s : List Char) : Bool :=
  match s.dropWhile isCaseIgnorable with
  | [] => false
  | c :: _ => isCased c

/-- `before` is what precedes the text, last character first. -/
def lowercaseAfter (before : List Char) : List Char → List Char
  | [] => []
  | c :: after =>
    let lower :=
      if c = 'Σ' then [if meetsCased before && !meetsCased after then 'ς' else 'σ']
      else lowercaseChar c
    lower ++ lowercaseAfter (c :: before) after

def lowercase (s : String) : String :=
  String.ofList (lowercaseAfter [] s.toList)

end Sidecar.Unicode
