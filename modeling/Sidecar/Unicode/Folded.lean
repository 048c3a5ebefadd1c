import Sidecar.Text.Pieces
import Sidecar.Unicode.Display
import Sidecar.Unicode.Folding
import Sidecar.Unicode.Lowercase

/-!
# Folded characters

Characters that look alike or differ in case fold to the same characters.
-/

namespace Sidecar.Unicode

/-- Letters and joiners that fold to nothing else, although they are lost in other foldings. -/
def isKept (c : Char) : Bool :=
  c == 'ß' || c == 'ς' || c == '\u200c' || c == '\u200d'

/-- Nothing if the character has no place in folded text. -/
def foldChar? (c : Char) : Option (List Char) :=
  if isKept c then some [c]
  else if ignoredRanges.contains c then some []
  else if refusedRanges.contains c then none
  else
    match foldBlocks.find? fun (first, last, _) => first ≤ c.toNat && c.toNat ≤ last with
    | some (first, _, images) =>
      some ((Text.pieces imageDelimiter images.toList).getD (c.toNat - first) [])
    | none =>
      match foldRuns.find? fun (first, last, stride, _) =>
          first ≤ c.toNat && c.toNat ≤ last && (c.toNat - first) % stride == 0 with
      | some (_, _, _, shift) => some [Char.ofNat (c.toNat + shift).toNat]
      | none =>
        if 0x80 ≤ c.toNat && hiddenRanges.contains c then none else some (lowercaseChar c)

end Sidecar.Unicode
