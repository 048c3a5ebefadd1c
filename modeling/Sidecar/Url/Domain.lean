import Sidecar.Text.Utf8
import Sidecar.Url.Label
import Sidecar.Url.Percent

/-! # International domain names -/

namespace Sidecar.Url.Domain

/-- ASCII characters that no domain holds. -/
def isForbidden (c : Char) : Bool :=
  EscapeSet.control c || c == ' ' || c == '#' || c == '%' || c == '/' || c == ':' || c == '<' ||
    c == '>' || c == '?' || c == '@' || c == '[' || c == '\\' || c == ']' || c == '^' || c == '|'

/-- Folded and composed text; a full stop of any script parts the labels. -/
def labels? (s : List Char) : Option (List (List Char)) := do
  let folded := Unicode.compose (← s.mapM Unicode.foldChar?).flatten
  if folded.any isForbidden then none else some (Text.pieces '.' folded)

/-- The ASCII form of a domain, whose bytes are no longer escaped. -/
def toAscii? (domain : Bytes) : Option String := do
  let labels ← labels? (← Text.Utf8.decode? domain)
  let shown ← labels.mapM Label.ofAscii?
  if shown.all Label.isValid && (!shown.any Label.turns || shown.all Label.keepsDirection) then
    some (String.ofList (List.intercalate ['.'] (labels.map Label.toAscii)))
  else none

end Sidecar.Url.Domain
