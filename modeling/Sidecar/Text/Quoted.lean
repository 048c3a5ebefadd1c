import Sidecar.Bytes
import Sidecar.Unicode.Display

/-!
# Quoted text in messages

Quotes and backslashes are escaped, and so is all that would not show as a character of its own.
-/

namespace Sidecar.Text.Quoted

open Sidecar.Unicode

def isShown (c : Char) : Bool :=
  if c.toNat < 0x80 then 0x20 ≤ c.toNat && c.toNat < 0x7F
  else !graphemeExtendRanges.contains c && !hiddenRanges.contains c

def escapeChar (c : Char) : List Char :=
  if c = '\x00' then ['\\', '0']
  else if c = '\t' then ['\\', 't']
  else if c = '\r' then ['\\', 'r']
  else if c = '\n' then ['\\', 'n']
  else if c = '\\' || c = '"' then ['\\', c]
  else if isShown c then [c]
  else ['\\', 'u', '\x7b'] ++ Hex.ofNat c.toNat ++ ['\x7d']

def encode (s : String) : String :=
  String.ofList (['"'] ++ s.toList.flatMap escapeChar ++ ['"'])

end Sidecar.Text.Quoted
