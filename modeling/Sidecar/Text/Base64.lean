import Sidecar.Bytes

/-! # Base 64 -/

namespace Sidecar.Text.Base64

def digit (n : Nat) : Char :=
  Char.ofNat <|
    if n < 26 then 65 + n
    else if n < 52 then 71 + n
    else if n < 62 then n - 4
    else if n = 62 then 43
    else 47

/-- Three bytes as four digits. -/
def group (a b c : Nat) : List Char :=
  let n := a * 65536 + b * 256 + c
  [digit (n / 262144), digit (n / 4096 % 64), digit (n / 64 % 64), digit (n % 64)]

/-- Padded to whole groups. -/
def encode : Bytes → List Char
  | [] => []
  | [a] => (group a.toNat 0 0).take 2 ++ ['=', '=']
  | [a, b] => (group a.toNat b.toNat 0).take 3 ++ ['=']
  | a :: b :: c :: rest => group a.toNat b.toNat c.toNat ++ encode rest

end Sidecar.Text.Base64
