/-! # Bytes and hexadecimal digits -/

namespace Sidecar

/-- The content of a stored item, of a header value or of a message body. -/
abbrev Bytes := List UInt8

namespace Hex

def lowerDigit (n : Nat) : Char :=
  if n < 10 then Char.ofNat (48 + n) else Char.ofNat (87 + n)

def upperDigit (n : Nat) : Char :=
  if n < 10 then Char.ofNat (48 + n) else Char.ofNat (55 + n)

/-- The value of a hexadecimal digit of either case. -/
def value? (b : UInt8) : Option Nat :=
  if 48 ≤ b ∧ b ≤ 57 then some (b.toNat - 48)
  else if 97 ≤ b ∧ b ≤ 102 then some (b.toNat - 87)
  else if 65 ≤ b ∧ b ≤ 70 then some (b.toNat - 55)
  else none

/-- Two lowercase digits a byte. -/
def ofBytes (bs : Bytes) : List Char :=
  bs.flatMap fun b => [lowerDigit (b.toNat / 16), lowerDigit (b.toNat % 16)]

/-- Lowercase digits without leading zeros. -/
def ofNat (n : Nat) : List Char :=
  Nat.toDigits 16 n

end Hex

end Sidecar
