/-!
# Finite doubles

A finite double is a sign, a mantissa and a power of two.  Mantissas are below `2^53`, and at least
`2^52` unless the exponent is the least one.  Arithmetic rounds the exact result to the nearest
double, a tie going to the even mantissa.
-/

namespace Sidecar

structure Binary64 where
  negative : Bool
  mantissa : Nat
  exponent : Int
deriving DecidableEq, Repr

namespace Binary64

def leastExponent : Int := -1074

def greatestExponent : Int := 971

/-- `2^52`, the least mantissa at exponents above the least one. -/
def leastNormal : Nat := 4503599627370496

def zero (negative : Bool) : Binary64 := ⟨negative, 0, leastExponent⟩

/-- The quotient rounded to the nearest natural number, a tie going to the even one. -/
def roundDiv (num den : Nat) : Nat :=
  let quotient := num / den
  let rest := num % den
  if 2 * rest < den then quotient
  else if den < 2 * rest then quotient + 1
  else quotient + quotient % 2

/-- The exponent of the greatest power of two that is at most `num / den`. -/
def floorLog2 (num den : Nat) : Int :=
  let guess : Int := (num.log2 : Int) - den.log2
  if den * Nat.pow 2 guess.toNat ≤ num * Nat.pow 2 (-guess).toNat then guess else guess - 1

/-- The double nearest to `num / den`, or `none` if that is beyond the greatest one. -/
def ofRatio? (negative : Bool) (num den : Nat) : Option Binary64 :=
  if num = 0 then some (zero negative)
  else
    let exponent := max (floorLog2 num den - 52) leastExponent
    let mantissa := roundDiv (num * Nat.pow 2 (-exponent).toNat) (den * Nat.pow 2 exponent.toNat)
    let (mantissa, exponent) :=
      if mantissa = 2 * leastNormal then (leastNormal, exponent + 1) else (mantissa, exponent)
    if exponent ≤ greatestExponent then some ⟨negative, mantissa, exponent⟩ else none

def numerator (x : Binary64) : Nat := x.mantissa * Nat.pow 2 x.exponent.toNat

def denominator (x : Binary64) : Nat := Nat.pow 2 (-x.exponent).toNat

def mul? (x y : Binary64) : Option Binary64 :=
  ofRatio? (x.negative != y.negative) (x.numerator * y.numerator) (x.denominator * y.denominator)

def div? (x y : Binary64) : Option Binary64 :=
  ofRatio? (x.negative != y.negative) (x.numerator * y.denominator) (x.denominator * y.numerator)

/-- The double nearest to a natural number. -/
def ofNat? (negative : Bool) (n : Nat) : Option Binary64 := ofRatio? negative n 1

def powerOfTen? (k : Nat) : Option Binary64 := ofNat? false (Nat.pow 10 k)

/-- Division by `10^k`, for `k` above 308 in two steps. -/
def shrink (x : Binary64) (k : Nat) : Option Binary64 := do
  if k ≤ 308 then x.div? (← powerOfTen? k)
  else
    let y ← x.div? (← powerOfTen? 308)
    if k - 308 ≤ 308 then y.div? (← powerOfTen? (k - 308)) else some (zero x.negative)

/-- A decimal in scientific notation: the significand is rounded to a double first, and the product
or quotient with the rounded power of ten once more. -/
def ofScientific? (negative : Bool) (significand : Nat) (exponent : Int) : Option Binary64 := do
  let x ← ofNat? negative significand
  if x.mantissa = 0 then some x
  else if exponent < 0 then shrink x (-exponent).toNat
  else if exponent ≤ 308 then x.mul? (← powerOfTen? exponent.toNat)
  else none

/-- Equality as numbers: the two zeros are equal. -/
def same (x y : Binary64) : Bool :=
  x == y || (x.mantissa == 0 && y.mantissa == 0)

end Binary64

end Sidecar
