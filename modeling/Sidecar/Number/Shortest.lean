import Sidecar.Number.Binary64

/-!
# The shortest decimal of a double

Of all decimals that round to the double, those with the fewest digits, and of these the nearest
one; between two equally near ones, the even one.  The interval of the reals that round to the
double contains its ends if and only if the mantissa is even.
-/

namespace Sidecar.Shortest

/-- `digits * 10^exponent`. -/
structure Decimal where
  digits : Nat
  exponent : Int
deriving DecidableEq, Repr

/-- The double and the ends of its interval, in quarters of its last place. -/
structure Interval where
  value : Nat
  low : Nat
  high : Nat
  closed : Bool
  /-- Exponent of the power of two that a quarter is. -/
  unit : Int

def interval (x : Binary64) : Interval where
  value := 4 * x.mantissa
  low :=
    if x.mantissa = Binary64.leastNormal ∧ Binary64.leastExponent < x.exponent then
      4 * x.mantissa - 1
    else 4 * x.mantissa - 2
  high := 4 * x.mantissa + 2
  closed := x.mantissa % 2 == 0
  unit := x.exponent - 2

/-- The multiple of `10^exponent` in the interval that is nearest to the double. -/
def onGrid? (i : Interval) (exponent : Int) : Option Nat :=
  let scale := Nat.pow 2 i.unit.toNat * Nat.pow 10 (-exponent).toNat
  let step := Nat.pow 2 (-i.unit).toNat * Nat.pow 10 exponent.toNat
  let value := i.value * scale
  let inside (n : Nat) : Bool :=
    0 < n && (if i.closed then i.low * scale ≤ n * step && n * step ≤ i.high * scale
      else i.low * scale < n * step && n * step < i.high * scale)
  let below := value / step
  let above := below + 1
  match inside below, inside above with
  | false, false => none
  | true, false => some below
  | false, true => some above
  | true, true =>
    let down := value - below * step
    let up := above * step - value
    if down < up then some below
    else if up < down then some above
    else some (if below % 2 = 0 then below else above)

/-- The first grid with a hit, from coarse to fine. -/
def search (i : Interval) : Nat → Int → Decimal
  | 0, exponent => ⟨0, exponent⟩
  | fuel + 1, exponent =>
    match onGrid? i exponent with
    | some digits => ⟨digits, exponent⟩
    | none => search i fuel (exponent - 1)

/-- Seventeen digits always suffice, so the search starts above the leading digit and takes at most
a few more steps than that. -/
def decimal (x : Binary64) : Decimal :=
  if x.mantissa = 0 then ⟨0, 0⟩
  else search (interval x) 24 (((x.mantissa.log2 : Int) + x.exponent + 1) * 30103 / 100000 + 1)

end Sidecar.Shortest
