import BeanMetrics.Binary64.Basic

/-!
The shortest decimal that reads back to the same pattern. The decimals that do are those of the
interval halfway to the two neighbouring patterns, its ends included when the significand is even.
Going from coarse powers of ten to fine ones, the first grid with a point in the interval is taken;
of two such points the nearer one, and the upper one when they are equally near.
-/

namespace BeanMetrics
namespace Binary64

/-- A decimal number `digits * 10 ^ exponent`. -/
structure Decimal where
  digits : Nat
  exponent : Int
  deriving DecidableEq, Repr

/-- The numbers that round to one pattern, as multiples of a quarter of its last place:
`low`, `value` and `high` stand for `· * num / den`. -/
structure RoundingInterval where
  low : Nat
  value : Nat
  high : Nat
  closed : Bool
  num : Nat
  den : Nat

/-- The interval of `significand * 2 ^ exponent`. Below a power of two the gap is half as wide. -/
def RoundingInterval.of (significand : Nat) (exponent : Int) : RoundingInterval :=
  let quarter := exponent - 2
  { low := if significand = Nat.pow 2 52 ∧ -1074 < exponent then 4 * significand - 1
           else 4 * significand - 2
    value := 4 * significand
    high := 4 * significand + 2
    closed := significand % 2 = 0
    num := Nat.pow 2 quarter.toNat
    den := Nat.pow 2 (-quarter).toNat }

/-- The point of the grid of multiples of `10 ^ exponent` that stands for the interval. -/
def RoundingInterval.pointOn? (i : RoundingInterval) (exponent : Int) : Option Decimal :=
  let num := i.num * Nat.pow 10 (-exponent).toNat
  let den := i.den * Nat.pow 10 exponent.toNat
  let below := i.value * num / den
  let above := below + 1
  let admits (n d : Nat) : Bool := if i.closed then n ≤ d else n < d
  let belowOk := admits (i.low * num) (below * den)
  let aboveOk := admits (above * den) (i.high * num)
  let aboveNearer : Bool := above * den - i.value * num ≤ i.value * num - below * den
  if aboveOk && (aboveNearer || !belowOk) then some ⟨above, exponent⟩
  else if belowOk then some ⟨below, exponent⟩
  else none

/-- A power of ten that exceeds `significand * 2 ^ exponent`. -/
def decimalBound (significand : Nat) (exponent : Int) : Int :=
  ((significand.log2 : Int) + exponent + 1) * 30103 / 100000 + 2

/-- The shortest decimal of a finite pattern that is not zero. Seventeen digits always suffice,
and the search starts at most four grids above the first of them. -/
def shortest (significand : Nat) (exponent : Int) : Decimal :=
  let interval := RoundingInterval.of significand exponent
  let bound := decimalBound significand exponent
  ((List.range 24).findSome? fun (i : Nat) => interval.pointOn? (bound - i)).getD ⟨0, 0⟩

end Binary64
end BeanMetrics
