/-!
Numbers in the 64-bit binary interchange format: one sign bit, eleven exponent bits, fifty-two
fraction bits. A number is its bit pattern, so equality is decidable and every operation is
exact arithmetic on naturals followed by one rounding to the nearest pattern, a half going to the
even neighbour.
-/

namespace BeanMetrics

/-- A number of the format, not-a-number patterns and both zeros included. -/
structure Binary64 where
  bits : UInt64
  deriving DecidableEq, Inhabited, Repr

namespace Binary64

/-- What a pattern says without its sign. A finite pattern is `significand * 2 ^ exponent`. -/
inductive Magnitude where
  | notANumber
  | infinite
  | finite (significand : Nat) (exponent : Int)
  deriving DecidableEq, Repr

def isNegative (x : Binary64) : Bool := decide (Nat.pow 2 63 ≤ x.bits.toNat)

def exponentField (x : Binary64) : Nat := x.bits.toNat / Nat.pow 2 52 % Nat.pow 2 11

def fractionField (x : Binary64) : Nat := x.bits.toNat % Nat.pow 2 52

/-- The pattern without its sign bit, as a number: on finite patterns it grows with the absolute
value. -/
def magnitudeBits (x : Binary64) : Nat := x.bits.toNat % Nat.pow 2 63

def magnitude (x : Binary64) : Magnitude :=
  if x.exponentField = 2047 then
    if x.fractionField = 0 then .infinite else .notANumber
  else if x.exponentField = 0 then .finite x.fractionField (-1074)
  else .finite (Nat.pow 2 52 + x.fractionField) ((x.exponentField : Int) - 1075)

def isNaN (x : Binary64) : Bool := x.magnitude = .notANumber

def isInfinite (x : Binary64) : Bool := x.magnitude = .infinite

/-- The pattern with the given sign and the given bits below it. -/
def pack (negative : Bool) (magnitudeBits : Nat) : Binary64 :=
  ⟨UInt64.ofNat (if negative then Nat.pow 2 63 + magnitudeBits else magnitudeBits)⟩

def zero : Binary64 := pack false 0

def infinity (negative : Bool) : Binary64 := pack negative (2047 * Nat.pow 2 52)

def quietNaN (negative : Bool) : Binary64 := pack negative (2047 * Nat.pow 2 52 + Nat.pow 2 51)

/-- The quotient rounded to a whole number, a half to the even neighbour. -/
def roundHalfEven (num den : Nat) : Nat :=
  let whole := num / den
  let rest := num % den
  if den < 2 * rest ∨ (2 * rest = den ∧ whole % 2 = 1) then whole + 1 else whole

/-- The fraction `num / den / 2 ^ exponent`, as numerator and denominator. -/
def scaleDown (num den : Nat) (exponent : Int) : Nat × Nat :=
  (num * Nat.pow 2 (-exponent).toNat, den * Nat.pow 2 exponent.toNat)

/-- The exponent at which `num / den` has a significand of fifty-three bits, but never below the
exponent of the smallest patterns. -/
def exponentFor (num den : Nat) : Int :=
  let guess : Int := (num.log2 : Int) - (den.log2 : Int) - 52
  let (n, d) := scaleDown num den guess
  max (-1074) (if n < Nat.pow 2 52 * d then guess - 1 else guess)

/-- The pattern nearest to `± num / den`. -/
def ofRatio (negative : Bool) (num den : Nat) : Binary64 :=
  let exponent := exponentFor num den
  let (n, d) := scaleDown num den exponent
  let significand := roundHalfEven n d
  let field :=
    if significand < Nat.pow 2 52 then significand
    else (exponent + 1075).toNat * Nat.pow 2 52 + (significand - Nat.pow 2 52)
  pack negative (min field (2047 * Nat.pow 2 52))

def ofNat (n : Nat) : Binary64 := ofRatio false n 1

def one : Binary64 := ofNat 1

def ofInt : Int → Binary64
  | .ofNat n => ofNat n
  | .negSucc n => ofRatio true (n + 1) 1

/-- The absolute value of a finite pattern as numerator and denominator; zero for the others. -/
def absRatio (x : Binary64) : Nat × Nat :=
  match x.magnitude with
  | .finite significand exponent =>
    (significand * Nat.pow 2 exponent.toNat, Nat.pow 2 (-exponent).toNat)
  | _ => (0, 1)

/-- The sum of two patterns that are finite and not negative. -/
def addNonneg (x y : Binary64) : Binary64 :=
  let (n, d) := x.absRatio
  let (n', d') := y.absRatio
  ofRatio false (n * d' + n' * d) (d * d')

/-- `± digits * 10 ^ exponent`, rounded. Powers of ten far outside the format's range are not
computed. -/
def ofDecimal (negative : Bool) (digits : Nat) (exponent : Int) : Binary64 :=
  let leading := exponent + ((Nat.toDigits 10 digits).length : Int)
  if digits = 0 ∨ leading < -400 then pack negative 0
  else if 400 < leading then infinity negative
  else ofRatio negative (digits * Nat.pow 10 exponent.toNat) (Nat.pow 10 (-exponent).toNat)

/-- A finite pattern without a fractional part. -/
def isIntegral (x : Binary64) : Bool :=
  match x.magnitude with
  | .finite significand exponent => significand % Nat.pow 2 (-exponent).toNat = 0
  | _ => false

/-- The whole part of a finite pattern, cut toward zero; zero for the others. -/
def truncate (x : Binary64) : Int :=
  let (n, d) := x.absRatio
  if x.isNegative then -((n / d : Nat) : Int) else ((n / d : Nat) : Int)

/-- Whether the absolute value of `x` is less than that of `y`, both being numbers. -/
def absLt (x y : Binary64) : Bool := decide (x.magnitudeBits < y.magnitudeBits)

end Binary64
end BeanMetrics
