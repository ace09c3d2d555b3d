import BeanMetrics.Binary64.Shortest
import BeanMetrics.Text.Digits

/-!
Decimal texts of numbers. `decimalText` never uses an exponent and `scientificText` always does;
both carry the shortest digits that read back. `ofText?` reads either form, and the words for
infinity and not-a-number in any case.
-/

namespace BeanMetrics
namespace Binary64

/-- A decimal as digit characters without trailing zeros, and the exponent of its last digit. -/
def Decimal.significant (d : Decimal) : List Char × Int :=
  let digits := Nat.toDigits 10 d.digits
  let kept := (digits.reverse.dropWhile (· = '0')).reverse
  (kept, d.exponent + ((digits.length - kept.length : Nat) : Int))

/-- The digits with the decimal point where the exponent puts it. -/
def placePoint (digits : List Char) (exponent : Int) : List Char :=
  if 0 ≤ exponent then digits ++ List.replicate exponent.toNat '0'
  else
    let places := (-exponent).toNat
    if places < digits.length then
      digits.take (digits.length - places) ++ '.' :: digits.drop (digits.length - places)
    else '0' :: '.' :: (List.replicate (places - digits.length) '0' ++ digits)

def signText (negative : Bool) : List Char := if negative then ['-'] else []

/-- Positional notation. -/
def decimalText (x : Binary64) : List Char :=
  match x.magnitude with
  | .notANumber => "NaN".toList
  | .infinite => signText x.isNegative ++ "inf".toList
  | .finite significand exponent =>
    if significand = 0 then signText x.isNegative ++ ['0']
    else
      let (digits, last) := (shortest significand exponent).significant
      signText x.isNegative ++ placePoint digits last

def wholeText (i : Int) : List Char :=
  signText (decide (i < 0)) ++ Nat.toDigits 10 i.natAbs

/-- One digit, the others after a point if there are any, and the exponent. -/
def scientificText (x : Binary64) : List Char :=
  match x.magnitude with
  | .notANumber => "NaN".toList
  | .infinite => signText x.isNegative ++ "inf".toList
  | .finite significand exponent =>
    if significand = 0 then signText x.isNegative ++ "0e0".toList
    else
      let (digits, last) := (shortest significand exponent).significant
      let fraction := digits.drop 1
      signText x.isNegative ++ digits.take 1 ++ (if fraction = [] then [] else '.' :: fraction)
        ++ 'e' :: wholeText (last + fraction.length)

/-- A sign, if there is one, and the rest. -/
def takeSign : List Char → Bool × List Char
  | '-' :: rest => (true, rest)
  | '+' :: rest => (false, rest)
  | rest => (false, rest)

/-- An exponent part: nothing, or `e`, a sign and digits. -/
def exponentPart? : List Char → Option Int
  | [] => some 0
  | c :: rest =>
    let (negative, digits) := takeSign rest
    if (c = 'e' ∨ c = 'E') ∧ digits ≠ [] ∧ digits.all Char.isDigit then
      some (if negative then -(Text.digitsValue 10 digits : Int) else Text.digitsValue 10 digits)
    else none

/-- Digits with at most one point among them and an exponent part. -/
def finiteOfText? (negative : Bool) (s : List Char) : Option Binary64 :=
  let whole := s.takeWhile Char.isDigit
  let (fraction, rest) : List Char × List Char :=
    match s.dropWhile Char.isDigit with
    | '.' :: rest => (rest.takeWhile Char.isDigit, rest.dropWhile Char.isDigit)
    | rest => ([], rest)
  if whole = [] ∧ fraction = [] then none
  else (exponentPart? rest).map fun exponent =>
    ofDecimal negative (Text.digitsValue 10 (whole ++ fraction)) (exponent - fraction.length)

def ofText? (s : List Char) : Option Binary64 :=
  let (negative, rest) := takeSign s
  let word := String.ofList (rest.map Char.toLower)
  if word = "inf" ∨ word = "infinity" then some (infinity negative)
  else if word = "nan" then some (quietNaN negative)
  else finiteOfText? negative rest

end Binary64
end BeanMetrics
