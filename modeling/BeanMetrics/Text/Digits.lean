/-!
Numbers written with digits, in bases up to sixteen. Letters count as digits in either case.
-/

namespace BeanMetrics
namespace Text

def digit? (base : Nat) (c : Char) : Option Nat :=
  let value : Option Nat :=
    if '0' ≤ c ∧ c ≤ '9' then some (c.toNat - '0'.toNat)
    else if 'a' ≤ c ∧ c ≤ 'f' then some (c.toNat - 'a'.toNat + 10)
    else if 'A' ≤ c ∧ c ≤ 'F' then some (c.toNat - 'A'.toNat + 10)
    else none
  value.filter (· < base)

/-- Whether a text has at least one digit, and nothing else. -/
def isNumber (base : Nat) (s : List Char) : Bool :=
  s ≠ [] && s.all fun c => (digit? base c).isSome

/-- The number that digits denote, the first of them counting most. -/
def digitsValue (base : Nat) (digits : List Char) : Nat :=
  digits.foldl (fun n c => base * n + (digit? base c).getD 0) 0

def number? (base : Nat) (s : List Char) : Option Nat :=
  if isNumber base s then some (digitsValue base s) else none

/-- The last `count` hexadecimal digits of a number, in capitals. -/
def hexDigits : Nat → Nat → List Char
  | 0, _ => []
  | count + 1, n => hexDigits count (n / 16) ++ [(Nat.digitChar (n % 16)).toUpper]

end Text
end BeanMetrics
