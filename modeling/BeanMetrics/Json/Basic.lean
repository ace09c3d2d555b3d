import BeanMetrics.Binary64.Text
import BeanMetrics.Json.Written
import BeanMetrics.KeyMap

/-!
JSON values. An object is a map in key order, the last of several members with one key having won.
A number is kept apart as a natural below `2 ^ 64`, a negative whole number down to `-2 ^ 63`, or
any other number rounded to the nearest `Binary64`.
-/

namespace BeanMetrics

namespace Json

inductive Number where
  | natural (n : Nat)
  | negative (n : Nat)
  | real (x : Binary64)
  deriving DecidableEq, Repr

def Number.toBinary64 : Number → Binary64
  | .natural n => .ofNat n
  | .negative n => .ofInt (-(n : Int))
  | .real x => x

end Json

inductive Json where
  | null
  | boolean (b : Bool)
  | number (n : Json.Number)
  | string (s : String)
  | array (elements : List Json)
  | object (members : List (String × Json))
  deriving Inhabited, Repr

namespace Json

/-- Arrays and objects may be nested this deep, and no deeper. -/
def maxDepth : Nat := 127

/-- The value of a numeral. A whole number without fraction and exponent stays whole if it is in
range, except that minus zero is a real number; a number too large for the format is none. -/
def Numeral.value? (n : Numeral) : Option Number :=
  let magnitude := Text.digitsValue 10 n.whole
  match n.fraction, n.exponent with
  | none, none =>
    if n.negative then
      if magnitude = 0 then some (.real (.pack true 0))
      else if magnitude ≤ Nat.pow 2 63 then some (.negative magnitude)
      else finite? (.ofDecimal true magnitude 0)
    else if magnitude < Nat.pow 2 64 then some (.natural magnitude)
    else finite? (.ofDecimal false magnitude 0)
  | fraction, exponent =>
    let places := fraction.getD []
    finite? (.ofDecimal n.negative (Text.digitsValue 10 (n.whole ++ places))
      (exponent.getD 0 - places.length))
where
  finite? (x : Binary64) : Option Number := if x.isInfinite then none else some (.real x)

mutual

/-- The value that a written text denotes when `depth` more levels of nesting are allowed. -/
def ofWritten? (depth : Nat) : Written → Option Json
  | .null => some .null
  | .boolean b => some (.boolean b)
  | .number n => n.value?.map .number
  | .string text => text.map .string
  | .array elements =>
    match depth with
    | 0 => none
    | depth + 1 => (elementsOfWritten? depth elements).map .array
  | .object members =>
    match depth with
    | 0 => none
    | depth + 1 =>
      (membersOfWritten? depth members).map fun members => .object (KeyMap.ofList members)

def elementsOfWritten? (depth : Nat) : List Written → Option (List Json)
  | [] => some []
  | element :: elements => do
    let element ← ofWritten? depth element
    let elements ← elementsOfWritten? depth elements
    return element :: elements

def membersOfWritten? (depth : Nat) : List (Option String × Written) → Option (List (String × Json))
  | [] => some []
  | (key, value) :: members => do
    let key ← key
    let value ← ofWritten? depth value
    let members ← membersOfWritten? depth members
    return (key, value) :: members

end

def ofText? (text : String) : Option Json := do
  let written ← Written.ofText? text
  ofWritten? maxDepth written

def get? (key : String) : Json → Option Json
  | .object members => KeyMap.get? key members
  | _ => none

def string? : Json → Option String
  | .string s => some s
  | _ => none

def boolean? : Json → Option Bool
  | .boolean b => some b
  | _ => none

def natural? : Json → Option Nat
  | .number (.natural n) => some n
  | _ => none

def array? : Json → Option (List Json)
  | .array elements => some elements
  | _ => none

def object? : Json → Option (List (String × Json))
  | .object members => some members
  | _ => none

def ofMembers (members : List (String × Json)) : Json := .object (KeyMap.ofList members)

def ofNat (n : Nat) : Json := .number (.natural n)

end Json
end BeanMetrics
