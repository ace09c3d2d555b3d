import BeanMetrics.Binary64.Text

/-!
What plain scalars mean. A plain text can be nothing, a truth value, a whole number or a real
number; every other one is just a text. Digits behind a leading zero are a text as well.
-/

namespace BeanMetrics
namespace Yaml

def isNull (s : List Char) : Bool := ["", "~", "null", "Null", "NULL"].contains (String.ofList s)

/-- The words for truth values, those of older readers included. -/
def isBoolean (s : List Char) : Bool :=
  ["y", "Y", "yes", "Yes", "YES", "n", "N", "no", "No", "NO", "true", "True", "TRUE", "false",
    "False", "FALSE", "on", "On", "ON", "off", "Off", "OFF"].contains (String.ofList s)

/-- A whole number behind a mark for its base. -/
def marked? : List Char → Option Nat
  | '0' :: 'x' :: digits => Text.number? 16 digits
  | '0' :: 'o' :: digits => Text.number? 8 digits
  | '0' :: 'b' :: digits => Text.number? 2 digits
  | _ => none

def withoutPlus : List Char → List Char
  | '+' :: rest => rest
  | s => s

/-- A sign, if there is one, a zero and further digits. -/
def hasLeadingZero (s : List Char) : Bool :=
  match s with
  | '-' :: '0' :: c :: rest | '+' :: '0' :: c :: rest | '0' :: c :: rest =>
    (c :: rest).all Char.isDigit
  | _ => false

/-- A natural number below `limit`: decimal without leading zeros, or hexadecimal, octal or binary
behind a mark; a plus sign may stand in front. -/
def natural? (limit : Nat) (s : List Char) : Option Nat :=
  let unsigned := withoutPlus s
  let value := (marked? unsigned).orElse fun _ =>
    if hasLeadingZero s then none else Text.number? 10 unsigned
  value.filter (· < limit)

/-- Whether a text is a whole number behind a mark for its base, in 128 bits. -/
def isMarkedWhole (s : List Char) : Bool :=
  match s with
  | '-' :: rest => (marked? rest).any (· ≤ Nat.pow 2 127)
  | _ => (marked? (withoutPlus s)).any (· < Nat.pow 2 128)

/-- Whether a text is a decimal number that is not too large, or a word for infinity or for
not-a-number. -/
def isReal (s : List Char) : Bool :=
  let unsigned := withoutPlus s
  let word := String.ofList unsigned
  if unsigned.length < s.length ∧ (unsigned.head? = some '+' ∨ unsigned.head? = some '-') then false
  else
    [".inf", ".Inf", ".INF", "-.inf", "-.Inf", "-.INF"].contains word ||
      [".nan", ".NaN", ".NAN"].contains (String.ofList s) ||
      (Binary64.ofText? unsigned).any fun x => !x.isNaN && !x.isInfinite

/-- Whether a plain text could be read as something else. -/
def isAmbiguous (s : List Char) : Bool :=
  isNull s || isBoolean s || hasLeadingZero s || isMarkedWhole s || isReal s

end Yaml
end BeanMetrics
