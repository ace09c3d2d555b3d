import BeanMetrics.Text.Digits

/-!
JSON texts as they are written. `Written` keeps what a later reading may care about: the members of
an object in their order with repeated keys, the spelling of a number, and for a string whether its
escapes pair up to a text at all. Everything that is only grammar is settled here: a text is either
one `Written` with blanks around it, or it is no JSON.
-/

namespace BeanMetrics
namespace Json

/-- A number as it is spelled: `whole.fraction * 10 ^ exponent`. -/
structure Numeral where
  negative : Bool
  whole : List Char
  fraction : Option (List Char)
  exponent : Option Int
  deriving Repr

/-- A JSON text. A string, or a key, is `none` when an escape in it leaves half a surrogate pair. -/
inductive Written where
  | null
  | boolean (b : Bool)
  | number (n : Numeral)
  | string (text : Option String)
  | array (elements : List Written)
  | object (members : List (Option String × Written))
  deriving Inhabited

def isBlank (c : Char) : Bool := c = ' ' || c = '\n' || c = '\t' || c = '\r'

def skipBlanks (s : List Char) : List Char := s.dropWhile isBlank

def hexUnit? (a b c d : Char) : Option Nat := Text.number? 16 [a, b, c, d]

/-- The characters of two-character escapes. -/
def escaped? : Char → Option Char
  | '"' => some '"'
  | '\\' => some '\\'
  | '/' => some '/'
  | 'b' => some '\x08'
  | 'f' => some '\x0c'
  | 'n' => some '\n'
  | 'r' => some '\r'
  | 't' => some '\t'
  | _ => none

def isHighSurrogate (unit : Nat) : Bool := 0xD800 ≤ unit && unit < 0xDC00

def isLowSurrogate (unit : Nat) : Bool := 0xDC00 ≤ unit && unit < 0xE000

/-- A string up to its closing quote, and what follows. `pending` is a high surrogate that the next
escape has to complete. -/
def readString (pending : Option Nat) : List Char → Option (Option (List Char) × List Char)
  | '"' :: rest => some (if pending.isSome then none else some [], rest)
  | '\\' :: 'u' :: a :: b :: c :: d :: rest =>
    match hexUnit? a b c d with
    | none => none
    | some unit =>
      match pending with
      | some high =>
        if isLowSurrogate unit then
          (readString none rest).map fun (text, rest) =>
            (text.map (Char.ofNat (0x10000 + (high - 0xD800) * 0x400 + (unit - 0xDC00)) :: ·), rest)
        else (readString none rest).map fun (_, rest) => (none, rest)
      | none =>
        if isHighSurrogate unit then readString (some unit) rest
        else (readString none rest).map fun (text, rest) =>
          (if isLowSurrogate unit then none else text.map (Char.ofNat unit :: ·), rest)
  | '\\' :: e :: rest =>
    match escaped? e with
    | none => none
    | some c => (readString none rest).map fun (text, rest) =>
        (if pending.isSome then none else text.map (c :: ·), rest)
  | c :: rest =>
    if c.toNat < 0x20 ∨ c = '\\' then none
    else (readString none rest).map fun (text, rest) =>
        (if pending.isSome then none else text.map (c :: ·), rest)
  | [] => none

/-- The fraction of a number: a point and at least one digit, or nothing. -/
def readFraction : List Char → Option (Option (List Char) × List Char)
  | '.' :: rest =>
    let digits := rest.takeWhile Char.isDigit
    if digits = [] then none else some (some digits, rest.dropWhile Char.isDigit)
  | rest => some (none, rest)

/-- The exponent of a number: `e`, a sign and at least one digit, or nothing. -/
def readExponent : List Char → Option (Option Int × List Char)
  | c :: rest =>
    if c = 'e' ∨ c = 'E' then
      let (negative, rest) : Bool × List Char :=
        match rest with
        | '-' :: rest => (true, rest)
        | '+' :: rest => (false, rest)
        | rest => (false, rest)
      let digits := rest.takeWhile Char.isDigit
      let value : Int := Text.digitsValue 10 digits
      if digits = [] then none
      else some (some (if negative then -value else value), rest.dropWhile Char.isDigit)
    else some (none, c :: rest)
  | [] => some (none, [])

/-- A number. Its whole part is `0` or does not begin with `0`. -/
def readNumeral (s : List Char) : Option (Numeral × List Char) := do
  let (negative, s) : Bool × List Char :=
    match s with
    | '-' :: rest => (true, rest)
    | _ => (false, s)
  let whole := s.takeWhile Char.isDigit
  if whole = [] ∨ (whole.head? = some '0' ∧ 1 < whole.length) then none
  let (fraction, s) ← readFraction (s.dropWhile Char.isDigit)
  let (exponent, s) ← readExponent s
  return ({ negative, whole, fraction, exponent }, s)

/-- One value at the head of the text. Each nested value uses up a unit of `fuel`, and so does each
element, so the length of the text is always enough. -/
def readValue : Nat → List Char → Option (Written × List Char)
  | 0, _ => none
  | fuel + 1, s =>
    match s with
    | 'n' :: 'u' :: 'l' :: 'l' :: rest => some (.null, rest)
    | 't' :: 'r' :: 'u' :: 'e' :: rest => some (.boolean true, rest)
    | 'f' :: 'a' :: 'l' :: 's' :: 'e' :: rest => some (.boolean false, rest)
    | '"' :: rest =>
      (readString none rest).map fun (text, rest) => (.string (text.map String.ofList), rest)
    | '[' :: rest =>
      match skipBlanks rest with
      | ']' :: rest => some (.array [], rest)
      | rest => (readElements fuel rest).map fun (elements, rest) => (.array elements, rest)
    | '\x7b' :: rest =>
      match skipBlanks rest with
      | '\x7d' :: rest => some (.object [], rest)
      | rest => (readMembers fuel rest).map fun (members, rest) => (.object members, rest)
    | s => (readNumeral s).map fun (n, rest) => (.number n, rest)
where
  /-- The elements of an array from the first one to the closing bracket. -/
  readElements : Nat → List Char → Option (List Written × List Char)
    | 0, _ => none
    | fuel + 1, s => do
      let (element, rest) ← readValue fuel (skipBlanks s)
      match skipBlanks rest with
      | ']' :: rest => some ([element], rest)
      | ',' :: rest =>
        let (elements, rest) ← readElements fuel rest
        return (element :: elements, rest)
      | _ => none
  /-- The members of an object from the first one to the closing brace. -/
  readMembers : Nat → List Char → Option (List (Option String × Written) × List Char)
    | 0, _ => none
    | fuel + 1, s => do
      match skipBlanks s with
      | '"' :: rest =>
        let (key, rest) ← readString none rest
        match skipBlanks rest with
        | ':' :: rest =>
          let (value, rest) ← readValue fuel (skipBlanks rest)
          let member := (key.map String.ofList, value)
          match skipBlanks rest with
          | '\x7d' :: rest => some ([member], rest)
          | ',' :: rest =>
            let (members, rest) ← readMembers fuel rest
            return (member :: members, rest)
          | _ => none
        | _ => none
      | _ => none

/-- The one value that a text consists of, blanks around it aside. -/
def Written.ofText? (text : String) : Option Written :=
  let s := text.toList
  match readValue (2 * s.length + 2) (skipBlanks s) with
  | some (value, rest) => if (skipBlanks rest).isEmpty then some value else none
  | none => none

end Json
end BeanMetrics
