import BeanMetrics.Binary64.Text
import BeanMetrics.KeyMap
import BeanMetrics.Text.Split

/-!
Values of attributes. Composite values are records, maps from field names in ascending order to
values. A value is shown in full by `AttributeValue.text`, and by `labelText?` where it serves as
the value of a label.
-/

namespace BeanMetrics

inductive AttributeValue where
  | number (n : Binary64)
  | boolean (b : Bool)
  | string (s : String)
  | composite (fields : List (String × AttributeValue))
  | compositeArray (records : List (List (String × AttributeValue)))
  | null
  | unsupported
  deriving Inhabited, Repr

/-- A record of a composite value, in ascending order of its field names. -/
abbrev CompositeRecord := List (String × AttributeValue)

inductive ValueKind where
  | number
  | boolean
  | string
  | composite
  | compositeArray
  | null
  | unsupported
  deriving DecidableEq, Repr

def ValueKind.name : ValueKind → String
  | .number => "Number"
  | .boolean => "Boolean"
  | .string => "String"
  | .composite => "CompositeRecord"
  | .compositeArray => "CompositeRecordArray"
  | .null => "Null"
  | .unsupported => "Unsupported"

namespace Binary64

/-- Whole numbers below this bound are written without regard to how they are stored. -/
def wholeBound : Binary64 := .ofNat (Nat.pow 10 15)

/-- A whole number of at most fifteen digits. -/
def isPlainWhole (x : Binary64) : Bool := x.isIntegral && x.absLt wholeBound

end Binary64

namespace AttributeValue

def kind : AttributeValue → ValueKind
  | .number _ => .number
  | .boolean _ => .boolean
  | .string _ => .string
  | .composite _ => .composite
  | .compositeArray _ => .compositeArray
  | .null => .null
  | .unsupported => .unsupported

/-- The number of a number; a boolean is none. -/
def number? : AttributeValue → Option Binary64
  | .number n => some n
  | _ => none

def string? : AttributeValue → Option String
  | .string s => some s
  | _ => none

def booleanText (b : Bool) : String := if b then "true" else "false"

/-- The text of a value as the value of a label. A whole number has no sign of zero. -/
def labelText? : AttributeValue → Option String
  | .string s => some s
  | .boolean b => some (booleanText b)
  | .number n =>
    some (String.ofList (if n.isPlainWhole then Binary64.wholeText n.truncate else n.decimalText))
  | _ => none

mutual

def chars : AttributeValue → List Char
  | .number n => n.decimalText
  | .boolean b => (booleanText b).toList
  | .string s => s.toList
  | .composite fields => '\x7b' :: (fieldChars fields ++ ['\x7d'])
  | .compositeArray records => '[' :: (recordChars records ++ [']'])
  | .null => "null".toList
  | .unsupported => "<unsupported>".toList

def fieldChars : List (String × AttributeValue) → List Char
  | [] => []
  | [(key, value)] => key.toList ++ '=' :: chars value
  | (key, value) :: fields =>
    key.toList ++ '=' :: (chars value ++ ',' :: ' ' :: fieldChars fields)

def recordChars : List (List (String × AttributeValue)) → List Char
  | [] => []
  | [fields] => '\x7b' :: (fieldChars fields ++ ['\x7d'])
  | fields :: records =>
    '\x7b' :: (fieldChars fields ++ '\x7d' :: ',' :: ' ' :: recordChars records)

end

def text (value : AttributeValue) : String := String.ofList value.chars

end AttributeValue
end BeanMetrics
