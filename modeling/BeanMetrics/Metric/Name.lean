import BeanMetrics.Text.Split

/-!
Metric names. A safe name has only letters and digits of ASCII, `:` and `_`, and no two `_` side by
side; a snake case name has in addition a `_` where a capital follows a small letter or a digit, and
no capitals.
-/

namespace BeanMetrics
namespace MetricName

def isNameChar (c : Char) : Bool :=
  ('a' ≤ c && c ≤ 'z') || ('A' ≤ c && c ≤ 'Z') || ('0' ≤ c && c ≤ '9') || c = ':' || c = '_'

def isSmallOrDigit (c : Char) : Bool := ('a' ≤ c && c ≤ 'z') || ('0' ≤ c && c ≤ '9')

def isCapital (c : Char) : Bool := 'A' ≤ c && c ≤ 'Z'

def sanitize (s : List Char) : List Char := s.map fun c => if isNameChar c then c else '_'

def collapse : List Char → List Char
  | '_' :: '_' :: rest => collapse ('_' :: rest)
  | c :: rest => c :: collapse rest
  | [] => []

/-- A `_` put between a small letter or digit and a capital. -/
def splitCapitals : List Char → List Char
  | c :: d :: rest =>
    if isSmallOrDigit c && isCapital d then c :: '_' :: splitCapitals (d :: rest)
    else c :: splitCapitals (d :: rest)
  | s => s

def safeChars (s : List Char) : List Char := collapse (sanitize s)

def snakeChars (s : List Char) : List Char := (splitCapitals (safeChars s)).map Char.toLower

/-- A name in which unsafe characters have become `_` and runs of `_` are one. -/
def safe (name : String) : String := String.ofList (safeChars name.toList)

/-- The safe name in lower snake case. -/
def snake (name : String) : String := String.ofList (snakeChars name.toList)

/-- The components that are not empty, with a `_` between each two. -/
def joinComponents (components : List String) : String :=
  String.ofList (Text.join ['_'] ((components.filter (· ≠ "")).map String.toList))

/-- Key properties in angle brackets, `<key=value, key=value>`. -/
def angleBrackets (properties : List (String × String)) : String :=
  let inner := Text.join [',', ' ']
    (properties.map fun (key, value) => key.toList ++ '=' :: value.toList)
  String.ofList ('<' :: (inner ++ ['>']))

end MetricName
end BeanMetrics
