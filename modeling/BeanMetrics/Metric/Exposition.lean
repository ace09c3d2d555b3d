import BeanMetrics.Attribute.Value
import BeanMetrics.Metric.Sample

/-!
The text exposition format, version 0.0.4. A family is a help line, a type line and a line for each
sample:

    # HELP name help
    # TYPE name type
    name{label="value",label="value"} value

In help texts backslashes and line feeds are escaped, in label values quotes too, so that a line
feed in the output always ends a line.
-/

namespace BeanMetrics
namespace Exposition

def contentType : String := "text/plain; version=0.0.4; charset=utf-8"

def escapeHelpChar : Char → List Char
  | '\\' => ['\\', '\\']
  | '\n' => ['\\', 'n']
  | c => [c]

def escapeLabelChar : Char → List Char
  | '\\' => ['\\', '\\']
  | '"' => ['\\', '"']
  | '\n' => ['\\', 'n']
  | c => [c]

def escapeHelp (s : List Char) : List Char := s.flatMap escapeHelpChar

def escapeLabel (s : List Char) : List Char := s.flatMap escapeLabelChar

/-- Absolute values from here on are written with an exponent, unless they are plain whole
numbers. -/
def largeFrom : Binary64 := .ofNat (Nat.pow 10 6)

/-- Absolute values below this are written with an exponent, unless they are zero. -/
def smallBelow : Binary64 := .ofDecimal false 1 (-3)

def valueText (x : Binary64) : List Char :=
  if x.isNaN then "NaN".toList
  else if x.isInfinite then (if x.isNegative then "-Inf" else "+Inf").toList
  else if x.isPlainWhole then Binary64.wholeText x.truncate
  else if !x.absLt largeFrom || x.absLt smallBelow then x.scientificText
  else x.decimalText

def labelChars (label : String × String) : List Char :=
  label.1.toList ++ '=' :: '"' :: (escapeLabel label.2.toList ++ ['"'])

/-- The labels in braces; nothing if there are none. -/
def labelBlock (labels : List (String × String)) : List Char :=
  if labels = [] then []
  else '\x7b' :: (Text.join [','] (labels.map labelChars) ++ ['\x7d'])

def sampleLine (s : Sample) : List Char :=
  s.name.toList ++ labelBlock s.labels ++ ' ' :: valueText s.value

def helpLine (f : Family) : List Char :=
  "# HELP ".toList ++ f.name.toList ++ ' ' :: escapeHelp f.help.toList

def typeLine (f : Family) : List Char :=
  "# TYPE ".toList ++ f.name.toList ++ ' ' :: f.type.name.toList

def familyLines (f : Family) : List (List Char) :=
  helpLine f :: typeLine f :: f.samples.map sampleLine

/-- The characters of the exposition: every line with a line feed behind it. -/
def chars (families : List Family) : List Char :=
  (families.flatMap familyLines).flatMap (· ++ ['\n'])

def text (families : List Family) : String := String.ofList (chars families)

/-- Whether a family is asked for by a list of names; an empty list asks for all. -/
def includes (names : List String) (name : String) : Bool := names.isEmpty || names.contains name

def select (names : List String) (families : List Family) : List Family :=
  families.filter fun f => includes names f.name

end Exposition
end BeanMetrics
