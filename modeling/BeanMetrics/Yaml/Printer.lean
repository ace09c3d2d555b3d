import BeanMetrics.Yaml.Scalar
import BeanMetrics.Yaml.Token

/-!
Texts written as YAML scalars in block mappings. A text is written plainly if it reads back as the
same text; otherwise in single quotes, or in double quotes if it has characters that have to be
escaped. A text with line feeds is written as a literal block, if a block can hold it.
-/

namespace BeanMetrics
namespace Yaml

inductive Form where
  | plain
  | singleQuoted
  | doubleQuoted
  | literal
  deriving DecidableEq, Repr

def isPrintable (c : Char) : Bool :=
  let n := c.toNat
  c = '\n' || (0x20 ≤ n && n ≤ 0x7E) || (0xA0 ≤ n && n ≤ 0xD7FF) ||
    (0xE000 ≤ n && n ≤ 0xFFFD && n ≠ 0xFEFF) || 0x10000 ≤ n

/-- Whether two neighbours are related somewhere in a text. -/
def anyNeighbours (related : Char → Char → Bool) : List Char → Bool
  | a :: b :: rest => related a b || anyNeighbours related (b :: rest)
  | _ => false

def endsInSpace (s : List Char) : Bool := s.getLast? = some ' '

def breakThenSpace (s : List Char) : Bool := anyNeighbours (fun a b => isBreak a && b = ' ') s

def spaceThenBreak (s : List Char) : Bool := anyNeighbours (fun a b => a = ' ' && isBreak b) s

/-- Whether a block can hold a text, so that its lines read back as they are. -/
def fitsBlock (s : List Char) : Bool :=
  s ≠ [] && s.all isPrintable && !endsInSpace s && !spaceThenBreak s

def fitsSingleQuotes (s : List Char) : Bool :=
  s.all isPrintable && !spaceThenBreak s && !breakThenSpace s

/-- Whether a text begins like something other than a scalar. -/
def beginsWithIndicator (s : List Char) : Bool :=
  match s with
  | [] => false
  | c :: rest =>
    ['-', '-', '-'].isPrefixOf s || ['.', '.', '.'].isPrefixOf s ||
      "#,[]\x7b\x7d&*!|>'\"%@\x60".toList.contains c ||
      ((c = '?' || c = ':' || c = '-') && endsWord rest)

/-- Whether a colon ends a word, or a word behind the first begins with a number sign. -/
def hasIndicatorInside (s : List Char) : Bool :=
  s.getLast? = some ':' ||
    anyNeighbours (fun a b => (a = ':' && endsWord [b]) || (endsWord [a] && b = '#')) s

def fitsPlain (s : List Char) : Bool :=
  s.all isPrintable && !s.any isBreak && s.head? ≠ some ' ' && !endsInSpace s &&
    !beginsWithIndicator s && !hasIndicatorInside s

def formOf (s : List Char) : Form :=
  if s.contains '\n' then if fitsBlock s then .literal else .doubleQuoted
  else if fitsPlain s && !isAmbiguous s then .plain
  else if fitsSingleQuotes s then .singleQuoted
  else .doubleQuoted

/-- The lines of a text, the first one aside if `fresh` does not hold, moved to the right. -/
def indentLines (indent : Nat) : Bool → List Char → List Char
  | _, [] => []
  | fresh, c :: rest =>
    if isBreak c then c :: indentLines indent true rest
    else if fresh then List.replicate indent ' ' ++ c :: indentLines indent false rest
    else c :: indentLines indent false rest

def singleQuoted (indent : Nat) (s : List Char) : List Char :=
  let closing := if (s.getLast?.map isBreak).getD false then List.replicate indent ' ' else []
  let doubled := s.flatMap fun c => if c = '\'' then ['\'', '\''] else [c]
  '\'' :: (indentLines indent false doubled ++ closing ++ ['\''])

/-- The letters of characters that have an escape of their own. -/
def escapeLetters : List (Nat × Char) :=
  [(0x00, '0'), (0x07, 'a'), (0x08, 'b'), (0x09, 't'), (0x0A, 'n'), (0x0B, 'v'), (0x0C, 'f'),
    (0x0D, 'r'), (0x1B, 'e'), (0x22, '"'), (0x5C, '\\'), (0x85, 'N'), (0x2028, 'L'), (0x2029, 'P')]

def escapeChar (c : Char) : List Char :=
  match escapeLetters.lookup c.toNat with
  | some letter => ['\\', letter]
  | none =>
    if isPrintable c then [c]
    else if c.toNat ≤ 0xFF then '\\' :: 'x' :: Text.hexDigits 2 c.toNat
    else if c.toNat ≤ 0xFFFF then '\\' :: 'u' :: Text.hexDigits 4 c.toNat
    else '\\' :: 'U' :: Text.hexDigits 8 c.toNat

def doubleQuoted (s : List Char) : List Char := '"' :: (s.flatMap escapeChar ++ ['"'])

/-- The mark that says which line ends behind the last line of a block belong to the text. -/
def chomping (s : List Char) : List Char :=
  match s.reverse with
  | [] => ['-']
  | [c] => if isBreak c then ['+'] else ['-']
  | c :: d :: _ => if !isBreak c then ['-'] else if isBreak d then ['+'] else []

def literal (indent : Nat) (s : List Char) : List Char :=
  let hint := match s with
    | c :: _ => if c = ' ' || isBreak c then ['2'] else []
    | [] => []
  '|' :: (hint ++ chomping s ++ '\n' :: indentLines indent true s)

/-- A text as a scalar; its lines behind the first are indented. -/
def scalarText (indent : Nat) (s : List Char) : List Char :=
  match formOf s with
  | .plain => s
  | .singleQuoted => singleQuoted indent s
  | .doubleQuoted => doubleQuoted s
  | .literal => literal indent s

/-- A key and a written value in a mapping, up to the end of the line. -/
def memberLine (indent : Nat) (key : String) (value : List Char) : List Char :=
  let line := List.replicate indent ' ' ++ key.toList ++ ':' :: ' ' :: value
  if (value.getLast?.map isBreak).getD false then line else line ++ ['\n']

end Yaml
end BeanMetrics
