/-!
Regular expressions, as far as they are needed here: single characters, the dot for any character of a
line, a star behind either of them, and the two anchors. An expression is searched for in a text, so
without anchors it may match anywhere. `Regex.row` settles the match of every suffix of a text at once,
from the end of the expression to its beginning, so that many stars cost no more than one.
-/

namespace BeanMetrics
namespace Regex

/-! ### Syntax -/

/-- The characters that mean something other than themselves somewhere in an expression. -/
def metaChars : List Char :=
  ['\\', '.', '+', '*', '?', '(', ')', '|', '[', ']', '\x7b', '\x7d', '^', '$', '#', '&', '-', '~']

def escapeChar (c : Char) : List Char := if c ∈ metaChars then ['\\', c] else [c]

/-- The expression that matches just the text itself. -/
def escape (s : List Char) : List Char := s.flatMap escapeChar

inductive Atom where
  | literal (c : Char)
  | inLine
  deriving DecidableEq, Repr

inductive Token where
  | atom (a : Atom)
  | star
  | start
  | finish
  deriving DecidableEq, Repr

/-- What begins a construct other than those above. -/
def otherOperators : List Char := ['\\', '+', '?', '(', ')', '|', '[', '\x7b']

/-- What a character without a backslash means. -/
def tokenOf? (c : Char) : Option Token :=
  if c = '.' then some (.atom .inLine)
  else if c = '*' then some .star
  else if c = '^' then some .start
  else if c = '$' then some .finish
  else if c ∈ otherOperators then none
  else some (.atom (.literal c))

def tokens? : List Char → Option (List Token)
  | [] => some []
  | '\\' :: c :: cs =>
    if c ∈ metaChars then (tokens? cs).map (.atom (.literal c) :: ·) else none
  | c :: cs => (tokenOf? c).bind fun t => (tokens? cs).map (t :: ·)

inductive Piece where
  | one (a : Atom)
  | many (a : Atom)
  | start
  | finish
  deriving DecidableEq, Repr

def pieces? : List Token → Option (List Piece)
  | [] => some []
  | .atom a :: .star :: ts => (pieces? ts).map (.many a :: ·)
  | .atom a :: ts => (pieces? ts).map (.one a :: ·)
  | .star :: _ => none
  | .start :: ts => (pieces? ts).map (.start :: ·)
  | .finish :: ts => (pieces? ts).map (.finish :: ·)

end Regex

structure Regex where
  pieces : List Regex.Piece
  deriving DecidableEq, Repr

namespace Regex

def compile? (expression : List Char) : Option Regex :=
  (tokens? expression).bind fun tokens => (pieces? tokens).map Regex.mk

/-! ### Search -/

def Atom.accepts : Atom → Char → Bool
  | .literal c, d => d = c
  | .inLine, d => d ≠ '\n'

/-- Which suffixes begin with a character that the atom accepts and go on with a suffix in `after`. -/
def oneRow (a : Atom) : List Char → List Bool → List Bool
  | c :: cs, _ :: after => (a.accepts c && after.headD false) :: oneRow a cs after
  | _, _ => [false]

/-- Which suffixes go on with a suffix in `after` behind any run of accepted characters. -/
def manyRow (a : Atom) : List Char → List Bool → List Bool
  | c :: cs, here :: after =>
    let rest := manyRow a cs after
    (here || (a.accepts c && rest.headD false)) :: rest
  | _, after => after

/-- Which of the suffixes in `after` are the whole text. -/
def startRow (atStart : Bool) : List Bool → List Bool
  | [] => []
  | here :: after => (atStart && here) :: after.map fun _ => false

/-- Which of the suffixes in `after` are empty. -/
def finishRow : List Char → List Bool → List Bool
  | _ :: cs, _ :: after => false :: finishRow cs after
  | _, after => after

/-- Which suffixes of `s`, the longest first, begin with something that the pieces match. `atStart` says
whether `s` itself is a whole text or what is left of one. -/
def row (atStart : Bool) (s : List Char) : List Piece → List Bool
  | [] => true :: s.map fun _ => true
  | .one a :: ps => oneRow a s (row atStart s ps)
  | .many a :: ps => manyRow a s (row atStart s ps)
  | .start :: ps => startRow atStart (row atStart s ps)
  | .finish :: ps => finishRow s (row atStart s ps)

def isMatch (r : Regex) (text : String) : Bool := (row true text.toList r.pieces).any id

end Regex
end BeanMetrics
