import BeanMetrics.Text.Regex
import BeanMetrics.Text.Split

/-!
Globs: `*` stands for any run of characters of one line, `?` for one character of a line, and every
other character for itself. A glob is compiled to a regular expression: its text is escaped, and the
wildcards, which are escaped with the rest, are then replaced by what matches as they should.
-/

namespace BeanMetrics

structure Glob where
  source : String
  deriving DecidableEq, Inhabited, Repr

namespace Glob

/-- The expression of a glob; the anchors make it match whole texts only. -/
def expression (g : Glob) : List Char :=
  let escaped := Regex.escape g.source.toList
  let runs := Text.replaceAll ['\\', '*'] ['.', '*'] escaped
  '^' :: (Text.replaceAll ['\\', '?'] ['.'] runs ++ ['$'])

def compile? (g : Glob) : Option Regex := Regex.compile? g.expression

/-- Whether the glob matches the whole text. -/
def accepts (g : Glob) (text : String) : Bool := g.compile?.any (·.isMatch text)

def isWildcard (g : Glob) : Bool := g.source.toList.any fun c => c = '*' || c = '?'

end Glob
end BeanMetrics
