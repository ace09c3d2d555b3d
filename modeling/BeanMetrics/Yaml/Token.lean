import BeanMetrics.Text.Digits

/-!
Tokens of YAML texts. A text is taken apart from left to right; the state says where the head of the
rest stands, how deep it is nested in flow collections, which indentations are open, and whether
something read before may still turn out to be a key. A colon makes it one, and then the token of
the key, and of the mapping that it begins, are put in front of it.
-/

namespace BeanMetrics
namespace Yaml

inductive Style where
  | plain
  | quoted
  | literal
  | folded
  deriving DecidableEq, Inhabited, Repr

inductive Token where
  | directive
  | documentStart
  | documentEnd
  | blockSequenceStart
  | blockMappingStart
  | blockEnd
  | flowSequenceStart
  | flowSequenceEnd
  | flowMappingStart
  | flowMappingEnd
  | blockEntry
  | flowEntry
  | key
  | value
  | reference (name : String)
  | anchor (name : String)
  | tag (text : String)
  | scalar (style : Style) (text : String)
  deriving DecidableEq, Inhabited, Repr

/-- Something that may be a key: its place, the number of tokens in front of it, and whether it must
be one because a block mapping could not go on otherwise. -/
structure KeyCandidate where
  required : Bool
  tokenCount : Nat
  line : Nat
  column : Nat
  index : Nat
  deriving Inhabited

structure Scan where
  rest : List Char
  index : Nat
  line : Nat
  column : Nat
  /-- A candidate for every level of flow collections, the innermost first, and one below them. -/
  candidates : List (Option KeyCandidate)
  /-- The open indentations, the innermost first; none is outermost. -/
  indents : List Nat
  keyAllowed : Bool
  tokens : List Token
  deriving Inhabited

def isBlank (c : Char) : Bool := c = ' ' || c = '\t'

def isBreak (c : Char) : Bool :=
  c = '\n' || c = '\r' || c = '\u0085' || c = '\u2028' || c = '\u2029'

/-- Whether a place is the end of the text, of a line or of a word. -/
def endsWord (s : List Char) : Bool :=
  match s with
  | [] => true
  | c :: _ => isBlank c || isBreak c

def endsLine (s : List Char) : Bool :=
  match s with
  | [] => true
  | c :: _ => isBreak c

namespace Scan

def start (s : List Char) : Scan := ⟨s, 0, 0, 0, [none], [], true, []⟩

def inFlow (s : Scan) : Bool := 1 < s.candidates.length

def skip (n : Nat) (s : Scan) : Scan :=
  let n := (s.rest.take n).length
  { s with rest := s.rest.drop n, index := s.index + n, column := s.column + n }

/-- Passes over a line end and returns how it counts in a text. -/
def takeBreak (s : Scan) : List Char × Scan :=
  match s.rest with
  | '\r' :: '\n' :: rest =>
    (['\n'], { s with rest, index := s.index + 2, line := s.line + 1, column := 0 })
  | c :: rest =>
    ([if c = '\u2028' ∨ c = '\u2029' then c else '\n'],
      { s with rest, index := s.index + 1, line := s.line + 1, column := 0 })
  | [] => ([], s)

def push (t : Token) (s : Scan) : Scan := { s with tokens := s.tokens ++ [t] }

def allowKey (allowed : Bool) (s : Scan) : Scan := { s with keyAllowed := allowed }

/-- Whether the text goes on with a line of the given three characters. -/
def atMarker (marker : List Char) (s : Scan) : Bool :=
  s.column = 0 && marker.isPrefixOf s.rest && endsWord (s.rest.drop 3)

def atDocumentMarker (s : Scan) : Bool :=
  s.atMarker ['-', '-', '-'] || s.atMarker ['.', '.', '.']

/-- Blanks, comments and line ends in front of the next token. -/
def toNextToken : Nat → Scan → Scan
  | 0, s => s
  | fuel + 1, s =>
    match s.rest with
    | [] => s
    | c :: rest =>
      if c = '\ufeff' ∧ s.index = 0 then toNextToken fuel { s with rest, index := 1 }
      else if c = ' ' ∨ (c = '\t' ∧ (s.inFlow ∨ s.keyAllowed = false)) then
        toNextToken fuel (s.skip 1)
      else if c = '#' then
        toNextToken fuel (s.skip (s.rest.takeWhile fun c => !isBreak c).length)
      else if isBreak c then
        let (_, next) := s.takeBreak
        toNextToken fuel (if s.inFlow then next else next.allowKey true)
      else s

/-- Gives up the candidates that can no longer be keys: a key and its colon stand on one line, and
not more than 1024 characters apart. -/
def dropStale (s : Scan) : Option Scan := do
  let candidates ← s.candidates.mapM fun candidate =>
    match candidate with
    | some k =>
      if k.line < s.line ∨ k.index + 1024 < s.index then
        if k.required then none else some none
      else some candidate
    | none => some none
  return { s with candidates }

/-- Closes the blocks that are indented more than `column`; all of them for none. -/
def unroll (column : Option Nat) (s : Scan) : Scan :=
  if s.inFlow then s
  else
    let closed := s.indents.takeWhile fun i => match column with
      | some column => column < i
      | none => true
    { s with
        indents := s.indents.drop closed.length
        tokens := s.tokens ++ List.replicate closed.length .blockEnd }

/-- Opens a block at `column` if it is indented more than the innermost one. -/
def roll (column : Nat) (at? : Option Nat) (t : Token) (s : Scan) : Scan :=
  let deeper := match s.indents with
    | [] => true
    | i :: _ => i < column
  if s.inFlow || !deeper then s
  else { s with
    indents := column :: s.indents
    tokens := s.tokens.insertIdx (at?.getD s.tokens.length) t }

def dropCandidate (s : Scan) : Option Scan :=
  match s.candidates with
  | some k :: rest => if k.required then none else some { s with candidates := none :: rest }
  | _ => some s

/-- Notes that a key may begin here. -/
def saveCandidate (s : Scan) : Option Scan :=
  if s.keyAllowed then do
    let required := !s.inFlow && s.indents.head? == some s.column
    let s ← s.dropCandidate
    let k : KeyCandidate := ⟨required, s.tokens.length, s.line, s.column, s.index⟩
    return { s with candidates := some k :: s.candidates.tail }
  else some s

/-- The folding of line ends inside a scalar: one becomes a space, of several the first is lost. -/
def fold (first : List Char) (more : List Char) : List Char :=
  if first = ['\n'] then (if more = [] then [' '] else more) else first ++ more

/-- Blanks and line ends inside a scalar: what they stand for, and whether there was a line end. A
tab may not stand where the indentation should. -/
def innerBlanks (indent : Option Nat) :
    Nat → Option (List Char × List Char) → List Char → Scan →
      Option (List Char × Bool × Scan)
  | 0, _, _, _ => none
  | fuel + 1, breaks, blanks, s =>
    match s.rest with
    | c :: _ =>
      if isBlank c then
        if breaks.isSome && c = '\t' && (match indent with
            | some indent => decide (s.column < indent)
            | none => false) then none
        else innerBlanks indent fuel breaks (if breaks.isSome then blanks else blanks ++ [c])
          (s.skip 1)
      else if isBreak c then
        let (text, next) := s.takeBreak
        innerBlanks indent fuel (match breaks with
          | none => some (text, [])
          | some (first, more) => some (first, more ++ text)) [] next
      else some (finish breaks blanks s)
    | [] => some (finish breaks blanks s)
where
  finish (breaks : Option (List Char × List Char)) (blanks : List Char) (s : Scan) :
      List Char × Bool × Scan :=
    match breaks with
    | some (first, more) => (fold first more, true, s)
    | none => (blanks, false, s)

/-- The characters of a plain scalar up to the next blank or the end of the scalar. -/
def plainWord (flow : Bool) : List Char → Option (List Char)
  | [] => some []
  | c :: rest =>
    let flowIndicator (c : Char) : Bool := c = ',' || c = '[' || c = ']' || c = '\x7b' || c = '\x7d'
    let next := rest.headD ' '
    if isBlank c || isBreak c then some []
    else if flow && c = ':' && (flowIndicator next || next = '?') then none
    else if (c = ':' && endsWord rest) || (flow && flowIndicator c) then some []
    else (plainWord flow rest).map (c :: ·)

/-- The rest of a plain scalar. `gap` is what stands between the text so far and the next word. -/
def plainText (indent : Nat) : Nat → List Char → List Char → Bool → Scan →
    Option (List Char × Scan)
  | 0, _, _, _, _ => none
  | fuel + 1, text, gap, broken, s =>
    let done : Option (List Char × Scan) :=
      some (text, if broken then s.allowKey true else s)
    if s.atDocumentMarker || s.rest.head? = some '#' then done
    else do
      let word ← plainWord s.inFlow s.rest
      if word = [] then done
      else
        let text := text ++ gap ++ word
        let s := s.skip word.length
        match s.rest with
        | c :: _ =>
          if isBlank c || isBreak c then do
            let (gap, broken, s) ← innerBlanks (some indent) (fuel + 1) none [] s
            if !s.inFlow && s.column < indent then
              return (text, if broken then s.allowKey true else s)
            else plainText indent fuel text gap broken s
          else return (text, s)
        | [] => return (text, s)

/-- What an escape in double quotes stands for, and its length behind the backslash. -/
def escape? (s : List Char) : Option (Char × Nat) :=
  let code (count : Nat) (rest : List Char) : Option (Char × Nat) := do
    let digits := rest.take count
    if digits.length < count then none
    else
      let n ← Text.number? 16 digits
      if (0xD800 ≤ n ∧ n < 0xE000) ∨ 0x10FFFF < n then none
      else return (Char.ofNat n, count + 1)
  match s with
  | '0' :: _ => some ('\x00', 1)
  | 'a' :: _ => some ('\x07', 1)
  | 'b' :: _ => some ('\x08', 1)
  | 't' :: _ => some ('\t', 1)
  | '\t' :: _ => some ('\t', 1)
  | 'n' :: _ => some ('\n', 1)
  | 'v' :: _ => some ('\x0b', 1)
  | 'f' :: _ => some ('\x0c', 1)
  | 'r' :: _ => some ('\r', 1)
  | 'e' :: _ => some ('\x1b', 1)
  | ' ' :: _ => some (' ', 1)
  | '"' :: _ => some ('"', 1)
  | '/' :: _ => some ('/', 1)
  | '\\' :: _ => some ('\\', 1)
  | 'N' :: _ => some ('\u0085', 1)
  | '_' :: _ => some ('\u00a0', 1)
  | 'L' :: _ => some ('\u2028', 1)
  | 'P' :: _ => some ('\u2029', 1)
  | 'x' :: rest => code 2 rest
  | 'u' :: rest => code 4 rest
  | 'U' :: rest => code 8 rest
  | _ => none

/-- The rest of a quoted scalar behind its opening quote. -/
def quotedText (double : Bool) : Nat → Scan → Option (List Char × Scan)
  | 0, _ => none
  | fuel + 1, s =>
    let andThen (text : List Char) (s : Scan) : Option (List Char × Scan) :=
      (quotedText double fuel s).map fun (more, s) => (text ++ more, s)
    if s.atDocumentMarker then none
    else match s.rest with
      | [] => none
      | c :: rest =>
        if isBlank c || isBreak c then do
          let (gap, _, s) ← innerBlanks none (fuel + 1) none [] s
          andThen gap s
        else if double && c = '\\' then
          match rest with
          | d :: _ =>
            if isBreak d then do
              let (_, s) := (s.skip 1).takeBreak
              let (gap, _, s) ← innerBlanks none (fuel + 1) (some ([], [])) [] s
              andThen gap s
            else do
              let (e, length) ← escape? rest
              andThen [e] (s.skip (length + 1))
          | [] => none
        else if !double && c = '\'' then
          match rest with
          | '\'' :: _ => andThen ['\''] (s.skip 2)
          | _ => some ([], s.skip 1)
        else if double && c = '"' then some ([], s.skip 1)
        else andThen [c] (s.skip 1)

/-- What a block scalar does with the line ends at its end. -/
inductive Chomping where
  | strip
  | clip
  | keep
  deriving DecidableEq

/-- The header of a block scalar: chomping and indentation in either order. -/
def blockHeader (s : List Char) : Chomping × Option Nat × Nat :=
  let chomping? : List Char → Option Chomping
    | '+' :: _ => some .keep
    | '-' :: _ => some .strip
    | _ => none
  let digit? : List Char → Option Nat
    | c :: _ => if c.isDigit then some (c.toNat - '0'.toNat) else none
    | [] => none
  match chomping? s with
  | some chomping =>
    match digit? (s.drop 1) with
    | some n => (chomping, some n, 2)
    | none => (chomping, none, 1)
  | none =>
    match digit? s with
    | some n =>
      match chomping? (s.drop 1) with
      | some chomping => (chomping, some n, 2)
      | none => (.clip, some n, 1)
    | none => (.clip, none, 0)

/-- Empty lines in front of a line of a block scalar: their line ends, and the widest indentation. A
tab may not stand where the indentation should. -/
def blockBreaks (indent : Option Nat) : Nat → List Char → Nat → Scan →
    Option (List Char × Nat × Scan)
  | 0, _, _, _ => none
  | fuel + 1, breaks, widest, s =>
    let spaces := (s.rest.takeWhile (· = ' ')).length
    let s := s.skip (match indent with
      | some indent => min spaces (indent - s.column)
      | none => spaces)
    let widest := max widest s.column
    let indenting := match indent with
      | some indent => decide (s.column < indent)
      | none => true
    match s.rest with
    | c :: _ =>
      if indenting && c = '\t' then none
      else if isBreak c then
        let (text, s) := s.takeBreak
        blockBreaks indent fuel (breaks ++ text) widest s
      else some (breaks, widest, s)
    | [] => some (breaks, widest, s)

/-- The lines of a block scalar. `leading` is the line end of the line before, `trailing` the empty
lines behind it, `blank` says whether it began with a blank. -/
def blockLines (folded : Bool) (indent : Nat) : Nat → List Char → List Char → List Char → Bool →
    Scan → Option (List Char × List Char × List Char × Scan)
  | 0, _, _, _, _, _ => none
  | fuel + 1, text, leading, trailing, blank, s =>
    match s.rest with
    | [] => some (text, leading, trailing, s)
    | c :: _ =>
      if s.column = indent then do
        let joined :=
          if folded && leading = ['\n'] && !blank && !isBlank c then
            (if trailing = [] then [' '] else trailing)
          else leading ++ trailing
        let line := s.rest.takeWhile fun c => !isBreak c
        let (leading, s) := (s.skip line.length).takeBreak
        let (trailing, _, s) ← blockBreaks (some indent) (s.rest.length + 1) [] 0 s
        blockLines folded indent fuel (text ++ joined ++ line) leading trailing (isBlank c) s
      else some (text, leading, trailing, s)

/-- A block scalar behind its indicator. -/
def blockText (folded : Bool) (s : Scan) : Option (List Char × Scan) := do
  let (chomping, increment, length) := blockHeader s.rest
  if increment = some 0 then none
  else
    let s := s.skip length
    let s := s.skip (s.rest.takeWhile isBlank).length
    let s := if s.rest.head? = some '#' then
        s.skip (s.rest.takeWhile fun c => !isBreak c).length else s
    if !endsLine s.rest then none
    else
      let (_, s) := s.takeBreak
      let outer := s.indents.head?
      let fixed := increment.map fun n => match outer with
        | some outer => outer + n
        | none => n
      let (trailing, widest, s) ← blockBreaks fixed (s.rest.length + 1) [] 0 s
      let indent := fixed.getD (max widest (match outer with
        | some outer => outer + 1
        | none => 1))
      let (text, leading, trailing, s) ←
        blockLines folded indent (s.rest.length + 1) [] [] trailing false s
      let ending := match chomping with
        | .strip => []
        | .clip => leading
        | .keep => leading ++ trailing
      return (text ++ ending, s)

def isAnchorChar (c : Char) : Bool := c.isAlphanum || c = '_' || c = '-'

def isTagChar (c : Char) : Bool := c.isAlphanum || "-;/?:@&=+$_.~*'()%!<>".toList.contains c

/-- An anchor or a reference to one, behind its indicator. -/
def anchorName (s : Scan) : Option (String × Scan) :=
  let name := s.rest.takeWhile isAnchorChar
  let s := s.skip name.length
  let ends := endsWord s.rest || "?:,]\x7d%@".toList.contains (s.rest.headD ' ') ||
    s.rest.head? = some '\x60'
  if name = [] || !ends then none else some (String.ofList name, s)

def tagText (s : Scan) : Option (String × Scan) :=
  let text := s.rest.takeWhile isTagChar
  let s := s.skip text.length
  if endsWord s.rest || (s.inFlow && s.rest.head? = some ',') then some (String.ofList text, s)
  else none

def isKnownDirective (line : List Char) : Bool :=
  let words := ((String.ofList line).splitOn " ").filter (· ≠ "")
  match words with
  | "%YAML" :: version :: rest =>
    (version = "1.1" || version = "1.2") && (match rest with
      | [] => true
      | word :: _ => word.startsWith "#")
  | "%TAG" :: _ :: _ :: _ => true
  | _ => false

/-- A mapping value: what was noted as a possible key becomes one. -/
def fetchValue (s : Scan) : Option Scan :=
  match s.candidates with
  | some k :: rest =>
    let s := { s with
      candidates := none :: rest
      tokens := s.tokens.insertIdx k.tokenCount .key }
    let s := s.roll k.column (some k.tokenCount) .blockMappingStart
    some (((s.allowKey false).skip 1).push .value)
  | _ =>
    if s.inFlow then some (((s.allowKey false).skip 1).push .value)
    else if s.keyAllowed then
      some ((((s.roll s.column none .blockMappingStart).allowKey true).skip 1).push .value)
    else none

def fetch (s : Scan) : Option Scan := do
  let fuel := s.rest.length + 1
  let s ← (s.toNextToken fuel).dropStale
  let s := s.unroll (some s.column)
  let next := s.rest.tail
  match s.rest with
  | [] => s
  | c :: _ =>
    if c = '%' ∧ s.column = 0 then do
      let s ← (s.unroll none).dropCandidate
      let line := s.rest.takeWhile fun c => !isBreak c
      if isKnownDirective line then
        return ((s.allowKey false).skip line.length).push .directive
      else none
    else if s.atDocumentMarker then do
      let s ← (s.unroll none).dropCandidate
      return ((s.allowKey false).skip 3).push
        (if c = '-' then .documentStart else .documentEnd)
    else if c = '[' ∨ c = '\x7b' then do
      let s ← s.saveCandidate
      let s := { s with candidates := none :: s.candidates }
      return ((s.allowKey true).skip 1).push
        (if c = '[' then .flowSequenceStart else .flowMappingStart)
    else if c = ']' ∨ c = '\x7d' then do
      let s ← s.dropCandidate
      let s := if s.inFlow then { s with candidates := s.candidates.tail } else s
      return ((s.allowKey false).skip 1).push
        (if c = ']' then .flowSequenceEnd else .flowMappingEnd)
    else if c = ',' then do
      let s ← s.dropCandidate
      return ((s.allowKey true).skip 1).push .flowEntry
    else if c = '-' ∧ endsWord next then
      if !s.inFlow && !s.keyAllowed then none
      else do
        let s ← (s.roll s.column none .blockSequenceStart).dropCandidate
        return ((s.allowKey true).skip 1).push .blockEntry
    else if c = '?' ∧ (s.inFlow ∨ endsWord next) then
      if !s.inFlow && !s.keyAllowed then none
      else do
        let s ← (s.roll s.column none .blockMappingStart).dropCandidate
        return ((s.allowKey (!s.inFlow)).skip 1).push .key
    else if c = ':' ∧ (s.inFlow ∨ endsWord next) then s.fetchValue
    else if c = '*' ∨ c = '&' then do
      let s ← s.saveCandidate
      let (name, s) ← ((s.allowKey false).skip 1).anchorName
      return s.push (if c = '*' then .reference name else .anchor name)
    else if c = '!' then do
      let s ← s.saveCandidate
      let (text, s) ← (s.allowKey false).tagText
      return s.push (.tag text)
    else if (c = '|' ∨ c = '>') ∧ s.inFlow = false then do
      let s ← s.dropCandidate
      let (text, s) ← ((s.allowKey true).skip 1).blockText (c = '>')
      return s.push (.scalar (if c = '>' then .folded else .literal) (String.ofList text))
    else if c = '\'' ∨ c = '"' then do
      let s ← s.saveCandidate
      let (text, s) ← quotedText (c = '"') fuel ((s.allowKey false).skip 1)
      return s.push (.scalar .quoted (String.ofList text))
    else if "-?:,[]\x7b\x7d#&*!|>'\"%@".toList.contains c = false ∧ c ≠ '\x60' ∧ c ≠ '\t'
        ∨ (c = '-' ∧ (next.head?.map isBlank) ≠ some true)
        ∨ (s.inFlow = false ∧ (c = '?' ∨ c = ':') ∧ endsWord next = false) then do
      let s ← s.saveCandidate
      let indent := match s.indents with
        | [] => 0
        | i :: _ => i + 1
      let (text, s) ← plainText indent fuel [] [] false (s.allowKey false)
      return s.push (.scalar .plain (String.ofList text))
    else none

def run : Nat → Scan → Option (List Token)
  | 0, _ => none
  | fuel + 1, s => do
    let next ← s.fetch
    if next.rest = [] then
      let next ← next.dropStale
      let next ← (next.unroll none).dropCandidate
      return next.tokens
    else run fuel next

end Scan

/-- Characters that may stand in a text at all. -/
def mayOccur (c : Char) : Bool :=
  let n := c.toNat
  c = '\t' || c = '\n' || c = '\r' || (0x20 ≤ n && n ≤ 0x7E) || n = 0x85 ||
    (0xA0 ≤ n && n ≤ 0xFFFD) || 0x10000 ≤ n

def tokens? (s : List Char) : Option (List Token) :=
  if s.all mayOccur then Scan.run (s.length + 2) (.start s) else none

end Yaml
end BeanMetrics
