import BeanMetrics.Text.CaseTable

/-!
Lower case of whole texts. Every character has a lower case form of its own; two of them need more
than the table. A capital I with a dot keeps its dot as a combining mark, and a capital sigma has a
final form at the end of a word, that is, after a letter and not before one, marks between them
passed over.
-/

namespace BeanMetrics
namespace Text

/-- The lower case form of one character, all but the two contextual ones. -/
def lowerChar (c : Char) : Char :=
  match lowerCaseRanges.find? fun r => r.first ≤ c.toNat && c.toNat ≤ r.last with
  | some r =>
    if (c.toNat - r.first) % r.step = 0 then Char.ofNat ((c.toNat : Int) + r.offset).toNat else c
  | none => c

def inRanges (ranges : List (Nat × Nat)) (c : Char) : Bool :=
  ranges.any fun (first, last) => first ≤ c.toNat && c.toNat ≤ last

def isCased (c : Char) : Bool := inRanges casedRanges c

def isCaseIgnorable (c : Char) : Bool := inRanges caseIgnorableRanges c

/-- Whether the first character that is not passed over is a letter with case. -/
def reachesLetter (s : List Char) : Bool :=
  match s.dropWhile isCaseIgnorable with
  | [] => false
  | c :: _ => isCased c

/-- Lower case of `s`, where `before` holds the characters in front of it, the nearest first. -/
def lowerAfter (before : List Char) : List Char → List Char
  | [] => []
  | c :: rest =>
    let lowered :=
      if c = 'Σ' then [if reachesLetter before && !reachesLetter rest then 'ς' else 'σ']
      else if c = 'İ' then ['i', '\u0307']
      else [lowerChar c]
    lowered ++ lowerAfter (c :: before) rest

def lower (s : String) : String := String.ofList (lowerAfter [] s.toList)

end Text
end BeanMetrics
