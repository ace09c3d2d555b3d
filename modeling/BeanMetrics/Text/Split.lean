/-!
Cutting text at a separator. `splitFirst` and `splitLast` cut once, `splitAll` at every
separator, and `join` puts the pieces together again. All work on lists of characters, so that
a statement about a cut is a statement about `++` and `∈`.
-/

namespace BeanMetrics
namespace Text

/-- The text before and after the first separator, if there is one. -/
def splitFirst (sep : Char) : List Char → Option (List Char × List Char)
  | [] => none
  | c :: cs =>
    if c = sep then some ([], cs)
    else (splitFirst sep cs).map fun (before, after) => (c :: before, after)

@[simp] theorem splitFirst_nil (sep : Char) : splitFirst sep [] = none := rfl

theorem splitFirst_eq_some_iff {sep : Char} {s before after : List Char} :
    splitFirst sep s = some (before, after) ↔ s = before ++ sep :: after ∧ sep ∉ before := by
  induction s generalizing before with
  | nil => simp
  | cons c cs ih =>
    by_cases h : c = sep
    · subst h
      cases before with
      | nil => simp [splitFirst]
      | cons b bs => simp [splitFirst]; grind
    · cases before with
      | nil => simp [splitFirst, h]
      | cons b bs => simp [splitFirst, h, ih]; grind

theorem splitFirst_eq_none_iff {sep : Char} {s : List Char} :
    splitFirst sep s = none ↔ sep ∉ s := by
  induction s with
  | nil => simp
  | cons c cs ih =>
    by_cases h : c = sep
    · simp [splitFirst, h]
    · simp [splitFirst, h, ih, Ne.symm h]

/-- The text before and after the last separator, if there is one. -/
def splitLast (sep : Char) (s : List Char) : Option (List Char × List Char) :=
  (splitFirst sep s.reverse).map fun (after, before) => (before.reverse, after.reverse)

theorem splitLast_eq_some_iff {sep : Char} {s before after : List Char} :
    splitLast sep s = some (before, after) ↔ s = before ++ sep :: after ∧ sep ∉ after := by
  simp only [splitLast, Option.map_eq_some_iff, Prod.exists, Prod.mk.injEq, splitFirst_eq_some_iff]
  constructor
  · rintro ⟨a, b, ⟨hs, ha⟩, rfl, rfl⟩
    have := congrArg List.reverse hs
    simp_all
  · rintro ⟨rfl, h⟩
    exact ⟨after.reverse, before.reverse, by simp_all⟩

/-- All pieces between separators: one more than there are separators. -/
def splitAll (sep : Char) : List Char → List (List Char)
  | [] => [[]]
  | c :: cs =>
    if c = sep then [] :: splitAll sep cs
    else match splitAll sep cs with
      | [] => [[c]]
      | piece :: pieces => (c :: piece) :: pieces

theorem splitAll_ne_nil (sep : Char) (s : List Char) : splitAll sep s ≠ [] := by
  cases s with
  | nil => simp [splitAll]
  | cons c cs => simp only [splitAll]; split <;> (try split) <;> simp

def join (sep : List Char) : List (List Char) → List Char
  | [] => []
  | [piece] => piece
  | piece :: next :: pieces => piece ++ sep ++ join sep (next :: pieces)

theorem join_splitAll (sep : Char) (s : List Char) : join [sep] (splitAll sep s) = s := by
  induction s with
  | nil => rfl
  | cons c cs ih =>
    by_cases h : c = sep
    · subst h
      rw [splitAll, if_pos rfl]
      generalize hp : splitAll c cs = pieces at ih
      cases pieces with
      | nil => exact absurd hp (splitAll_ne_nil c cs)
      | cons p ps => simp [join, ih]
    · rw [splitAll, if_neg h]
      generalize hp : splitAll sep cs = pieces at ih
      cases pieces with
      | nil => exact absurd hp (splitAll_ne_nil sep cs)
      | cons p ps =>
        cases ps with
        | nil => simpa [join] using ih
        | cons q qs => simpa [join] using ih

def startsWith (start s : List Char) : Bool := start.isPrefixOf s

/-- The text after the given beginning, if it begins so. -/
def dropStart? (start s : List Char) : Option (List Char) :=
  if start.isPrefixOf s then some (s.drop start.length) else none

/-- The text before the given ending, if it ends so. -/
def dropEnd? (ending s : List Char) : Option (List Char) :=
  if ending.isSuffixOf s then some (s.take (s.length - ending.length)) else none

def trimEnd (c : Char) (s : List Char) : List Char :=
  (s.reverse.dropWhile (· = c)).reverse

/-- `replaceAll` where the first `skip` characters belong to an occurrence that is replaced already. -/
def replaceBehind (target replacement : List Char) (skip : Nat) : List Char → List Char
  | [] => if target = [] then replacement else []
  | c :: cs =>
    match skip with
    | skip + 1 => replaceBehind target replacement skip cs
    | 0 =>
      if target = [] then replacement ++ c :: replaceBehind target replacement 0 cs
      else if target.isPrefixOf (c :: cs) then
        replacement ++ replaceBehind target replacement (target.length - 1) cs
      else c :: replaceBehind target replacement 0 cs

/-- Every occurrence of a non-empty `target` replaced, from left to right; an empty `target`
stands between each two characters and at both ends. -/
def replaceAll (target replacement s : List Char) : List Char :=
  replaceBehind target replacement 0 s

theorem replaceBehind_eq (target replacement : List Char) (skip : Nat) (s : List Char) :
    replaceBehind target replacement skip s = replaceAll target replacement (s.drop skip) := by
  induction s generalizing skip with
  | nil => simp [replaceAll, replaceBehind]
  | cons c cs ih =>
    cases skip with
    | zero => rfl
    | succ skip => exact ih skip

theorem replaceAll_nil {target : List Char} (ht : target ≠ []) (replacement : List Char) :
    replaceAll target replacement [] = [] := if_neg ht

theorem replaceAll_cons {target : List Char} (ht : target ≠ []) (replacement : List Char) (c : Char)
    (cs : List Char) :
    replaceAll target replacement (c :: cs) =
      if target.isPrefixOf (c :: cs) then
        replacement ++ replaceAll target replacement (cs.drop (target.length - 1))
      else c :: replaceAll target replacement cs := by
  rw [← replaceBehind_eq, replaceAll, replaceBehind, if_neg ht]
  rfl

end Text
end BeanMetrics
