import BeanMetrics.ObjectName.Glob
import BeanMetrics.Proofs.Text.Regex
import BeanMetrics.Proofs.Text.Split
import Mathlib.Data.List.Forall2

/-!
What a glob matches: the texts that come about when each of its characters is replaced by something
that it stands for. Its expression can always be compiled, and then matches just these. A glob without
wildcards matches itself only, and every other one matches several texts.
-/

namespace BeanMetrics
namespace Glob

/-- What a character of a glob stands for: `*` for any run of characters of one line, `?` for one
character of a line, and every other one for itself. -/
def Stands (p : Char) (piece : List Char) : Prop :=
  if p = '*' then '\n' ∉ piece
  else if p = '?' then ∃ c, c ≠ '\n' ∧ piece = [c]
  else piece = [p]

/-- Whether a text comes about when each character of a glob is replaced by something that it stands
for. -/
def Matches (glob text : List Char) : Prop :=
  ∃ pieces, List.Forall₂ Stands glob pieces ∧ pieces.flatten = text

theorem matches_nil_iff {s : List Char} : Matches [] s ↔ s = [] := by
  simp [Matches, eq_comm]

theorem matches_cons_iff {p : Char} {glob s : List Char} :
    Matches (p :: glob) s ↔ ∃ piece rest, Stands p piece ∧ Matches glob rest ∧ s = piece ++ rest := by
  constructor
  · rintro ⟨pieces, hp, rfl⟩
    obtain ⟨piece, later, hpiece, hlater, rfl⟩ := List.forall₂_cons_left_iff.mp hp
    exact ⟨piece, later.flatten, hpiece, ⟨later, hlater, rfl⟩, List.flatten_cons⟩
  · rintro ⟨piece, rest, hpiece, ⟨later, hlater, rfl⟩, rfl⟩
    exact ⟨piece :: later, .cons hpiece hlater, List.flatten_cons⟩

/-! ### The expression of a glob -/

def written : Char → List Char :=
  Function.update (Function.update Regex.escapeChar '*' ['.', '*']) '?' ['.']

/-- The two replacements undo the escapes of the wildcards and of nothing else, whatever backslashes are
in front of them. -/
theorem expression_eq (g : Glob) :
    g.expression = '^' :: (g.source.toList.flatMap written ++ ['$']) := by
  have hruns : ∀ c, c ≠ '*' → '*' ∉ Regex.escapeChar c := fun c hc =>
    Regex.notMem_escapeChar (by decide) hc
  -- the second replacement finds `.*` where the first one has been
  have hmarks : ∀ c, c ≠ '?' → '?' ∉ Function.update Regex.escapeChar '*' ['.', '*'] c := by
    intro c hc
    by_cases hstar : c = '*'
    · simp [hstar]
    · rw [Function.update_of_ne hstar]
      exact Regex.notMem_escapeChar (by decide) hc
  rw [expression, Regex.escape, Text.replaceAll_flatMap _ (by decide) rfl hruns,
    Text.replaceAll_flatMap _ (by decide) rfl hmarks, written]

example : expression ⟨"\\*.?"⟩ = "^\\\\.*\\..$".toList := by decide

def tokensOf (p : Char) : List Regex.Token :=
  if p = '*' then [.atom .inLine, .star]
  else if p = '?' then [.atom .inLine]
  else [.atom (.literal p)]

def pieceOf (p : Char) : Regex.Piece :=
  if p = '*' then .many .inLine
  else if p = '?' then .one .inLine
  else .one (.literal p)

theorem tokens?_written (p : Char) (rest : List Char) :
    Regex.tokens? (written p ++ rest) = (Regex.tokens? rest).map (tokensOf p ++ ·) := by
  by_cases hmark : p = '?'
  · subst hmark
    cases h : Regex.tokens? rest <;> simp [written, Regex.tokens?, Regex.tokenOf?, tokensOf, h]
  · by_cases hstar : p = '*'
    · subst hstar
      cases h : Regex.tokens? rest <;> simp [written, Regex.tokens?, Regex.tokenOf?, tokensOf, h]
    · rw [written, Function.update_of_ne hmark, Function.update_of_ne hstar,
        Regex.tokens?_escapeChar, tokensOf, if_neg hstar, if_neg hmark]
      rfl

theorem tokens?_flatMap_written (glob : List Char) :
    Regex.tokens? (glob.flatMap written ++ ['$']) = some (glob.flatMap tokensOf ++ [.finish]) := by
  induction glob with
  | nil => rfl
  | cons p glob ih =>
    rw [List.flatMap_cons, List.append_assoc, tokens?_written, ih, List.flatMap_cons,
      List.append_assoc]
    rfl

/-- The tokens of a character are read as its piece, as no star comes behind them. -/
theorem pieces?_tokensOf (p : Char) {ts : List Regex.Token} (hts : ts.head? ≠ some .star) :
    Regex.pieces? (tokensOf p ++ ts) = (Regex.pieces? ts).map (pieceOf p :: ·) := by
  have hone (a : Regex.Atom) :
      Regex.pieces? (.atom a :: ts) = (Regex.pieces? ts).map (.one a :: ·) := by
    cases ts with
    | nil => rfl
    | cons t ts =>
      rw [Regex.pieces?]
      rintro _ ⟨⟩
      exact hts rfl
  unfold tokensOf pieceOf
  split_ifs
  · rfl
  · exact hone .inLine
  · exact hone (.literal p)

theorem head?_flatMap_tokensOf (glob : List Char) :
    (glob.flatMap tokensOf ++ [Regex.Token.finish]).head? ≠ some .star := by
  cases glob with
  | nil => simp
  | cons p glob =>
    rw [List.flatMap_cons, tokensOf]
    split_ifs <;> simp

theorem pieces?_flatMap_tokensOf (glob : List Char) :
    Regex.pieces? (glob.flatMap tokensOf ++ [.finish]) = some (glob.map pieceOf ++ [.finish]) := by
  induction glob with
  | nil => rfl
  | cons p glob ih =>
    rw [List.flatMap_cons, List.append_assoc, pieces?_tokensOf p (head?_flatMap_tokensOf glob), ih]
    simp

/-- Every glob is compiled, to the pieces of its characters in their order, between the anchors. -/
theorem compile?_eq (g : Glob) :
    g.compile? = some ⟨.start :: (g.source.toList.map pieceOf ++ [.finish])⟩ := by
  have htokens : Regex.tokens? g.expression =
      some (.start :: (g.source.toList.flatMap tokensOf ++ [.finish])) := by
    rw [expression_eq, Regex.tokens?, tokens?_flatMap_written]
    · rfl
    · simp
  rw [compile?, Regex.compile?, htokens, Option.bind_some, Regex.pieces?,
    pieces?_flatMap_tokensOf]
  rfl

/-! ### What the expression matches -/

theorem takes_pieceOf_iff {p : Char} {atStart : Bool} {run rest : List Char} :
    (pieceOf p).Takes atStart run rest ↔ Stands p run := by
  unfold pieceOf Stands
  split_ifs
  · simp [Regex.Piece.Takes, Regex.Atom.accepts, List.forall_mem_ne']
  · simp [Regex.Piece.Takes, Regex.Atom.accepts]
  · simp [Regex.Piece.Takes, Regex.Atom.accepts]

theorem takeRuns_iff {glob s : List Char} {atStart : Bool} :
    Regex.TakeRuns atStart s (glob.map pieceOf ++ [.finish]) ↔ Matches glob s := by
  induction glob generalizing s atStart with
  | nil => rw [List.map_nil, List.nil_append, Regex.takeRuns_finish_iff, matches_nil_iff,
      Regex.TakeRuns, and_true]
  | cons p glob ih =>
    rw [matches_cons_iff]
    constructor
    · rintro ⟨run, rest, hs, hrun, hrest⟩
      exact ⟨run, rest, takes_pieceOf_iff.mp hrun, ih.mp hrest, hs⟩
    · rintro ⟨run, rest, hrun, hrest, hs⟩
      exact ⟨run, rest, hs, takes_pieceOf_iff.mpr hrun, ih.mpr hrest⟩

theorem accepts_iff {g : Glob} {text : String} :
    g.accepts text = true ↔ Matches g.source.toList text.toList := by
  rw [accepts, compile?_eq, Option.any_some, Regex.isMatch_start_iff, takeRuns_iff]

/-! ### Globs without wildcards -/

theorem stands_self_iff {p : Char} (hp : p ≠ '*' ∧ p ≠ '?') {piece : List Char} :
    Stands p piece ↔ piece = [p] := by
  rw [Stands, if_neg hp.1, if_neg hp.2]

theorem eq_of_matches {glob s : List Char} (hp : ∀ p ∈ glob, p ≠ '*' ∧ p ≠ '?')
    (h : Matches glob s) : s = glob := by
  induction glob generalizing s with
  | nil => exact matches_nil_iff.mp h
  | cons p glob ih =>
    obtain ⟨hself, hlater⟩ := List.forall_mem_cons.mp hp
    obtain ⟨piece, rest, hpiece, hrest, rfl⟩ := matches_cons_iff.mp h
    rw [(stands_self_iff hself).mp hpiece, ih hlater hrest, List.singleton_append]

theorem isWildcard_eq_false_iff {g : Glob} :
    g.isWildcard = false ↔ ∀ p ∈ g.source.toList, p ≠ '*' ∧ p ≠ '?' := by
  simp [isWildcard]

/-- A glob without wildcards matches itself only. -/
theorem eq_of_accepts {g : Glob} {text : String} (hp : g.isWildcard = false)
    (h : g.accepts text = true) : text = g.source := by
  rw [← String.toList_inj]
  exact eq_of_matches (isWildcard_eq_false_iff.mp hp) (accepts_iff.mp h)

/-! ### A character in the place of the wildcards -/

/-- The text in which one character stands for each wildcard. -/
def filled (c : Char) (glob : List Char) : List Char :=
  glob.map fun p => if p = '*' ∨ p = '?' then c else p

theorem matches_filled {c : Char} (hc : c ≠ '\n') (glob : List Char) : Matches glob (filled c glob) := by
  induction glob with
  | nil => exact matches_nil_iff.mpr rfl
  | cons p glob ih =>
    apply matches_cons_iff.mpr
    refine ⟨[if p = '*' ∨ p = '?' then c else p], filled c glob, ?_, ih, rfl⟩
    by_cases hstar : p = '*'
    · simp [Stands, hstar, hc.symm]
    · by_cases hmark : p = '?'
      · simp [Stands, hmark, hc]
      · simp [Stands, hstar, hmark]

theorem accepts_filled (g : Glob) (c : Char) (hc : c ≠ '\n') :
    g.accepts (String.ofList (filled c g.source.toList)) = true := by
  rw [accepts_iff, String.toList_ofList]
  exact matches_filled hc g.source.toList

theorem filled_of_plain (c : Char) {glob : List Char} (h : ∀ p ∈ glob, p ≠ '*' ∧ p ≠ '?') :
    filled c glob = glob := by
  induction glob with
  | nil => rfl
  | cons p glob ih =>
    obtain ⟨hself, hlater⟩ := List.forall_mem_cons.mp h
    simpa [filled, hself] using ih hlater

/-- Different characters make different texts, unless there is no wildcard for them to stand for. -/
theorem plain_of_filled_eq {c d : Char} (hcd : c ≠ d) {glob : List Char}
    (h : filled c glob = filled d glob) : ∀ p ∈ glob, p ≠ '*' ∧ p ≠ '?' := by
  intro p hp
  have heq := List.map_inj_left.mp h p hp
  by_contra hw
  have hwild : p = '*' ∨ p = '?' := by tauto
  rw [if_pos hwild, if_pos hwild] at heq
  exact hcd heq

/-- A glob has wildcards exactly if it matches different texts. -/
theorem isWildcard_iff {g : Glob} :
    g.isWildcard = true ↔ ∃ a b, a ≠ b ∧ g.accepts a = true ∧ g.accepts b = true := by
  constructor
  · intro h
    refine ⟨_, _, ?_, g.accepts_filled 'a' (by decide), g.accepts_filled 'b' (by decide)⟩
    intro he
    have hplain := plain_of_filled_eq (by decide) (String.ofList_injective he)
    rw [isWildcard_eq_false_iff.mpr hplain] at h
    cases h
  · rintro ⟨a, b, hne, ha, hb⟩
    by_contra h
    rw [Bool.not_eq_true] at h
    exact hne ((eq_of_accepts h ha).trans (eq_of_accepts h hb).symm)

/-- A glob without wildcards stands for its own text. -/
theorem accepts_iff_eq {g : Glob} (hp : g.isWildcard = false) {text : String} :
    g.accepts text = true ↔ text = g.source := by
  constructor
  · exact eq_of_accepts hp
  · rintro rfl
    have hfilled := g.accepts_filled 'a' (by decide)
    rwa [filled_of_plain 'a' (isWildcard_eq_false_iff.mp hp), String.ofList_toList] at hfilled

end Glob
end BeanMetrics
