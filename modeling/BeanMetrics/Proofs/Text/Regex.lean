import BeanMetrics.Text.Regex
import Mathlib.Data.List.Basic

/-!
How escaped characters are read, and what a compiled expression matches: some part of the text can be cut
into runs, one for each piece, and every piece takes its run. The rows find out just that.
-/

namespace BeanMetrics
namespace Regex

/-! ### Escaped characters -/

theorem notMem_escapeChar {w c : Char} (hw : w ≠ '\\') (hc : c ≠ w) : w ∉ escapeChar c := by
  unfold escapeChar
  split <;> simp [hw, hc.symm]

theorem tokenOf?_of_notMem {c : Char} (h : c ∉ metaChars) :
    tokenOf? c = some (.atom (.literal c)) := by
  simp only [metaChars, List.mem_cons, List.not_mem_nil, or_false, not_or] at h
  simp [tokenOf?, otherOperators, h]

/-- An escaped character means itself, whatever it is. -/
theorem tokens?_escapeChar (c : Char) (rest : List Char) :
    tokens? (escapeChar c ++ rest) = (tokens? rest).map (.atom (.literal c) :: ·) := by
  by_cases hc : c ∈ metaChars
  · simp [escapeChar, tokens?, hc]
  · have hback : c ≠ '\\' := fun he => hc (he ▸ List.mem_cons_self)
    simp [escapeChar, tokens?, hc, hback, tokenOf?_of_notMem hc]

/-! ### Runs -/

/-- Whether a piece takes a run of characters. An anchor takes an empty one, and only at its end of the
text. -/
def Piece.Takes (p : Piece) (atStart : Bool) (run rest : List Char) : Prop :=
  match p with
  | .one a => ∃ c, a.accepts c = true ∧ run = [c]
  | .many a => ∀ c ∈ run, a.accepts c = true
  | .start => run = [] ∧ atStart = true
  | .finish => run = [] ∧ rest = []

/-- Whether the pieces take run after run from the front of `s`. -/
def TakeRuns (atStart : Bool) (s : List Char) : List Piece → Prop
  | [] => True
  | p :: ps => ∃ run rest, s = run ++ rest ∧ p.Takes atStart run rest ∧
      TakeRuns (atStart && run.isEmpty) rest ps

variable {atStart : Bool} {c : Char} {s : List Char} {a : Atom} {ps : List Piece}

/-! ### From the front of a text -/

theorem not_takeRuns_one_nil : ¬ TakeRuns atStart [] (.one a :: ps) := by
  rintro ⟨run, rest, hs, ⟨c, -, rfl⟩, -⟩
  cases hs

theorem takeRuns_one_cons_iff :
    TakeRuns atStart (c :: s) (.one a :: ps) ↔ a.accepts c = true ∧ TakeRuns false s ps := by
  constructor
  · rintro ⟨run, rest, hs, ⟨d, hd, rfl⟩, hrest⟩
    obtain ⟨rfl, rfl⟩ := List.cons.inj hs
    exact ⟨hd, by simpa using hrest⟩
  · rintro ⟨hc, hs⟩
    exact ⟨[c], s, rfl, ⟨c, hc, rfl⟩, by simpa using hs⟩

theorem takeRuns_many_nil_iff : TakeRuns atStart [] (.many a :: ps) ↔ TakeRuns atStart [] ps := by
  constructor
  · rintro ⟨run, rest, hs, -, hrest⟩
    obtain ⟨rfl, rfl⟩ := List.append_eq_nil_iff.mp hs.symm
    simpa using hrest
  · intro h
    exact ⟨[], [], rfl, List.forall_mem_nil _, by simpa using h⟩

/-- The run in front is empty, or it begins with the first character and goes on. -/
theorem takeRuns_many_cons_iff :
    TakeRuns atStart (c :: s) (.many a :: ps) ↔
      TakeRuns atStart (c :: s) ps ∨ a.accepts c = true ∧ TakeRuns false s (.many a :: ps) := by
  constructor
  · rintro ⟨run, rest, hs, hrun, hrest⟩
    cases run with
    | nil => exact .inl (by simpa [hs] using hrest)
    | cons d run =>
      obtain ⟨rfl, rfl⟩ := List.cons.inj hs
      obtain ⟨hc, hlater⟩ := List.forall_mem_cons.mp hrun
      exact .inr ⟨hc, run, rest, rfl, hlater, by simpa using hrest⟩
  · rintro (h | ⟨hc, run, rest, rfl, hrun, hrest⟩)
    · exact ⟨[], c :: s, rfl, List.forall_mem_nil _, by simpa using h⟩
    · exact ⟨c :: run, rest, rfl, List.forall_mem_cons.mpr ⟨hc, hrun⟩, by simpa using hrest⟩

theorem takeRuns_start_iff :
    TakeRuns atStart s (.start :: ps) ↔ atStart = true ∧ TakeRuns true s ps := by
  constructor
  · rintro ⟨run, rest, rfl, ⟨rfl, rfl⟩, hrest⟩
    exact ⟨rfl, by simpa using hrest⟩
  · rintro ⟨rfl, h⟩
    exact ⟨[], s, rfl, ⟨rfl, rfl⟩, by simpa using h⟩

theorem takeRuns_finish_iff :
    TakeRuns atStart s (.finish :: ps) ↔ s = [] ∧ TakeRuns atStart [] ps := by
  constructor
  · rintro ⟨run, rest, rfl, ⟨rfl, rfl⟩, hrest⟩
    exact ⟨rfl, by simpa using hrest⟩
  · rintro ⟨rfl, h⟩
    exact ⟨[], [], rfl, ⟨rfl, rfl⟩, by simpa using h⟩

/-! ### Rows -/

@[simp] theorem manyRow_nil (a : Atom) (after : List Bool) : manyRow a [] after = after := by
  cases after <;> rfl

@[simp] theorem finishRow_nil (after : List Bool) : finishRow [] after = after := by
  cases after <;> rfl

theorem startRow_false (after : List Bool) : startRow false after = after.map fun _ => false := by
  cases after <;> rfl

theorem exists_row_nil (atStart : Bool) (ps : List Piece) : ∃ here, row atStart [] ps = [here] := by
  induction ps with
  | nil => exact ⟨true, rfl⟩
  | cons p ps ih =>
    obtain ⟨here, hr⟩ := ih
    cases p with
    | one a => exact ⟨false, by simp [row, oneRow]⟩
    | many a => exact ⟨here, by simp [row, hr]⟩
    | start => exact ⟨atStart && here, by simp [row, startRow, hr]⟩
    | finish => exact ⟨here, by simp [row, hr]⟩

/-- One character more in front of a text is one entry more in front of its row. -/
theorem exists_row_cons (atStart : Bool) (c : Char) (s : List Char) (ps : List Piece) :
    ∃ here, row atStart (c :: s) ps = here :: row false s ps := by
  induction ps with
  | nil => exact ⟨true, rfl⟩
  | cons p ps ih =>
    obtain ⟨here, hr⟩ := ih
    cases p with
    | one a => exact ⟨_, by rw [row, hr, oneRow, row]⟩
    | many a => exact ⟨_, by rw [row, hr, manyRow, row]⟩
    | start => exact ⟨_, by rw [row, hr, startRow, row, startRow_false]⟩
    | finish => exact ⟨_, by rw [row, hr, finishRow, row]⟩

theorem head_row_many_iff
    (ih : ∀ atStart s, (row atStart s ps).headD false = true ↔ TakeRuns atStart s ps)
    (atStart : Bool) (s : List Char) :
    (row atStart s (.many a :: ps)).headD false = true ↔ TakeRuns atStart s (.many a :: ps) := by
  induction s generalizing atStart with
  | nil => rw [takeRuns_many_nil_iff, ← ih, row, manyRow_nil]
  | cons c s later =>
    obtain ⟨here, hr⟩ := exists_row_cons atStart c s ps
    have hhere : here = true ↔ TakeRuns atStart (c :: s) ps := by
      rw [← ih, hr]
      rfl
    rw [takeRuns_many_cons_iff, ← hhere, ← later, row, row, hr]
    simp [manyRow]

/-- The first entry of a row says whether the pieces take runs from the front. -/
theorem head_row_iff :
    (row atStart s ps).headD false = true ↔ TakeRuns atStart s ps := by
  -- only a piece with a star needs an induction on the text as well
  induction ps generalizing atStart s with
  | nil => simp [row, TakeRuns]
  | cons p ps ih =>
    cases p with
    | one a =>
      cases s with
      | nil => simp [row, oneRow, not_takeRuns_one_nil]
      | cons c s =>
        obtain ⟨here, hr⟩ := exists_row_cons atStart c s ps
        rw [takeRuns_one_cons_iff, ← ih, row, hr]
        simp [oneRow]
    | many a => exact head_row_many_iff (fun _ _ => ih) atStart s
    | start =>
      rw [takeRuns_start_iff, row]
      cases atStart with
      | false => cases row false s ps <;> simp [startRow]
      | true =>
        rw [← ih]
        cases row true s ps <;> simp [startRow]
    | finish =>
      rw [takeRuns_finish_iff, row]
      cases s with
      | nil => rw [finishRow_nil, ih, and_iff_right rfl]
      | cons c s =>
        obtain ⟨here, hr⟩ := exists_row_cons atStart c s ps
        simp [hr, finishRow]

theorem here_iff {here : Bool} {after : List Bool} (h : row atStart s ps = here :: after) :
    here = true ↔ TakeRuns atStart s ps := by
  rw [← head_row_iff, h]
  rfl

/-- A row has an entry for every suffix. -/
theorem any_row_iff :
    (row atStart s ps).any id = true ↔
      ∃ before rest, s = before ++ rest ∧ TakeRuns (atStart && before.isEmpty) rest ps := by
  induction s generalizing atStart with
  | nil =>
    obtain ⟨here, hr⟩ := exists_row_nil atStart ps
    simp [hr, here_iff hr]
  | cons c s ih =>
    obtain ⟨here, hr⟩ := exists_row_cons atStart c s ps
    rw [hr, List.any_cons, Bool.or_eq_true, ih, id, here_iff hr]
    constructor
    · rintro (h | ⟨before, rest, rfl, h⟩)
      · exact ⟨[], c :: s, rfl, by simpa using h⟩
      · exact ⟨c :: before, rest, rfl, by simpa using h⟩
    · rintro ⟨before, rest, hs, h⟩
      cases before with
      | nil => exact .inl (by simpa [hs] using h)
      | cons d before =>
        obtain ⟨rfl, rfl⟩ := List.cons.inj hs
        exact .inr ⟨before, rest, rfl, by simpa using h⟩

theorem isMatch_iff {r : Regex} {text : String} :
    r.isMatch text = true ↔
      ∃ before rest, text.toList = before ++ rest ∧ TakeRuns before.isEmpty rest r.pieces :=
  any_row_iff

/-- An expression that is anchored in front takes its runs from there. -/
theorem isMatch_start_iff {text : String} :
    (Regex.mk (.start :: ps)).isMatch text = true ↔ TakeRuns true text.toList ps := by
  simp only [isMatch_iff, takeRuns_start_iff, List.isEmpty_iff]
  constructor
  · rintro ⟨before, rest, hs, rfl, h⟩
    rwa [hs]
  · intro h
    exact ⟨[], text.toList, rfl, rfl, h⟩

end Regex
end BeanMetrics
