import BeanMetrics.Proofs.Metric.Name
import BeanMetrics.Text.LowerCase
import Mathlib.Data.List.SplitBy

/-!
Snake case as a normal form. A name is brought to it in four steps: a `_` at every boundary between a small
letter or digit and a capital, a `_` for every character that no name may have, one `_` for every run of
them, and lower case. Safe names are made first when the form is computed, and the boundaries are found in
what is left; it comes to the same, as no boundary is made or lost on the way.
-/

namespace BeanMetrics

/-- The stretches of a list are those of its tail with the head in front of the first one, or before it. -/
theorem exists_splitBy_cons {α : Type} (r : α → α → Bool) (b : α) (l : List α) :
    ∃ rest later, (b :: l).splitBy r = (b :: rest) :: later ∧
      ∀ a, (a :: b :: l).splitBy r =
        if r a b then (a :: b :: rest) :: later else [a] :: (b :: rest) :: later := by
  obtain ⟨first, later, hs⟩ := List.exists_cons_of_ne_nil
    (List.splitBy_ne_nil (r := r).mpr (List.cons_ne_nil b l))
  obtain ⟨hflat, hnil, hchain, hbetween⟩ := List.splitBy_eq_iff.mp hs
  cases first with
  | nil => exact absurd List.mem_cons_self hnil
  | cons c rest =>
    obtain ⟨rfl, hl⟩ := List.cons.inj hflat
    refine ⟨rest, later, hs, fun a => ?_⟩
    split
    · rename_i hab
      apply List.splitBy_eq_iff.mpr
      refine ⟨by simpa using hl, by simpa using hnil, ?_, ?_⟩
      · simp_all
      · cases later <;> simp_all
    · rename_i hab
      have hcut := List.splitBy_append_cons (r := r) (l := [a]) (a := b) l (by simpa using hab)
      rw [List.singleton_append] at hcut
      rw [hcut, hs]
      rfl

namespace MetricName

/-- Whether a `_` belongs between two characters. -/
def isBoundary (c d : Char) : Bool := isSmallOrDigit c && isCapital d

def safeChar (c : Char) : Char := if isNameChar c then c else '_'

/-- The stretches of a name without a boundary inside. -/
def words (s : List Char) : List (List Char) := s.splitBy fun c d => !isBoundary c d

def runs (s : List Char) : List (List Char) := s.splitBy fun c d => c = '_' && d = '_'

/-- A name in normal form: its words with a `_` between each two, in safe characters, with one character of
each run, in lower case. -/
def normalForm (name : String) : String :=
  let parted := Text.join ['_'] (words name.toList)
  let replaced := parted.map safeChar
  Text.lower (String.ofList ((runs replaced).filterMap List.head?))

/-- Boundaries looked for as pairs of characters, from left to right: the search goes on behind a pair that
was found. -/
def splitPairs : List Char → List Char
  | c :: d :: rest =>
    if isBoundary c d then c :: '_' :: d :: splitPairs rest else c :: splitPairs (d :: rest)
  | s => s

theorem splitCapitals_cons_cons (c d : Char) (rest : List Char) :
    splitCapitals (c :: d :: rest) =
      if isBoundary c d then c :: '_' :: splitCapitals (d :: rest)
      else c :: splitCapitals (d :: rest) := rfl

/-! ### Words and runs -/

theorem join_words (s : List Char) : Text.join ['_'] (words s) = splitCapitals s := by
  induction s with
  | nil => rfl
  | cons c s ih =>
    cases s with
    | nil => rfl
    | cons d rest =>
      obtain ⟨tail, later, hs, hcons⟩ := exists_splitBy_cons (fun c d => !isBoundary c d) d rest
      rw [words, hs] at ih
      rw [words, hcons, splitCapitals_cons_cons, ← ih]
      by_cases hb : isBoundary c d = true
      · simp [hb, Text.join]
      · cases later <;> simp [hb, Text.join]

theorem filterMap_head?_runs (s : List Char) : (runs s).filterMap List.head? = collapse s := by
  induction s using collapse.induct with
  | case1 rest ih =>
    obtain ⟨tail, later, hs, hcons⟩ := exists_splitBy_cons (fun c d => c = '_' && d = '_') '_' rest
    rw [runs, hs] at ih
    rw [runs, hcons, collapse, ← ih]
    simp
  | case2 c rest hne ih =>
    cases rest with
    | nil =>
      rw [collapse.eq_2 c [] hne]
      rfl
    | cons d rest =>
      obtain ⟨tail, later, hs, hcons⟩ := exists_splitBy_cons (fun c d => c = '_' && d = '_') d rest
      have hrun : ¬ (c = '_' ∧ d = '_') := fun h => hne rest h.1 (by rw [h.2])
      rw [runs, hs] at ih
      rw [runs, hcons, collapse.eq_2 c (d :: rest) hne, ← ih]
      simp [hrun]
  | case3 => rfl

/-! ### Boundaries -/

theorem splitCapitals_cons_of_not_small {c : Char} (hc : isSmallOrDigit c = false) (s : List Char) :
    splitCapitals (c :: s) = c :: splitCapitals s := by
  cases s <;> simp [splitCapitals, hc]

theorem of_isBoundary {c d : Char} (h : isBoundary c d = true) :
    c ≠ '_' ∧ d ≠ '_' ∧ isSmallOrDigit d = false := by
  obtain ⟨hc, hd⟩ := Bool.and_eq_true_iff.mp h
  have hcapital : ∀ c, isCapital c = true → isSmallOrDigit c = false := forall_isCapital (by decide)
  refine ⟨?_, (toLower_of_isCapital d hd).2.2.2, hcapital d hd⟩
  rintro rfl
  exact absurd hc (by decide)

/-- The second character of a pair begins no other pair, so that none is passed over. -/
theorem splitPairs_eq_splitCapitals (s : List Char) : splitPairs s = splitCapitals s := by
  fun_induction splitPairs s with
  | case1 c d rest hcd ih =>
    rw [splitCapitals_cons_cons, if_pos hcd, splitCapitals_cons_of_not_small (of_isBoundary hcd).2.2, ih]
  | case2 c d rest hcd ih => rw [splitCapitals_cons_cons, if_neg hcd, ih]
  | case3 s hne => rw [splitCapitals.eq_2 s hne]

/-! ### The steps in another order -/

/-- What only characters of names have, and `_` does not, is seen in the safe characters too. -/
theorem apply_safeChar {p : Char → Bool} (hname : ∀ c, p c = true → isNameChar c = true)
    (hunderscore : p '_' = false) (c : Char) : p (safeChar c) = p c := by
  unfold safeChar
  split
  · rfl
  · rename_i h
    have hp : p c = false := by
      rw [← Bool.not_eq_true]
      exact fun hc => h (hname c hc)
    rw [hunderscore, hp]

theorem isBoundary_safeChar (c d : Char) : isBoundary (safeChar c) (safeChar d) = isBoundary c d := by
  have hsmall : ∀ c, isSmallOrDigit c = true → isNameChar c = true := by
    intro c hc
    simp only [isNameChar, isSmallOrDigit] at hc ⊢
    grind
  have hcapital : ∀ c, isCapital c = true → isNameChar c = true := forall_isCapital (by decide)
  rw [isBoundary, apply_safeChar hsmall (by decide), apply_safeChar hcapital (by decide), isBoundary]

/-- Other characters than those of names stand at no boundary. -/
theorem map_safeChar_splitCapitals (s : List Char) :
    (splitCapitals s).map safeChar = splitCapitals (s.map safeChar) := by
  have hunderscore : safeChar '_' = '_' := rfl
  induction s with
  | nil => rfl
  | cons c s ih =>
    cases s with
    | nil => rfl
    | cons d rest =>
      rw [List.map_cons] at ih
      rw [List.map_cons, List.map_cons, splitCapitals_cons_cons, splitCapitals_cons_cons,
        isBoundary_safeChar, ← ih]
      by_cases hb : isBoundary c d = true
      · simp [hb, hunderscore]
      · simp [hb]

/-- There is no boundary beside a `_`, and a `_` put at a boundary has none beside it. -/
theorem collapse_splitCapitals (s : List Char) : collapse (splitCapitals s) = splitCapitals (collapse s) := by
  have hunderscore : isSmallOrDigit '_' = false := by decide
  induction s using collapse.induct with
  | case1 rest ih =>
    rw [splitCapitals_cons_of_not_small hunderscore, splitCapitals_cons_of_not_small hunderscore, collapse,
      ← splitCapitals_cons_of_not_small hunderscore, ih, collapse]
  | case2 c rest hne ih =>
    cases rest with
    | nil => simp [splitCapitals, collapse]
    | cons d rest =>
      have hrun : c ≠ '_' ∨ d ≠ '_' := by
        by_contra h
        rw [not_or, not_not, not_not] at h
        exact hne rest h.1 (by rw [h.2])
      have hhead : (splitCapitals (d :: rest)).head? = some d := head?_splitCapitals _
      obtain ⟨tail, ht⟩ := List.head?_eq_some_iff.mp (head?_collapse (d :: rest))
      rw [collapse.eq_2 c (d :: rest) hne, splitCapitals_cons_cons]
      split
      · rename_i hb
        obtain ⟨hc, hd, -⟩ := of_isBoundary hb
        rw [collapse_cons (by simp [hc]), collapse_cons (by simp [hhead, hd]), ih, ht,
          splitCapitals_cons_cons, if_pos hb]
      · rename_i hb
        rw [collapse_cons (by simpa [hhead] using hrun), ih, ht, splitCapitals_cons_cons, if_neg hb]
  | case3 => rfl

/-! ### Lower case -/

theorem toNat_lt_of_isNameChar {c : Char} (h : isNameChar c = true) : c.toNat < 128 := by
  simp only [isNameChar, Bool.or_eq_true, Bool.and_eq_true, decide_eq_true_eq, Char.le_def,
    UInt32.le_iff_toNat_le] at h
  rcases h with (((⟨-, hz⟩ | ⟨-, hz⟩) | ⟨-, hz⟩) | rfl) | rfl
  · exact Nat.lt_of_le_of_lt hz (by decide)
  · exact Nat.lt_of_le_of_lt hz (by decide)
  · exact Nat.lt_of_le_of_lt hz (by decide)
  · decide
  · decide

/-- The capitals are the first entry of the table of lower case forms, and no other is about these
characters. -/
theorem lowerCaseRanges_of_ascii :
    ∀ r ∈ Text.lowerCaseRanges, r.first = 'A'.toNat ∧ r.last = 'Z'.toNat ∨ 128 ≤ r.first := by
  decide +kernel

theorem lowerChar_of_isNameChar {c : Char} (h : isNameChar c = true) : Text.lowerChar c = c.toLower := by
  cases hc : isCapital c with
  | true =>
    have hcapital : ∀ c, isCapital c = true → Text.lowerChar c = c.toLower :=
      forall_isCapital (by decide)
    exact hcapital c hc
  | false =>
    have hnone : (Text.lowerCaseRanges.find? fun r => r.first ≤ c.toNat && c.toNat ≤ r.last) = none := by
      rw [List.find?_eq_none]
      intro r hr
      rcases lowerCaseRanges_of_ascii r hr with ⟨hfirst, hlast⟩ | hfirst
      · simpa [hfirst, hlast, isCapital, Char.le_def, UInt32.le_iff_toNat_le] using hc
      · have hlt := toNat_lt_of_isNameChar h
        simp
        omega
    rw [toLower_of_not_isCapital hc, Text.lowerChar, hnone]

theorem lowerAfter_of_isNameChar {s : List Char} (h : ∀ c ∈ s, isNameChar c = true)
    (before : List Char) : Text.lowerAfter before s = s.map Char.toLower := by
  induction s generalizing before with
  | nil => rfl
  | cons c s ih =>
    obtain ⟨hc, hs⟩ := List.forall_mem_cons.mp h
    have hsigma : c ≠ 'Σ' := by
      rintro rfl
      exact absurd hc (by decide)
    have hdotted : c ≠ 'İ' := by
      rintro rfl
      exact absurd hc (by decide)
    simp [Text.lowerAfter, hsigma, hdotted, lowerChar_of_isNameChar hc, ih hs]

/-! ### Names that stay as they are -/

theorem collapse_of_noRun {s : List Char} (h : s.IsChain fun c d => c ≠ '_' ∨ d ≠ '_') :
    collapse s = s := by
  induction s with
  | nil => rfl
  | cons c s ih =>
    rw [collapse_cons (List.isChain_cons.mp h).1, ih h.tail]

theorem sanitize_of_isNameChar {s : List Char} (h : ∀ c ∈ s, isNameChar c = true) : sanitize s = s := by
  induction s with
  | nil => rfl
  | cons c s ih =>
    obtain ⟨hc, hs⟩ := List.forall_mem_cons.mp h
    rw [sanitize_cons_of_isNameChar hc, ih hs]

theorem safeChars_safeChars (s : List Char) : safeChars (safeChars s) = safeChars s := by
  have hchars : ∀ c ∈ safeChars s, isNameChar c = true := fun c hc =>
    isNameChar_of_mem_sanitize (mem_of_mem_collapse hc)
  have hrun : (safeChars s).IsChain fun c d => c ≠ '_' ∨ d ≠ '_' := noRun_collapse _
  rw [safeChars, sanitize_of_isNameChar hchars, collapse_of_noRun hrun]

theorem SnakeForm.isSmallOrDigit_or {name : List Char} (h : SnakeForm name) :
    ∀ c ∈ name, isSmallOrDigit c = true ∨ c = ':' ∨ c = '_' := by
  intro c hc
  have hname := h.nameChars c hc
  have hcapital := h.noCapital c hc
  simp only [isNameChar, isCapital, isSmallOrDigit] at hname hcapital ⊢
  grind

theorem SnakeForm.not_infix {name : List Char} (h : SnakeForm name) : ¬ ['_', '_'] <:+: name := by
  intro hi
  have hpair := h.noRun.infix hi
  simp at hpair

/-- Snake case, computed with the boundaries found pair by pair in a safe name, is the normal form. It has
small letters, digits, `:` and `_` only, no two `_` side by side, and stays as it is. -/
theorem snake_eq_normalForm (name : String) :
    snake name = String.ofList ((splitPairs (safeChars name.toList)).map Char.toLower) ∧
      snake name = normalForm name ∧
      (∀ c ∈ (snake name).toList, isSmallOrDigit c = true ∨ c = ':' ∨ c = '_') ∧
      ¬ ['_', '_'] <:+: (snake name).toList ∧
      safe (safe name) = safe name ∧ snake (snake name) = snake name := by
  have hform : SnakeForm (snake name).toList := by
    rw [snake, String.toList_ofList]
    exact snakeForm_snakeChars _
  have hsteps : collapse ((splitCapitals name.toList).map safeChar) =
      splitCapitals (safeChars name.toList) := by
    rw [map_safeChar_splitCapitals, collapse_splitCapitals]
    rfl
  refine ⟨?_, ?_, hform.isSmallOrDigit_or, hform.not_infix, ?_, snake_eq_self_iff.mpr hform⟩
  · rw [splitPairs_eq_splitCapitals, snake, snakeChars]
  · have hlower : Text.lowerAfter [] (splitCapitals (safeChars name.toList)) = snakeChars name.toList :=
      lowerAfter_of_isNameChar (fun _ => isNameChar_of_mem_splitCapitals) []
    simp only [normalForm, Text.lower, join_words, filterMap_head?_runs, hsteps, String.toList_ofList,
      hlower, snake]
  · rw [safe, safe, String.toList_ofList, safeChars_safeChars]

end MetricName
end BeanMetrics
