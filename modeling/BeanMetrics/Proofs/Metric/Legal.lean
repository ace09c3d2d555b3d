import BeanMetrics.Proofs.Metric.Name

/-!
Names that are legal for metrics and for labels. A name in snake case has the right characters, and it is
legal unless it begins with a digit; that it does if the name it was made of does.
-/

namespace BeanMetrics
namespace MetricName

def isNameStart (c : Char) : Bool :=
  ('a' ≤ c && c ≤ 'z') || ('A' ≤ c && c ≤ 'Z') || c = ':' || c = '_'

/-- A letter, `:` or `_`, and then any number of these and of digits. -/
def isLegal (name : String) : Bool :=
  match name.toList with
  | [] => false
  | c :: rest => isNameStart c && rest.all isNameChar

def isLegalLabel (name : String) : Bool := isLegal name && !name.toList.contains ':'

def startsWithDigit (name : String) : Bool := name.toList.head?.any Char.isDigit

/-! ### The first character -/

theorem isNameChar_of_isNameStart {c : Char} (h : isNameStart c = true) : isNameChar c = true := by
  simp only [isNameStart, isNameChar] at h ⊢
  grind

/-- A digit is the only character of names that none may begin with. -/
theorem isNameStart_eq_not_isDigit {c : Char} (h : isNameChar c = true) :
    isNameStart c = !c.isDigit := by
  by_cases hcolon : c = ':'
  · rw [hcolon]
    decide
  by_cases hunderscore : c = '_'
  · rw [hunderscore]
    decide
  simp only [isNameStart, isNameChar, Char.isDigit, hcolon, hunderscore, Char.le_def, ge_iff_le,
    UInt32.le_iff_toNat_le] at h ⊢
  grind

theorem isDigit_of_isCapital : ∀ c, isCapital c = true →
    c.toLower.isDigit = false ∧ c.isDigit = false :=
  forall_isCapital (by decide)

@[simp] theorem isDigit_toLower (c : Char) : c.toLower.isDigit = c.isDigit := by
  cases hc : isCapital c with
  | true => rw [(isDigit_of_isCapital c hc).1, (isDigit_of_isCapital c hc).2]
  | false => rw [toLower_of_not_isCapital hc]

theorem isNameChar_of_isDigit {c : Char} (h : c.isDigit = true) : isNameChar c = true := by
  simp only [Char.isDigit, isNameChar, Char.le_def, ge_iff_le] at h ⊢
  grind

/-! ### Legal names -/

theorem isLegal_iff {name : String} :
    isLegal name = true ↔
      name ≠ "" ∧ (∀ c ∈ name.toList, isNameChar c = true) ∧ startsWithDigit name = false := by
  unfold isLegal startsWithDigit
  rw [Ne, ← String.toList_inj]
  cases name.toList with
  | nil => simp
  | cons c rest =>
    simp only [Bool.and_eq_true, List.all_eq_true, List.forall_mem_cons, List.head?_cons,
      Option.any_some]
    constructor
    · rintro ⟨hc, hrest⟩
      have hn := isNameChar_of_isNameStart hc
      rw [isNameStart_eq_not_isDigit hn] at hc
      exact ⟨by simp, ⟨hn, hrest⟩, by simpa using hc⟩
    · rintro ⟨-, ⟨hn, hrest⟩, hc⟩
      exact ⟨by rw [isNameStart_eq_not_isDigit hn, hc]; rfl, hrest⟩

theorem startsWithDigit_append {start : String} (h : start ≠ "") (rest : String) :
    startsWithDigit (start ++ rest) = startsWithDigit start := by
  have hne : start.toList ≠ [] := by simpa using h
  rw [startsWithDigit, String.toList_append, List.head?_append_of_ne_nil _ hne, startsWithDigit]

theorem isLegal_append {start rest : String} (h : isLegal start = true)
    (hr : ∀ c ∈ rest.toList, isNameChar c = true) : isLegal (start ++ rest) = true := by
  obtain ⟨hne, hchars, hd⟩ := isLegal_iff.mp h
  refine isLegal_iff.mpr ⟨by simp [hne], fun c hc => ?_, ?_⟩
  · rw [String.toList_append] at hc
    exact (List.mem_append.mp hc).elim (hchars c) (hr c)
  · rw [startsWithDigit_append hne, hd]

/-- Nothing of what makes snake case moves the first character. -/
theorem head?_snakeChars (s : List Char) :
    (snakeChars s).head? = s.head?.map fun c => (if isNameChar c then c else '_').toLower := by
  rw [snakeChars, List.head?_map, head?_splitCapitals, safeChars, head?_collapse, sanitize,
    List.head?_map, Option.map_map]
  rfl

theorem startsWithDigit_snake (name : String) : startsWithDigit (snake name) = startsWithDigit name := by
  unfold startsWithDigit snake
  rw [String.toList_ofList, head?_snakeChars, Option.any_map]
  congr 1
  funext c
  by_cases hc : isNameChar c = true
  · simp [hc]
  · have hd : c.isDigit = false := by
      simpa using mt isNameChar_of_isDigit hc
    simp [hc, hd]

/-- A name in snake case is legal unless it was made of one that begins with a digit. -/
theorem isLegal_snake {name : String} (h : name ≠ "") : isLegal (snake name) = !startsWithDigit name := by
  have hchars : ∀ c ∈ (snake name).toList, isNameChar c = true := by
    rw [snake, String.toList_ofList]
    exact (snakeForm_snakeChars _).nameChars
  have hne : snake name ≠ "" := by
    intro he
    have hh := congrArg (fun n : String => n.toList.head?) he
    simp only [snake, String.toList_ofList, head?_snakeChars] at hh
    exact h (by simpa using hh)
  rw [Bool.eq_iff_iff, isLegal_iff, startsWithDigit_snake, Bool.not_eq_true']
  exact ⟨fun hl => hl.2.2, fun hd => ⟨hne, hchars, hd⟩⟩

theorem startsWithDigit_joinComponents {first : String} (h : first ≠ "") (components : List String) :
    startsWithDigit (joinComponents (first :: components)) = startsWithDigit first := by
  rw [joinComponents_cons h]
  split
  · rfl
  · rw [String.append_assoc, startsWithDigit_append h]

end MetricName

/-- What is replaced begins as it did, unless the target stood at the beginning. -/
theorem Text.head?_replaceAll {target replacement : List Char} (ht : target ≠ [])
    (hr : replacement ≠ []) (s : List Char) :
    (replaceAll target replacement s).head? =
      if target.isPrefixOf s then replacement.head? else s.head? := by
  cases s with
  | nil =>
    have hp : target.isPrefixOf [] = false := by cases target <;> simp_all
    simp [replaceAll_nil ht, hp]
  | cons c cs =>
    rw [replaceAll_cons ht]
    split
    · exact List.head?_append_of_ne_nil _ hr
    · rfl

end BeanMetrics
