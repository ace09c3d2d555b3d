import BeanMetrics.Metric.Name
import Mathlib.Data.List.Chain

/-!
The names that snake case leaves as they are, which are the names that it makes. A beginning of such a
name is one again. Behind a beginning that stays as it is, the rest comes to the same as alone.
-/

namespace BeanMetrics
namespace MetricName

/-- Small letters, digits, `:` and `_`, and no two `_` side by side. -/
structure SnakeForm (name : List Char) : Prop where
  nameChars : ∀ c ∈ name, isNameChar c = true
  noCapital : ∀ c ∈ name, isCapital c = false
  noRun : name.IsChain fun c d => c ≠ '_' ∨ d ≠ '_'

theorem SnakeForm.of_append {start rest : List Char} (h : SnakeForm (start ++ rest)) :
    SnakeForm start where
  nameChars c hc := h.nameChars c (List.mem_append_left rest hc)
  noCapital c hc := h.noCapital c (List.mem_append_left rest hc)
  noRun := h.noRun.left_of_append

/-! ### Small letters -/

theorem toLower_of_not_isCapital {c : Char} (h : isCapital c = false) : c.toLower = c := by
  have hu : ¬ (c.val ≥ 'A'.val ∧ c.val ≤ 'Z'.val) := by
    simpa [isCapital, Char.le_def] using h
  exact dif_neg hu

theorem forall_isCapital {p : Char → Prop} (h : ∀ n : Fin 26, p (Char.ofNat ('A'.toNat + n))) :
    ∀ c, isCapital c = true → p c := by
  intro c hc
  simp only [isCapital, Bool.and_eq_true, decide_eq_true_eq, Char.le_def, UInt32.le_iff_toNat_le] at hc
  have hlow : 'A'.toNat ≤ c.toNat := hc.1
  have hhigh : c.toNat ≤ 'A'.toNat + 25 := hc.2
  have hp := h ⟨c.toNat - 'A'.toNat, by omega⟩
  dsimp only at hp
  rwa [Nat.add_sub_cancel' hlow, Char.ofNat_toNat] at hp

theorem toLower_of_isCapital : ∀ c, isCapital c = true →
    isNameChar c.toLower = true ∧ isCapital c.toLower = false ∧ c.toLower ≠ '_' ∧ c ≠ '_' :=
  forall_isCapital (by decide)

theorem isNameChar_toLower {c : Char} (h : isNameChar c = true) : isNameChar c.toLower = true := by
  cases hc : isCapital c with
  | true => exact (toLower_of_isCapital c hc).1
  | false => rwa [toLower_of_not_isCapital hc]

@[simp] theorem isCapital_toLower (c : Char) : isCapital c.toLower = false := by
  cases hc : isCapital c with
  | true => exact (toLower_of_isCapital c hc).2.1
  | false => rwa [toLower_of_not_isCapital hc]

@[simp] theorem toLower_eq_underscore_iff {c : Char} : c.toLower = '_' ↔ c = '_' := by
  cases hc : isCapital c with
  | true => simp [toLower_of_isCapital c hc]
  | false => rw [toLower_of_not_isCapital hc]

/-! ### One character after another -/

theorem sanitize_cons_of_isNameChar {c : Char} (hc : isNameChar c = true) (s : List Char) :
    sanitize (c :: s) = c :: sanitize s := by
  simp [sanitize, hc]

theorem head?_collapse (s : List Char) : (collapse s).head? = s.head? := by
  induction s using collapse.induct with
  | case1 rest ih =>
    rw [collapse, ih]
    rfl
  | case2 c rest hne ih => rw [collapse.eq_2 c rest hne, List.head?_cons, List.head?_cons]
  | case3 => rfl

theorem collapse_cons {c : Char} {s : List Char} (h : ∀ d ∈ s.head?, c ≠ '_' ∨ d ≠ '_') :
    collapse (c :: s) = c :: collapse s := by
  refine collapse.eq_2 c s fun rest hc hs => ?_
  subst hs
  simpa [hc] using h '_' rfl

theorem splitCapitals_cons {c : Char} {s : List Char} (h : ∀ d ∈ s.head?, isCapital d = false) :
    splitCapitals (c :: s) = c :: splitCapitals s := by
  cases s with
  | nil => rfl
  | cons d rest =>
    have hd : isCapital d = false := h d rfl
    simp [splitCapitals, hd]

/-- A character of a snake case name stays as it is, and so does what comes of the rest, unless a `_`
or a capital follows. -/
theorem snakeChars_cons {c : Char} {s : List Char} (hc : isNameChar c = true)
    (hcapital : isCapital c = false)
    (hs : ∀ d ∈ s.head?, isNameChar d = true ∧ isCapital d = false ∧ (c ≠ '_' ∨ d ≠ '_')) :
    snakeChars (c :: s) = c :: snakeChars s := by
  have hhead : (sanitize s).head? = s.head? := by
    cases s with
    | nil => rfl
    | cons d rest => rw [sanitize_cons_of_isNameChar (hs d rfl).1, List.head?_cons, List.head?_cons]
  have hsafe : safeChars (c :: s) = c :: safeChars s := by
    rw [safeChars, sanitize_cons_of_isNameChar hc]
    exact collapse_cons fun d hd => (hs d (hhead ▸ hd)).2.2
  have hsplit : splitCapitals (c :: safeChars s) = c :: splitCapitals (safeChars s) := by
    refine splitCapitals_cons fun d hd => (hs d ?_).2.1
    rwa [safeChars, head?_collapse, hhead] at hd
  rw [snakeChars, hsafe, hsplit, List.map_cons, toLower_of_not_isCapital hcapital, snakeChars]

/-- Behind a beginning that stays as it is, the rest comes to the same as alone. -/
theorem snakeChars_append {start s : List Char} (h : SnakeForm (start ++ s.head?.toList)) :
    snakeChars (start ++ s) = start ++ snakeChars s := by
  induction start with
  | nil => rfl
  | cons c start ih =>
    have hrest : SnakeForm (start ++ s.head?.toList) :=
      ⟨fun d hd => h.nameChars d (List.mem_cons_of_mem c hd),
        fun d hd => h.noCapital d (List.mem_cons_of_mem c hd), h.noRun.tail⟩
    have hhead : (start ++ s).head? = (start ++ s.head?.toList).head? := by
      cases start <;> cases s <;> rfl
    rw [List.cons_append, snakeChars_cons (h.nameChars c List.mem_cons_self)
      (h.noCapital c List.mem_cons_self), ih hrest, List.cons_append]
    intro d hd
    rw [hhead] at hd
    have hm : d ∈ start ++ s.head?.toList := List.mem_of_mem_head? hd
    exact ⟨hrest.nameChars d hm, hrest.noCapital d hm, (List.isChain_cons.mp h.noRun).1 d hd⟩

theorem snakeChars_of_snakeForm {s : List Char} (h : SnakeForm s) : snakeChars s = s := by
  have hs := @snakeChars_append s [] (by simpa using h)
  simpa [snakeChars, safeChars, sanitize, collapse, splitCapitals] using hs

/-! ### What snake case makes -/

theorem isNameChar_of_mem_sanitize {s : List Char} {c : Char} (h : c ∈ sanitize s) :
    isNameChar c = true := by
  obtain ⟨d, -, rfl⟩ := List.mem_map.mp h
  split
  · assumption
  · decide

theorem mem_of_mem_collapse {s : List Char} {c : Char} (h : c ∈ collapse s) : c ∈ s := by
  induction s using collapse.induct with
  | case1 rest ih =>
    rw [collapse] at h
    exact List.mem_cons_of_mem _ (ih h)
  | case2 d rest hne ih =>
    rw [collapse.eq_2 d rest hne] at h
    rcases List.mem_cons.mp h with rfl | hr
    · exact List.mem_cons_self
    · exact List.mem_cons_of_mem _ (ih hr)
  | case3 => exact h

theorem noRun_collapse (s : List Char) : (collapse s).IsChain fun c d => c ≠ '_' ∨ d ≠ '_' := by
  induction s using collapse.induct with
  | case1 rest ih =>
    rw [collapse]
    exact ih
  | case2 c rest hne ih =>
    rw [collapse.eq_2 c rest hne, List.isChain_cons, head?_collapse]
    refine ⟨fun d hd => ?_, ih⟩
    -- the first two characters are not both `_`, or they would have become one
    by_contra hr
    rw [not_or, not_not, not_not] at hr
    obtain ⟨tail, rfl⟩ := List.head?_eq_some_iff.mp hd
    exact hne tail hr.1 (by rw [hr.2])
  | case3 => exact .nil

theorem head?_splitCapitals (s : List Char) : (splitCapitals s).head? = s.head? := by
  fun_cases splitCapitals s <;> simp [*]

theorem mem_splitCapitals {s : List Char} {c : Char} (h : c ∈ splitCapitals s) : c ∈ s ∨ c = '_' := by
  fun_induction splitCapitals s <;> grind

theorem noRun_splitCapitals {s : List Char} (h : s.IsChain fun c d => c ≠ '_' ∨ d ≠ '_') :
    (splitCapitals s).IsChain fun c d => c ≠ '_' ∨ d ≠ '_' := by
  fun_induction splitCapitals s with
  | case1 c d rest hcd ih =>
    obtain ⟨hc, hd⟩ := Bool.and_eq_true_iff.mp hcd
    have hr := ih h.tail
    rw [List.isChain_cons_cons, List.isChain_cons, head?_splitCapitals]
    refine ⟨.inl ?_, fun e he => .inr ?_, hr⟩
    · rintro rfl
      exact absurd hc (by decide)
    · obtain rfl := Option.some.inj he
      exact (toLower_of_isCapital d hd).2.2.2
  | case2 c d rest hcd ih =>
    rw [List.isChain_cons, head?_splitCapitals]
    obtain ⟨hh, ht⟩ := List.isChain_cons.mp h
    exact ⟨hh, ih ht⟩
  | case3 s hne => exact h

theorem isNameChar_of_mem_splitCapitals {s : List Char} {c : Char}
    (h : c ∈ splitCapitals (safeChars s)) : isNameChar c = true := by
  rcases mem_splitCapitals h with hm | rfl
  · exact isNameChar_of_mem_sanitize (mem_of_mem_collapse hm)
  · decide

theorem snakeForm_snakeChars (s : List Char) : SnakeForm (snakeChars s) where
  nameChars c hc := by
    obtain ⟨d, hd, rfl⟩ := List.mem_map.mp hc
    exact isNameChar_toLower (isNameChar_of_mem_splitCapitals hd)
  noCapital c hc := by
    obtain ⟨d, -, rfl⟩ := List.mem_map.mp hc
    exact isCapital_toLower d
  noRun := by
    rw [snakeChars, List.isChain_map]
    exact (noRun_splitCapitals (noRun_collapse _)).imp fun c d h => by simpa using h

theorem snakeChars_eq_self_iff {s : List Char} : snakeChars s = s ↔ SnakeForm s :=
  ⟨fun h => h ▸ snakeForm_snakeChars s, snakeChars_of_snakeForm⟩

/-! ### Beginnings -/

theorem prefix_collapse (start s : List Char) : collapse start <+: collapse (start ++ s) := by
  fun_induction collapse start with
  | case1 rest ih =>
    rw [List.cons_append, List.cons_append, collapse]
    exact ih
  | case2 c rest hne ih =>
    by_cases hr : c = '_' ∧ rest = [] ∧ s.head? = some '_'
    · obtain ⟨rfl, rfl, hs⟩ := hr
      have hh : (collapse ('_' :: s)).head? = some '_' := head?_collapse _
      obtain ⟨tail, ht⟩ := List.head?_eq_some_iff.mp hh
      exact ⟨tail, by simp [collapse, ht]⟩
    · have hc : ∀ d ∈ (rest ++ s).head?, c ≠ '_' ∨ d ≠ '_' := by
        intro d hd
        by_contra hn
        rw [not_or, not_not, not_not] at hn
        obtain ⟨rfl, rfl⟩ := hn
        cases rest with
        | nil => exact hr ⟨rfl, rfl, hd⟩
        | cons e rest =>
          obtain rfl := Option.some.inj hd
          exact hne rest rfl rfl
      rw [List.cons_append, collapse_cons hc]
      exact List.cons_prefix_cons.mpr ⟨rfl, ih⟩
  | case3 => exact List.nil_prefix

theorem prefix_splitCapitals (start s : List Char) :
    splitCapitals start <+: splitCapitals (start ++ s) := by
  fun_induction splitCapitals start with
  | case1 c d rest hcd ih =>
    rw [List.cons_append, List.cons_append, splitCapitals, if_pos hcd]
    simpa using ih
  | case2 c d rest hcd ih =>
    rw [List.cons_append, List.cons_append, splitCapitals, if_neg hcd]
    simpa using ih
  | case3 start hne =>
    cases start with
    | nil => exact List.nil_prefix
    | cons c rest =>
      cases rest with
      | cons d rest => exact absurd rfl (hne c d rest)
      | nil =>
        have hh : (splitCapitals (c :: s)).head? = some c := head?_splitCapitals _
        obtain ⟨tail, ht⟩ := List.head?_eq_some_iff.mp hh
        exact ⟨tail, by simp [ht]⟩

theorem prefix_snakeChars (start s : List Char) : snakeChars start <+: snakeChars (start ++ s) := by
  have hsafe : safeChars start <+: safeChars (start ++ s) := by
    rw [safeChars, safeChars, sanitize, sanitize, List.map_append]
    exact prefix_collapse _ _
  obtain ⟨rest, hr⟩ := hsafe
  rw [snakeChars, snakeChars, ← hr]
  exact (prefix_splitCapitals _ _).map _

/-! ### Names as texts -/

theorem snake_eq_self_iff {name : String} : snake name = name ↔ SnakeForm name.toList := by
  rw [← snakeChars_eq_self_iff, ← String.toList_inj, snake, String.toList_ofList]

theorem snake_eq_self_of_append {start rest name : String} (h : snake name = start ++ rest) :
    snake start = start := by
  have hn : SnakeForm (start ++ rest).toList := by
    rw [← h, snake, String.toList_ofList]
    exact snakeForm_snakeChars _
  rw [String.toList_append] at hn
  exact snake_eq_self_iff.mpr (hn.of_append)

theorem snake_ne_append {name ending : String} (h : ending ≠ "") : snake name ≠ name ++ ending := by
  intro he
  rw [snake_eq_self_of_append he] at he
  exact h (by simpa using congrArg String.toList he)

theorem snake_append_of_eq_self {start : String} (h : snake (start ++ "_") = start ++ "_")
    (rest : String) : snake (start ++ "_" ++ rest) = start ++ snake ("_" ++ rest) := by
  have hs : SnakeForm (start.toList ++ ['_']) := by
    simpa using snake_eq_self_iff.mp h
  rw [← String.toList_inj]
  simpa [snake] using @snakeChars_append start.toList ('_' :: rest.toList) hs

theorem prefix_snake (start rest : String) :
    (snake start).toList <+: (snake (start ++ rest)).toList := by
  simpa [snake] using prefix_snakeChars start.toList rest.toList

/-- The first component and, if there is one, the rest behind a `_`. -/
theorem joinComponents_cons {first : String} (h : first ≠ "") (components : List String) :
    joinComponents (first :: components) =
      if components.all (· = "") then first else first ++ "_" ++ joinComponents components := by
  unfold joinComponents
  rw [List.filter_cons_of_pos (by simpa using h)]
  cases hc : components.filter (· ≠ "") with
  | nil =>
    have ha : components.all (· = "") = true := by simpa using hc
    simp [ha, Text.join]
  | cons next rest =>
    have hm : next ∈ components.filter (· ≠ "") := by rw [hc]; exact List.mem_cons_self
    obtain ⟨hm, hne⟩ := List.mem_filter.mp hm
    have ha : components.all (· = "") = false :=
      List.all_eq_false.mpr ⟨next, hm, by simpa using hne⟩
    rw [← String.toList_inj]
    simp [ha, Text.join]

end MetricName
end BeanMetrics
