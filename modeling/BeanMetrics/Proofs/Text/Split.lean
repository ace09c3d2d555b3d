import BeanMetrics.Text.Split
import Mathlib.Data.List.Basic
import Mathlib.Logic.Function.Basic

/-! What is put together with a separator behind every piece is cut into these pieces again, and
beginnings and endings that are taken off a text were there. -/
namespace BeanMetrics
namespace Text

theorem splitAll_append_sep {sep : Char} {piece : List Char} (hp : sep ∉ piece)
    (rest : List Char) : splitAll sep (piece ++ sep :: rest) = piece :: splitAll sep rest := by
  induction piece with
  | nil => simp [splitAll]
  | cons c cs ih =>
    have hc : c ≠ sep := fun he => hp (by simp [he])
    have ht := ih fun hm => hp (List.mem_cons_of_mem c hm)
    rw [List.cons_append, splitAll, if_neg hc, ht]

theorem splitAll_terminated {sep : Char} {pieces : List (List Char)}
    (hp : ∀ piece ∈ pieces, sep ∉ piece) :
    splitAll sep (pieces.flatMap (· ++ [sep])) = pieces ++ [[]] := by
  induction pieces with
  | nil => rfl
  | cons piece pieces ih =>
    have hh : sep ∉ piece := hp piece (by simp)
    have ht := ih fun q hq => hp q (List.mem_cons_of_mem piece hq)
    rw [List.flatMap_cons, List.append_assoc, List.singleton_append, splitAll_append_sep hh, ht,
      List.cons_append]

theorem eq_of_append_sep_eq {sep : Char} {before after before' after' : List Char}
    (hb : sep ∉ before) (ha : sep ∉ after)
    (h : before' ++ sep :: after' = before ++ sep :: after) : before' = before := by
  have hb' : sep ∉ before' := by
    intro hm
    have hcount := congrArg (List.count sep) h
    have hpos := List.count_pos_iff.mpr hm
    simp only [List.count_append, List.count_cons_self, List.count_eq_zero_of_not_mem hb,
      List.count_eq_zero_of_not_mem ha] at hcount
    omega
  have hs' := splitFirst_eq_some_iff.mpr ⟨h.symm, hb'⟩
  have hs := splitFirst_eq_some_iff.mpr ⟨rfl (a := before ++ sep :: after), hb⟩
  exact congrArg Prod.fst (Option.some.inj (hs'.symm.trans hs))

theorem splitLast_eq_none_iff {sep : Char} {s : List Char} : splitLast sep s = none ↔ sep ∉ s := by
  simp [splitLast, splitFirst_eq_none_iff]

@[simp] theorem dropStart?_append (start s : List Char) :
    dropStart? start (start ++ s) = some s := by
  simp [dropStart?]

theorem dropStart?_cons_of_head? {c : Char} {start s : List Char} (hs : s.head? ≠ some c) :
    dropStart? (c :: start) s = none := by
  cases s with
  | nil => rfl
  | cons d ds =>
    have hd : ¬ c = d := fun he => hs (by simp [he])
    simp [dropStart?, hd]

@[simp] theorem dropEnd?_append (s ending : List Char) : dropEnd? ending (s ++ ending) = some s := by
  simp [dropEnd?]

theorem eq_append_of_dropEnd? {ending s start : List Char} (h : dropEnd? ending s = some start) :
    s = start ++ ending := by
  unfold dropEnd? at h
  split at h
  · rename_i hs
    obtain ⟨front, rfl⟩ := List.isSuffixOf_iff_suffix.mp hs
    simpa using h
  · cases h

/-! ### Replacing two characters -/

section Pair

variable {b w : Char} (replacement : List Char)

theorem head?_append_ne {s rest : List Char} (hs : w ∉ s) (hrest : rest.head? ≠ some w) :
    (s ++ rest).head? ≠ some w := by
  cases s with
  | nil => exact hrest
  | cons d s => simpa using (List.ne_and_not_mem_of_not_mem_cons hs).1.symm

/-- Where the second character is missing, there is nothing to replace, nor is there where a part without
it ends. -/
theorem replaceAll_pair_append {s rest : List Char} (hs : w ∉ s) (hrest : rest.head? ≠ some w) :
    replaceAll [b, w] replacement (s ++ rest) = s ++ replaceAll [b, w] replacement rest := by
  induction s with
  | nil => rfl
  | cons c s ih =>
    obtain ⟨-, hlater⟩ := List.ne_and_not_mem_of_not_mem_cons hs
    have hnext : (s ++ rest).head? ≠ some w := head?_append_ne hlater hrest
    have hno : ¬ [b, w].isPrefixOf (c :: (s ++ rest)) = true := by
      intro hp
      obtain ⟨after, he⟩ := List.isPrefixOf_iff_prefix.mp hp
      rw [← (List.cons.inj he).2] at hnext
      exact hnext rfl
    rw [List.cons_append, replaceAll_cons (List.cons_ne_nil _ _), if_neg hno, ih hlater,
      List.cons_append]

theorem replaceAll_pair_cons (rest : List Char) :
    replaceAll [b, w] replacement (b :: w :: rest) =
      replacement ++ replaceAll [b, w] replacement rest := by
  rw [replaceAll_cons (List.cons_ne_nil _ _), if_pos (by simp)]
  rfl

/-- If every character is written in its own way and `w`, which no other one needs, as `b` and `w`, then
to replace these two is to write `w` in another way. -/
theorem replaceAll_flatMap {f : Char → List Char} (hbw : b ≠ w) (hf : f w = [b, w])
    (hothers : ∀ c, c ≠ w → w ∉ f c) (s : List Char) :
    replaceAll [b, w] replacement (s.flatMap f) = s.flatMap (Function.update f w replacement) := by
  -- nothing that is written begins with `w`, so a `b` at the end of one finds no `w` in the next
  have hhead (s : List Char) : (s.flatMap f).head? ≠ some w := by
    induction s with
    | nil => simp
    | cons c s ih =>
      rw [List.flatMap_cons]
      by_cases hc : c = w
      · simpa [hc, hf] using hbw
      · exact head?_append_ne (hothers c hc) ih
  induction s with
  | nil => exact replaceAll_nil (List.cons_ne_nil _ _) replacement
  | cons c s ih =>
    rw [List.flatMap_cons, List.flatMap_cons]
    by_cases hc : c = w
    · subst hc
      rw [hf, Function.update_self, ← ih]
      exact replaceAll_pair_cons replacement _
    · rw [Function.update_of_ne hc, replaceAll_pair_append replacement (hothers c hc) (hhead s), ih]

end Pair

end Text
end BeanMetrics
