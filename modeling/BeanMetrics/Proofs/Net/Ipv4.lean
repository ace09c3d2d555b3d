import BeanMetrics.Net.IpAddress
import BeanMetrics.Proofs.Text.Digits

/-!
IPv4 addresses have one text each: what is read at the head of a text is an address exactly if the text
begins with the four numbers of the address, separated by dots, and no digit follows.
-/

namespace BeanMetrics

def NoDigitAhead (base : Nat) (s : List Char) : Prop :=
  ∀ c ∈ s.head?, Text.digit? base c = none

@[simp] theorem noDigitAhead_nil (base : Nat) : NoDigitAhead base [] := by simp [NoDigitAhead]

@[simp] theorem noDigitAhead_cons {base : Nat} {c : Char} {s : List Char} :
    NoDigitAhead base (c :: s) ↔ Text.digit? base c = none := by
  simp [NoDigitAhead]

theorem after?_eq_some_iff {c : Char} {s rest : List Char} :
    after? c s = some rest ↔ s = c :: rest := by
  cases s with
  | nil => simp [after?]
  | cons d s => by_cases hd : d = c <;> simp [after?, hd]

/-- The digits that are taken are all digits ahead. -/
theorem takeDigits?_eq_some_iff {base max : Nat} {s digits rest : List Char} :
    takeDigits? base max s = some (digits, rest) ↔
      s = digits ++ rest ∧ (∀ c ∈ digits, (Text.digit? base c).isSome) ∧ NoDigitAhead base rest ∧
        digits ≠ [] ∧ digits.length ≤ max := by
  unfold takeDigits?
  generalize hp : (fun c => (Text.digit? base c).isSome) = p
  constructor
  · intro h
    dsimp only at h
    split at h
    · cases h
    · rename_i hlen
      obtain ⟨rfl, rfl⟩ := Prod.mk.inj (Option.some.inj h)
      have hs := List.takeWhile_append_dropWhile (p := p) (l := s)
      have hrest : s.drop (s.takeWhile p).length = s.dropWhile p :=
        (congrArg (List.drop _) hs.symm).trans List.drop_left
      rw [hrest]
      refine ⟨hs.symm, fun c hc => ?_, fun c hc => ?_, by simp_all, by omega⟩
      · have hpc : p c := List.all_eq_true.mp List.all_takeWhile c hc
        rwa [← hp] at hpc
      · have hn := List.head?_dropWhile_not p s
        rw [hc] at hn
        simpa [← hp] using hn
  · rintro ⟨rfl, hdigits, hrest, hne, hlen⟩
    have hw : rest.takeWhile p = [] := by
      cases rest with
      | nil => rfl
      | cons c rest => simp [← hp, noDigitAhead_cons.mp hrest]
    have ht : (digits ++ rest).takeWhile p = digits := by
      rw [List.takeWhile_append_of_pos (by simpa [← hp] using hdigits), hw, List.append_nil]
    simp [ht, hne]
    omega

namespace Ipv4

theorem toDigits_ofNat {n : Nat} (hn : n < 256) : decimal (UInt8.ofNat n) = Nat.toDigits 10 n := by
  simp [decimal, Nat.mod_eq_of_lt hn]

theorem octet?_eq_some_iff {s rest : List Char} {n : UInt8} :
    octet? s = some (n, rest) ↔ s = decimal n ++ rest ∧ NoDigitAhead 10 rest := by
  simp only [octet?, Option.bind_eq_bind, Option.bind_eq_some_iff, Prod.exists,
    takeDigits?_eq_some_iff]
  constructor
  · rintro ⟨digits, rest', ⟨rfl, hd, hr, hne, -⟩, h⟩
    split at h
    · cases h
    · rename_i hv
      obtain ⟨rfl, rfl⟩ := Prod.mk.inj (Option.some.inj h)
      simp only [not_or, not_and, not_lt, not_le] at hv
      have hdigit : ∀ c ∈ digits, c.isDigit := fun c hc => Text.isSome_digit?_ten c ▸ hd c hc
      rw [toDigits_ofNat hv.2, Text.toDigits_digitsValue hdigit hne hv.1]
      exact ⟨rfl, hr⟩
  · rintro ⟨rfl, hr⟩
    have hlt : n.toNat < 256 := n.toNat_lt
    have hlen : (decimal n).length ≤ 3 :=
      (Nat.length_toDigits_le_iff (by decide) (by decide)).mpr (by omega)
    have hvalue : Text.digitsValue 10 (decimal n) = n.toNat :=
      Text.digitsValue_toDigits (by decide) (by decide) _
    have hzero : ¬ ((decimal n).head? = some '0' ∧ 1 < (decimal n).length) := by
      rintro ⟨hhead, hlong⟩
      rcases Nat.eq_zero_or_pos n.toNat with h0 | hpos
      · simp [decimal, h0] at hlong
      · exact Text.head?_toDigits_ne_zero (by decide) hpos hhead
    refine ⟨decimal n, rest, ⟨rfl, fun c => ?_, hr, Nat.toDigits_ne_nil, hlen⟩, ?_⟩
    · exact Text.isSome_digit?_of_mem_toDigits (by decide) (by decide)
    · rw [hvalue, if_neg (not_or.mpr ⟨hzero, by omega⟩), UInt8.ofNat_toNat]
      rfl

theorem read?_eq_some_iff {s rest : List Char} {x : Ipv4} :
    read? s = some (x, rest) ↔ s = x.chars ++ rest ∧ NoDigitAhead 10 rest := by
  have hdot (t : List Char) : NoDigitAhead 10 ('.' :: t) := by simp [Text.digit?]
  simp only [read?, Option.bind_eq_bind, Option.bind_eq_some_iff, Prod.exists, octet?_eq_some_iff,
    after?_eq_some_iff, Option.pure_def, Option.some.injEq, Prod.mk.injEq]
  constructor
  · rintro ⟨a, _, ⟨rfl, -⟩, _, rfl, b, _, ⟨rfl, -⟩, _, rfl, c, _, ⟨rfl, -⟩, _, rfl, d, _, ⟨rfl, hr⟩,
      rfl, rfl⟩
    simp [chars, hr]
  · rintro ⟨rfl, hr⟩
    refine ⟨x.a, _, ⟨?_, hdot _⟩, _, rfl, x.b, _, ⟨rfl, hdot _⟩, _, rfl, x.c, _, ⟨rfl, hdot _⟩, _, rfl,
      x.d, _, ⟨rfl, hr⟩, rfl, rfl⟩
    simp [chars]

/-! ### The characters of an address -/

theorem isDigit_of_mem_decimal {n : UInt8} {c : Char} (h : c ∈ decimal n) : c.isDigit :=
  Nat.isDigit_of_mem_toDigits (by decide) (by decide) h

theorem isDigit_or_dot {x : Ipv4} {c : Char} (h : c ∈ x.chars) : c.isDigit ∨ c = '.' := by
  simp only [chars, List.mem_append, List.mem_cons] at h
  rcases h with h | rfl | h | rfl | h | rfl | h
  all_goals first | exact .inr rfl | exact .inl (isDigit_of_mem_decimal h)

theorem colon_notMem_chars (x : Ipv4) : ':' ∉ x.chars := fun h => by
  simpa using isDigit_or_dot h

theorem dot_mem_chars (x : Ipv4) : '.' ∈ x.chars := by simp [chars]

/-- An address begins with digits and a dot behind them. -/
theorem read?_eq_none_of_head {digits rest : List Char} (hd : '.' ∉ digits)
    (hr : ∀ c ∈ rest.head?, ¬ c.isDigit ∧ c ≠ '.') : read? (digits ++ rest) = none := by
  rw [Option.eq_none_iff_forall_ne_some]
  rintro ⟨x, after⟩ h
  have he := (read?_eq_some_iff.mp h).1
  simp only [chars, List.append_assoc, List.cons_append] at he
  rcases List.append_eq_append_iff.mp he with ⟨more, hx, hmore⟩ | ⟨more, hx, hmore⟩
  · -- the text goes on where the first number does, or behind it
    cases more with
    | nil => exact (hr '.' (by simp [hmore])).2 rfl
    | cons c more =>
      have hc : c ∈ decimal x.a := by simp [hx]
      exact (hr c (by simp [hmore])).1 (isDigit_of_mem_decimal hc)
  · cases more with
    | nil =>
      rw [List.nil_append] at hmore
      exact (hr '.' (by simp [← hmore])).2 rfl
    | cons c more =>
      obtain ⟨rfl, -⟩ := List.cons.inj hmore
      exact hd (by simp [hx])

theorem groups_ofGroups (high low : UInt16) : (ofGroups high low).groups = [high, low] := by
  have hsplit (g : UInt16) : UInt16.ofNat ((UInt8.ofNat (g.toNat / 256)).toNat * 256 +
      (UInt8.ofNat (g.toNat % 256)).toNat) = g := by
    have hg : g.toNat < 65536 := g.toNat_lt
    have hhigh : g.toNat / 256 < 256 := by omega
    have hlow : g.toNat % 256 < 256 := by omega
    apply UInt16.toNat_inj.mp
    simp only [UInt8.toNat_ofNat', UInt16.toNat_ofNat']
    omega
  simp only [groups, ofGroups, hsplit]

end Ipv4
end BeanMetrics
