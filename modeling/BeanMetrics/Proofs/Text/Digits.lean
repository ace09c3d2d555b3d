import BeanMetrics.Text.Digits
import Mathlib.Data.List.Induction
import Mathlib.Tactic.IntervalCases

/-!
Numbers that are printed are read again: the digits of a number have its value, and digits without a
leading zero are those of their value. Decimal digits and their value are those of the standard library.
-/

namespace BeanMetrics
namespace Text

/-! ### Digits -/

theorem digit?_digitChar {base n : Nat} (hn : n < base) (hb : base ≤ 16) :
    digit? base (Nat.digitChar n) = some n := by
  have hlt : n < 16 := by omega
  interval_cases n <;> simp [digit?, Nat.digitChar] <;> omega

theorem digitsValue_concat (base : Nat) (digits : List Char) (c : Char) :
    digitsValue base (digits ++ [c]) = base * digitsValue base digits + (digit? base c).getD 0 := by
  simp [digitsValue]

theorem digitsValue_toDigits {base : Nat} (h1 : 1 < base) (hb : base ≤ 16) (n : Nat) :
    digitsValue base (Nat.toDigits base n) = n := by
  induction n using Nat.strong_induction_on with
  | _ n ih =>
    rw [Nat.toDigits_eq_if h1]
    split
    · rename_i hn
      simp [digitsValue, digit?_digitChar hn hb]
    · rename_i hn
      have hlt : n / base < n := Nat.div_lt_self (by omega) h1
      have hm : n % base < base := Nat.mod_lt n (by omega)
      rw [digitsValue_concat, ih _ hlt, digit?_digitChar hm hb, Option.getD_some]
      exact Nat.div_add_mod n base

theorem isSome_digit?_of_mem_toDigits {base : Nat} (h1 : 1 < base) (hb : base ≤ 16) {n : Nat} {c : Char}
    (hc : c ∈ Nat.toDigits base n) : (digit? base c).isSome := by
  induction n using Nat.strong_induction_on with
  | _ n ih =>
    rw [Nat.toDigits_eq_if h1] at hc
    split at hc
    · rename_i hn
      obtain rfl := List.mem_singleton.mp hc
      simp [digit?_digitChar hn hb]
    · rename_i hn
      rcases List.mem_append.mp hc with hc | hc
      · exact ih _ (Nat.div_lt_self (by omega) h1) hc
      · obtain rfl := List.mem_singleton.mp hc
        simp [digit?_digitChar (Nat.mod_lt n (show 0 < base by omega)) hb]

theorem head?_toDigits_ne_zero {base n : Nat} (h1 : 1 < base) (hn : 0 < n) :
    (Nat.toDigits base n).head? ≠ some '0' := by
  induction n using Nat.strong_induction_on with
  | _ n ih =>
    rw [Nat.toDigits_eq_if h1]
    split
    · simp; omega
    · rename_i hle
      have hdiv : 0 < n / base := Nat.div_pos (by omega) (by omega)
      obtain ⟨c, rest, hc⟩ := List.exists_cons_of_ne_nil (Nat.toDigits_ne_nil (n := n / base) (b := base))
      have hhead := ih _ (Nat.div_lt_self hn h1) hdiv
      rw [hc] at hhead ⊢
      simpa using hhead

/-! ### Decimal digits -/

theorem isDigit_iff {c : Char} : c.isDigit ↔ '0' ≤ c ∧ c ≤ '9' := by
  simp [Char.isDigit, Char.le_def]

theorem digit?_ten (c : Char) :
    digit? 10 c = if c.isDigit then some (c.toNat - '0'.toNat) else none := by
  by_cases hc : c.isDigit
  · have hr := isDigit_iff.mp hc
    have h9 : c.toNat ≤ '9'.toNat := hr.2
    have hlt : c.toNat - '0'.toNat < 10 := by simp at h9 ⊢; omega
    simp only [digit?, hr, and_self, if_true, hc, Option.filter_some, hlt, decide_true]
  · have hr : ¬ ('0' ≤ c ∧ c ≤ '9') := fun h => hc (isDigit_iff.mpr h)
    simp only [digit?, hr, if_false, hc]
    split
    · simp
    · split <;> simp

theorem isSome_digit?_ten (c : Char) : (digit? 10 c).isSome = c.isDigit := by
  rw [digit?_ten]
  cases c.isDigit <;> rfl

theorem digitsValue_ten {digits : List Char} (h : ∀ c ∈ digits, c.isDigit) :
    digitsValue 10 digits = Nat.ofDigitChars 10 digits 0 := by
  induction digits using List.reverseRecOn with
  | nil => rfl
  | append_singleton digits c ih =>
    have hc : c.isDigit := h c (by simp)
    have hd := ih fun d hm => h d (List.mem_append_left _ hm)
    rw [digitsValue_concat, digit?_ten, if_pos hc, hd, Nat.ofDigitChars_append]
    simp [Nat.ofDigitChars_cons]

theorem digitChar_of_isDigit {c : Char} (hc : c.isDigit) : Nat.digitChar (c.toNat - '0'.toNat) = c := by
  have hr := isDigit_iff.mp hc
  have h0 : '0'.toNat ≤ c.toNat := hr.1
  have h9 : c.toNat ≤ '9'.toNat := hr.2
  simp only [Char.reduceToNat] at h0 h9 ⊢
  apply Char.toNat_inj.mp
  rw [Nat.toNat_digitChar_of_lt_ten (by omega)]
  omega

/-- Decimal digits are those of their value if the first of several is not zero. -/
theorem toDigits_digitsValue {digits : List Char} (h : ∀ c ∈ digits, c.isDigit) (hne : digits ≠ [])
    (hz : digits.head? = some '0' → digits.length ≤ 1) :
    Nat.toDigits 10 (digitsValue 10 digits) = digits := by
  induction digits using List.reverseRecOn with
  | nil => exact absurd rfl hne
  | append_singleton digits c ih =>
    have hc : c.isDigit := h c (by simp)
    have hv : c.toNat - '0'.toNat < 10 := by
      have h9 : c.toNat ≤ '9'.toNat := (isDigit_iff.mp hc).2
      simp only [Char.reduceToNat] at h9 ⊢
      omega
    have hlast : Nat.toDigits 10 (c.toNat - '0'.toNat) = [c] := by
      rw [Nat.toDigits_of_lt_base hv, digitChar_of_isDigit hc]
    rw [digitsValue_concat, digit?_ten, if_pos hc, Option.getD_some]
    cases digits with
    | nil => simpa [digitsValue] using hlast
    | cons d digits =>
      have hd : d ≠ '0' := fun he => by simp [he] at hz
      have hfront := ih (fun x hm => h x (List.mem_append_left _ hm)) (by simp) fun he => by
        simp [hd] at he
      have hpos : 0 < digitsValue 10 (d :: digits) := by
        rcases Nat.eq_zero_or_pos (digitsValue 10 (d :: digits)) with h0 | hpos
        · rw [h0, Nat.toDigits_zero] at hfront
          exact absurd (List.cons.inj hfront).1.symm hd
        · exact hpos
      rw [← Nat.toDigits_append_toDigits (by decide) hpos hv, hfront, hlast]

end Text
end BeanMetrics
