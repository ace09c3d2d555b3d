import BeanMetrics.Proofs.Net.Ipv4

/-!
IPv6 addresses are read as they are written. The groups are read up to the place where a run of zeros is
left out, and then the groups behind it; what is missing between them is the run. A text denotes an IPv4
address only if it is the one that is printed, and an IPv6 address only if there is a colon in it.
-/

namespace BeanMetrics
namespace Ipv6

/-! ### Groups -/

/-- Groups that go on behind others: each one has a colon in front of it. -/
def furtherChars (groups : List UInt16) : List Char := groups.flatMap fun g => ':' :: hex g

theorem groupChars_cons (g : UInt16) (groups : List UInt16) :
    groupChars (g :: groups) = hex g ++ furtherChars groups := by
  induction groups generalizing g with
  | nil => simp [groupChars, furtherChars, Text.join]
  | cons next groups ih =>
    have hnext := ih next
    simp only [groupChars, List.map_cons, Text.join] at hnext ⊢
    simp [hnext, furtherChars]

def ColonAhead (s : List Char) : Prop := ∀ c ∈ s.head?, c = ':'

theorem ColonAhead.noDigitAhead {s : List Char} (h : ColonAhead s) : NoDigitAhead 16 s := by
  intro c hc
  obtain rfl := h c hc
  rfl

@[simp] theorem colonAhead_nil : ColonAhead [] := by simp [ColonAhead]

@[simp] theorem colonAhead_colon (s : List Char) : ColonAhead (':' :: s) := by simp [ColonAhead]

theorem colonAhead_furtherChars (groups : List UInt16) {rest : List Char} (h : ColonAhead rest) :
    ColonAhead (furtherChars groups ++ rest) := by
  cases groups with
  | nil => exact h
  | cons g groups => simp [furtherChars]

theorem isSome_digit?_of_mem_hex {g : UInt16} {c : Char} (h : c ∈ hex g) :
    (Text.digit? 16 c).isSome :=
  Text.isSome_digit?_of_mem_toDigits (by decide) (by decide) h

theorem dot_notMem_hex (g : UInt16) : '.' ∉ hex g := fun h => by
  simpa [Text.digit?] using isSome_digit?_of_mem_hex h

theorem group?_hex_append (g : UInt16) {rest : List Char} (h : ColonAhead rest) :
    group? (hex g ++ rest) = some (g, rest) := by
  have hlen : (hex g).length ≤ 4 :=
    (Nat.length_toDigits_le_iff (by decide) (by decide)).mpr g.toNat_lt
  have hvalue : Text.digitsValue 16 (hex g) = g.toNat :=
    Text.digitsValue_toDigits (by decide) (by decide) _
  have ht : takeDigits? 16 4 (hex g ++ rest) = some (hex g, rest) :=
    takeDigits?_eq_some_iff.mpr
      ⟨rfl, fun _ => isSome_digit?_of_mem_hex, h.noDigitAhead, Nat.toDigits_ne_nil, hlen⟩
  simp [group?, ht, hvalue]

/-- A group is not the first number of an IPv4 address. -/
theorem read4_hex_append (g : UInt16) {rest : List Char} (h : ColonAhead rest) :
    Ipv4.read? (hex g ++ rest) = none := by
  refine Ipv4.read?_eq_none_of_head (dot_notMem_hex g) fun c hc => ?_
  obtain rfl := h c hc
  decide

theorem read4_of_colonAhead {s : List Char} (h : ColonAhead s) : Ipv4.read? s = none := by
  have hn : '.' ∉ ([] : List Char) := by simp
  refine Ipv4.read?_eq_none_of_head hn fun c hc => ?_
  obtain rfl := h c hc
  decide

theorem group?_of_colonAhead {s : List Char} (h : ColonAhead s) : group? s = none := by
  cases s with
  | nil => rfl
  | cons c s =>
    obtain rfl := h c rfl
    rfl

/-! ### Reading groups -/

theorem readGroups_group (first : Bool) (limit : Nat) {s rest : List Char} {g : UInt16}
    (hs : (if first then some s else after? ':' s) = some (hex g ++ rest)) (h : ColonAhead rest) :
    readGroups (limit + 1) first s =
      (g :: (readGroups limit false rest).1, (readGroups limit false rest).2) := by
  simp [readGroups, hs, read4_hex_append g h, group?_hex_append g h]

theorem readGroups_furtherChars (groups : List UInt16) (limit : Nat) {rest : List Char}
    (h : ColonAhead rest) :
    readGroups (groups.length + limit) false (furtherChars groups ++ rest) =
      (groups ++ (readGroups limit false rest).1, (readGroups limit false rest).2) := by
  induction groups with
  | nil => simp [furtherChars]
  | cons g groups ih =>
    have hlimit : (g :: groups).length + limit = groups.length + limit + 1 := by simp; omega
    have hs : after? ':' (furtherChars (g :: groups) ++ rest) =
        some (hex g ++ (furtherChars groups ++ rest)) := by
      simp [furtherChars, after?]
    rw [hlimit, readGroups_group false _ (by simpa using hs) (colonAhead_furtherChars groups h), ih]
    rfl

/-- Here no further group follows: the text is at its end, or a run of zeros is left out. -/
def GroupsEnd (s : List Char) : Prop := s = [] ∨ ∃ rest, s = ':' :: ':' :: rest

theorem GroupsEnd.colonAhead {s : List Char} (h : GroupsEnd s) : ColonAhead s := by
  rcases h with rfl | ⟨rest, rfl⟩ <;> simp

theorem GroupsEnd.colonAhead_of_after? {s t : List Char} (h : GroupsEnd s) (ht : after? ':' s = some t) :
    ColonAhead t := by
  rcases h with rfl | ⟨rest, rfl⟩
  · cases ht
  · obtain rfl := Option.some.inj ht
    simp

theorem readGroups_end (limit : Nat) (first : Bool) {s : List Char} (h : GroupsEnd s) :
    readGroups limit first s = ([], false, s) := by
  cases limit with
  | zero => rfl
  | succ limit =>
    cases ht : if first then some s else after? ':' s with
    | none => simp [readGroups, ht]
    | some t =>
      have hc : ColonAhead t := by
        cases first with
        | true =>
          obtain rfl := Option.some.inj ht
          exact h.colonAhead
        | false => exact h.colonAhead_of_after? (by simpa using ht)
      simp [readGroups, ht, read4_of_colonAhead hc, group?_of_colonAhead hc]

theorem readGroups_groupChars {groups : List UInt16} {limit : Nat} {rest : List Char}
    (hl : groups.length ≤ limit) (h : GroupsEnd rest) :
    readGroups limit true (groupChars groups ++ rest) = (groups, false, rest) := by
  cases groups with
  | nil => exact readGroups_end limit true h
  | cons g groups =>
    obtain ⟨more, rfl⟩ := Nat.exists_eq_add_of_le hl
    have hlimit : (g :: groups).length + more = groups.length + more + 1 := by simp; omega
    have hfurther := readGroups_furtherChars groups more h.colonAhead
    rw [readGroups_end more false h, List.append_nil] at hfurther
    rw [hlimit, groupChars_cons, List.append_assoc,
      readGroups_group true _ rfl (colonAhead_furtherChars groups h.colonAhead), hfurther]

/-! ### Reading addresses -/

theorem read?_groupChars {groups : List UInt16} (h : groups.length = 8) :
    read? (groupChars groups) = some (⟨groups, h⟩, []) := by
  have hr := readGroups_groupChars (Nat.le_of_eq h) (.inl rfl)
  rw [List.append_nil] at hr
  simp [read?, hr, h, ofGroups?]

/-- The groups on both sides of a run of zeros that is left out. -/
theorem read?_leftOut {head tail : List UInt16} {n : Nat} (hn : 0 < n)
    (h : (head ++ (List.replicate n 0 ++ tail)).length = 8) :
    read? (groupChars head ++ ':' :: ':' :: groupChars tail) =
      some (⟨head ++ (List.replicate n 0 ++ tail), h⟩, []) := by
  have hlen : head.length + n + tail.length = 8 := by simpa [Nat.add_assoc] using h
  have hhead : readGroups 8 true (groupChars head ++ ':' :: ':' :: groupChars tail) =
      (head, false, ':' :: ':' :: groupChars tail) :=
    readGroups_groupChars (by omega) (.inr ⟨_, rfl⟩)
  have htail : readGroups (7 - head.length) true (groupChars tail ++ []) = (tail, false, []) :=
    readGroups_groupChars (by omega) (.inl rfl)
  rw [List.append_nil] at htail
  have hzeros : 8 - head.length - tail.length = n := by omega
  have hshort : head.length ≠ 8 := by omega
  simp [read?, hhead, htail, hzeros, hshort, ofGroups?, ← Nat.add_assoc, hlen]

/-- The groups of an IPv4 address behind the mark for such addresses. -/
theorem read?_mapped (x : Ipv4) (h : ([0, 0, 0, 0, 0, 0xffff] ++ x.groups).length = 8) :
    read? ("::ffff:".toList ++ x.chars) = some (⟨[0, 0, 0, 0, 0, 0xffff] ++ x.groups, h⟩, []) := by
  have hv4 : readGroups 6 false (':' :: x.chars) = (x.groups, true, []) := by
    have hx : Ipv4.read? x.chars = some (x, []) :=
      Ipv4.read?_eq_some_iff.mpr ⟨(List.append_nil _).symm, noDigitAhead_nil 10⟩
    simp [readGroups, after?, hx]
  have htail : readGroups 7 true (hex 0xffff ++ ':' :: x.chars) = (0xffff :: x.groups, true, []) := by
    rw [readGroups_group true 6 rfl (colonAhead_colon _), hv4]
  have hs : "::ffff:".toList ++ x.chars = ':' :: ':' :: (hex 0xffff ++ ':' :: x.chars) := by
    rfl
  have hhead := readGroups_end 8 true (.inr ⟨hex 0xffff ++ ':' :: x.chars, rfl⟩)
  have hlen : x.groups.length = 2 := rfl
  rw [hs]
  simp [read?, hhead, htail, hlen, ofGroups?, List.replicate]

/-! ### Runs of zeros -/

/-- A run of zeros is as long as it is said to be. -/
theorem drop_eq_of_zeroRuns {groups : List UInt16} {i n : Nat} (h : (zeroRuns groups)[i]? = some n) :
    groups.drop i = List.replicate n 0 ++ groups.drop (i + n) := by
  induction groups generalizing i n with
  | nil => simp [zeroRuns] at h
  | cons g groups ih =>
    cases i with
    | succ i =>
      have hi : (zeroRuns groups)[i]? = some n := by simpa [zeroRuns] using h
      have hn : i + 1 + n = i + n + 1 := by omega
      simpa [hn] using ih hi
    | zero =>
      obtain rfl : (if g = 0 then (zeroRuns groups).headD 0 + 1 else 0) = n := by
        simpa [zeroRuns] using h
      split
      · rename_i hg
        subst hg
        cases hr : zeroRuns groups with
        | nil => simp
        | cons next runs =>
          have hnext : groups = List.replicate next 0 ++ groups.drop next := by
            simpa using ih (i := 0) (by simp [hr])
          simpa [List.replicate_succ] using hnext
      · simp

theorem foldl_max_mem (a : Nat) (l : List Nat) : l.foldl max a = a ∨ l.foldl max a ∈ l := by
  induction l generalizing a with
  | nil => simp
  | cons b l ih =>
    rcases ih (max a b) with h | h
    · rcases Nat.le_total a b with hab | hab
      · simp_all
      · simp_all
    · simp [h]

/-- Where the longest run is left out, the groups are put together from what is on both sides of it. -/
theorem exists_longest_run {groups : List UInt16} {longest : Nat}
    (h : (zeroRuns groups).foldl max 0 = longest) (hl : 1 < longest) :
    let start := (zeroRuns groups).findIdx (· = longest)
    groups = groups.take start ++ (List.replicate longest 0 ++ groups.drop (start + longest)) := by
  intro start
  have hm : longest ∈ zeroRuns groups := by
    rcases foldl_max_mem 0 (zeroRuns groups) with h0 | hm
    · omega
    · exact h ▸ hm
  have hlt : start < (zeroRuns groups).length :=
    List.findIdx_lt_length_of_exists ⟨longest, hm, by simp⟩
  have hget : (zeroRuns groups)[start]? = some longest := by
    have hp := List.findIdx_getElem (w := hlt)
    rw [List.getElem?_eq_getElem hlt]
    simpa using hp
  rw [← drop_eq_of_zeroRuns hget, List.take_append_drop]

theorem read?_chars (x : Ipv6) : read? x.chars = some (x, []) := by
  obtain ⟨groups, hlen⟩ := x
  unfold chars
  dsimp only
  split
  · rename_i high low
    have hr := read?_mapped (Ipv4.ofGroups high low)
    simp only [Ipv4.groups_ofGroups] at hr
    exact hr rfl
  · split
    · rename_i hl
      have hg := exists_longest_run rfl hl
      rw [read?_leftOut (by omega) ((congrArg List.length hg).symm.trans hlen)]
      simp only [Option.some.injEq, Prod.mk.injEq, Ipv6.mk.injEq, and_true]
      exact hg.symm
    · exact read?_groupChars hlen

/-! ### The characters of an address -/

theorem dot_notMem_groupChars (groups : List UInt16) : '.' ∉ groupChars groups := by
  cases groups with
  | nil => simp [groupChars, Text.join]
  | cons g groups =>
    rw [groupChars_cons]
    simp [furtherChars, dot_notMem_hex]

/-- The text of an address is not that of an IPv4 address with something behind it. -/
theorem read4_chars (x : Ipv6) : Ipv4.read? x.chars = none := by
  unfold chars
  dsimp only
  split
  · exact read4_of_colonAhead (colonAhead_colon _)
  · rw [Option.eq_none_iff_forall_ne_some]
    rintro ⟨y, rest⟩ h
    have he := (Ipv4.read?_eq_some_iff.mp h).1
    have hm : '.' ∈ y.chars ++ rest := List.mem_append_left _ y.dot_mem_chars
    rw [← he] at hm
    split at hm
    · simp [dot_notMem_groupChars] at hm
    · exact dot_notMem_groupChars _ hm

theorem exists_of_group? {s rest : List Char} {g : UInt16} (h : group? s = some (g, rest)) :
    ∃ digits, s = digits ++ rest := by
  obtain ⟨⟨digits, rest'⟩, ht, he⟩ := Option.bind_eq_some_iff.mp h
  obtain rfl := (Prod.mk.inj (Option.some.inj he)).2
  exact ⟨digits, (takeDigits?_eq_some_iff.mp ht).1⟩

theorem readGroups_further_of_colon_notMem (limit : Nat) {s : List Char} (h : ':' ∉ s) :
    readGroups limit false s = ([], false, s) := by
  have ha : after? ':' s = none := by
    rw [Option.eq_none_iff_forall_ne_some]
    intro t ht
    exact h (by simp [after?_eq_some_iff.mp ht])
  cases limit with
  | zero => rfl
  | succ limit => simp [readGroups, ha]

/-- Without a colon no more than two groups are read, and nothing is left out behind them. -/
theorem readGroups_of_colon_notMem (limit : Nat) {s : List Char} (h : ':' ∉ s) :
    (readGroups limit true s).1.length ≤ 2 ∧ ':' ∉ (readGroups limit true s).2.2 := by
  cases limit with
  | zero => simpa [readGroups] using h
  | succ limit =>
    simp only [readGroups, if_true]
    cases hv : if 1 ≤ limit then Ipv4.read? s else none with
    | some found =>
      obtain ⟨x, rest⟩ := found
      have hx : Ipv4.read? s = some (x, rest) := by
        split at hv
        · exact hv
        · cases hv
      have hs := (Ipv4.read?_eq_some_iff.mp hx).1
      exact ⟨Nat.le_refl 2, fun hm => h (hs ▸ List.mem_append_right _ hm)⟩
    | none =>
      cases hg : group? s with
      | none => exact ⟨by simp, h⟩
      | some found =>
        obtain ⟨g, rest⟩ := found
        obtain ⟨digits, hs⟩ := exists_of_group? hg
        have hrest : ':' ∉ rest := fun hm => h (hs ▸ List.mem_append_right _ hm)
        dsimp only
        rw [readGroups_further_of_colon_notMem limit hrest]
        exact ⟨by simp, hrest⟩

theorem colon_mem_of_read? {s rest : List Char} {x : Ipv6} (h : read? s = some (x, rest)) :
    ':' ∈ s := by
  by_contra hc
  obtain ⟨hlen, hrest⟩ := readGroups_of_colon_notMem 8 hc
  have hshort : (readGroups 8 true s).1.length ≠ 8 := by omega
  simp only [read?, if_neg hshort] at h
  split at h
  · cases h
  · split at h
    · rename_i hs
      simp [hs] at hrest
    · cases h

end Ipv6

namespace IpAddress

theorem ofChars?_eq_some_v4_iff {s : List Char} {x : Ipv4} :
    ofChars? s = some (.v4 x) ↔ s = x.chars := by
  have hiff : Ipv4.read? s = some (x, []) ↔ s = x.chars ++ [] ∧ NoDigitAhead 10 [] :=
    Ipv4.read?_eq_some_iff
  have hread : Ipv4.read? s = some (x, []) ↔ s = x.chars := by simpa using hiff
  rw [← hread]
  unfold ofChars?
  cases Ipv4.read? s with
  | none => cases Ipv6.read? s with
    | none => simp
    | some found => simp
  | some found =>
    obtain ⟨y, rest⟩ := found
    by_cases hr : rest = [] <;> simp [hr]

theorem colon_mem_of_ofChars? {s : List Char} {x : Ipv6} (h : ofChars? s = some (.v6 x)) : ':' ∈ s := by
  unfold ofChars? at h
  split at h
  · split at h <;> cases h
  · split at h
    · rename_i y rest hy
      exact Ipv6.colon_mem_of_read? hy
    · cases h

theorem ofChars?_v4 (x : Ipv4) : ofChars? x.chars = some (.v4 x) := ofChars?_eq_some_v4_iff.mpr rfl

theorem ofChars?_v6 (x : Ipv6) : ofChars? x.chars = some (.v6 x) := by
  simp [ofChars?, x.read4_chars, x.read?_chars]

end IpAddress
end BeanMetrics
