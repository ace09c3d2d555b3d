import BeanMetrics.Proofs.Exposition.Decoder
import BeanMetrics.Proofs.Text.Split
import Mathlib.Tactic.SplitIfs

/-!
The text exposition loses nothing. Escaping is undone by the reader whatever follows, so every line
is read back as what it was written for; no line has a line feed in it, so the lines of a text are
the lines that were written; and the families come back from their lines.
-/

namespace BeanMetrics
namespace Exposition

/-! ### Escapes -/

theorem readHelp_escapeHelp (s : List Char) : readHelp (escapeHelp s) = some s := by
  induction s with
  | nil => rfl
  | cons c cs ih =>
    rw [escapeHelp, List.flatMap_cons, ← escapeHelp]
    by_cases hb : c = '\\'
    · subst hb; simp [escapeHelpChar, readHelp, ih]
    by_cases hn : c = '\n'
    · subst hn; simp [escapeHelpChar, readHelp, ih]
    have hc : escapeHelpChar c = [c] := by simp [escapeHelpChar]
    simp [hc, readHelp, hb, ih]

/-- The value of a label ends at the quote that closes it, whatever is behind that quote. -/
theorem readQuoted_escapeLabel (s rest : List Char) :
    readQuoted (escapeLabel s ++ '"' :: rest) = some (s, rest) := by
  induction s with
  | nil => rfl
  | cons c cs ih =>
    rw [escapeLabel, List.flatMap_cons, ← escapeLabel]
    by_cases hb : c = '\\'
    · subst hb; simp [escapeLabelChar, readQuoted, ih]
    by_cases hq : c = '"'
    · subst hq; simp [escapeLabelChar, readQuoted, ih]
    by_cases hn : c = '\n'
    · subst hn; simp [escapeLabelChar, readQuoted, ih]
    have hc : escapeLabelChar c = [c] := by simp [escapeLabelChar]
    simp [hc, readQuoted, hb, ih]

theorem newline_notMem_escapeHelp (s : List Char) : '\n' ∉ escapeHelp s := by
  intro h
  obtain ⟨c, -, hc⟩ := List.mem_flatMap.mp h
  revert hc
  fun_cases escapeHelpChar c <;> simp_all [eq_comm]

theorem newline_notMem_escapeLabel (s : List Char) : '\n' ∉ escapeLabel s := by
  intro h
  obtain ⟨c, -, hc⟩ := List.mem_flatMap.mp h
  revert hc
  fun_cases escapeLabelChar c <;> simp_all [eq_comm]

/-! ### Values -/

theorem newline_notMem_toDigits (n : Nat) : '\n' ∉ Nat.toDigits 10 n := by
  intro h
  have hd := Nat.isDigit_of_mem_toDigits (by decide) (by decide) h
  exact absurd hd (by decide)

theorem newline_notMem_signText (negative : Bool) : '\n' ∉ Binary64.signText negative := by
  cases negative <;> decide

theorem newline_notMem_wholeText (i : Int) : '\n' ∉ Binary64.wholeText i := by
  rw [Binary64.wholeText, List.mem_append, not_or]
  exact ⟨newline_notMem_signText _, newline_notMem_toDigits _⟩

theorem newline_notMem_significant (d : Binary64.Decimal) : '\n' ∉ d.significant.1 := by
  intro h
  have hr : '\n' ∈ (Nat.toDigits 10 d.digits).reverse.dropWhile (· = '0') := List.mem_reverse.mp h
  have hd := List.mem_reverse.mp ((List.dropWhile_sublist _).mem hr)
  exact newline_notMem_toDigits _ hd

theorem newline_notMem_placePoint {digits : List Char} (hd : '\n' ∉ digits) (exponent : Int) :
    '\n' ∉ Binary64.placePoint digits exponent := by
  have ht : ∀ n, '\n' ∉ digits.take n := fun n hm => hd (List.mem_of_mem_take hm)
  have hr : ∀ n, '\n' ∉ digits.drop n := fun n hm => hd (List.mem_of_mem_drop hm)
  simp only [Binary64.placePoint]
  split_ifs <;> simp [hd, ht, hr, List.mem_replicate]

theorem newline_notMem_decimalText (x : Binary64) : '\n' ∉ x.decimalText := by
  unfold Binary64.decimalText
  split
  · decide
  · simpa using newline_notMem_signText x.isNegative
  · split_ifs
    · simpa using newline_notMem_signText x.isNegative
    · rw [List.mem_append, not_or]
      exact ⟨newline_notMem_signText _, newline_notMem_placePoint (newline_notMem_significant _) _⟩

theorem newline_notMem_scientificText (x : Binary64) : '\n' ∉ x.scientificText := by
  unfold Binary64.scientificText
  split
  · decide
  · simpa using newline_notMem_signText x.isNegative
  · rename_i significand exponent _
    have hs := newline_notMem_signText x.isNegative
    have hd := newline_notMem_significant (Binary64.shortest significand exponent)
    generalize (Binary64.shortest significand exponent).significant = decimal at hd ⊢
    obtain ⟨digits, last⟩ := decimal
    have ht : '\n' ∉ digits.take 1 := fun hm => hd (List.mem_of_mem_take hm)
    have hr : '\n' ∉ digits.tail := fun hm => hd (List.mem_of_mem_tail hm)
    dsimp only
    split_ifs <;> simp [hs, ht, hr, newline_notMem_wholeText]

theorem newline_notMem_valueText (x : Binary64) : '\n' ∉ valueText x := by
  unfold valueText
  split_ifs
  · decide
  · decide
  · decide
  · exact newline_notMem_wholeText _
  · exact newline_notMem_scientificText x
  · exact newline_notMem_decimalText x

/-! ### Lines -/

def isLabelChar (c : Char) : Bool := MetricName.isNameChar c && c ≠ ':'

/-- A family whose names are made of the characters of names and whose samples carry its name. Help
text and label values are not restricted. -/
structure Exposable (f : Family) : Prop where
  name_chars : ∀ c ∈ f.name.toList, MetricName.isNameChar c = true
  sample_name : ∀ s ∈ f.samples, s.name = f.name
  label_chars : ∀ s ∈ f.samples, ∀ label ∈ s.labels, ∀ c ∈ label.1.toList, isLabelChar c = true

def readingOfSample (s : Sample) : ReadSample :=
  ⟨s.name, s.labels, String.ofList (valueText s.value)⟩

def readingOfFamily (f : Family) : ReadFamily :=
  ⟨f.name, f.type, f.help, f.samples.map readingOfSample⟩

theorem notMem_of_chars {p : Char → Bool} {name : List Char} (hn : ∀ c ∈ name, p c = true)
    {c : Char} (hc : p c = false) : c ∉ name := by
  intro hm
  simp [hn c hm] at hc

theorem readLabel_labelChars {label : String × String} (hl : '=' ∉ label.1.toList)
    (rest : List Char) : readLabel (labelChars label ++ rest) = some (label, rest) := by
  have hc : labelChars label ++ rest =
      label.1.toList ++ '=' :: '"' :: (escapeLabel label.2.toList ++ '"' :: rest) := by
    simp [labelChars]
  have hs := Text.splitFirst_eq_some_iff.mpr ⟨hc, hl⟩
  simp [readLabel, hs, readQuoted_escapeLabel]

theorem readLabels_join {labels : List (String × String)} (hne : labels ≠ [])
    (hl : ∀ label ∈ labels, '=' ∉ label.1.toList) (rest : List Char) :
    readLabels (Text.join [','] (labels.map labelChars) ++ '\x7d' :: rest) =
      some (labels, rest) := by
  induction labels with
  | nil => exact absurd rfl hne
  | cons label labels ih =>
    have hh : '=' ∉ label.1.toList := hl label (by simp)
    cases labels with
    | nil =>
      have hr := readLabel_labelChars hh ('\x7d' :: rest)
      rw [List.map_singleton, Text.join, readLabels]
      split <;> simp_all
    | cons next labels =>
      have ht := ih (by simp) fun l hm => hl l (List.mem_cons_of_mem label hm)
      have hr := readLabel_labelChars hh
        (',' :: (Text.join [','] ((next :: labels).map labelChars) ++ '\x7d' :: rest))
      have hj : Text.join [','] ((label :: next :: labels).map labelChars) ++ '\x7d' :: rest =
          labelChars label ++
            (',' :: (Text.join [','] ((next :: labels).map labelChars) ++ '\x7d' :: rest)) := by
        simp [Text.join]
      rw [hj, readLabels]
      split <;> simp_all

theorem readSample_sampleLine {s : Sample}
    (hn : ∀ c ∈ s.name.toList, MetricName.isNameChar c = true)
    (hl : ∀ label ∈ s.labels, '=' ∉ label.1.toList) :
    readSample (sampleLine s) = some (readingOfSample s) := by
  by_cases he : s.labels = []
  · have hs : sampleLine s = s.name.toList ++ ' ' :: valueText s.value := by
      simp [sampleLine, labelBlock, he]
    rw [hs, readSample, List.takeWhile_append_of_pos hn, List.dropWhile_append_of_pos hn]
    simp [MetricName.isNameChar, readingOfSample, he]
  · have hs : sampleLine s = s.name.toList ++ '\x7b' ::
        (Text.join [','] (s.labels.map labelChars) ++ '\x7d' :: ' ' :: valueText s.value) := by
      simp [sampleLine, labelBlock, he]
    have hj := readLabels_join he hl (' ' :: valueText s.value)
    rw [hs, readSample, List.takeWhile_append_of_pos hn, List.dropWhile_append_of_pos hn]
    simp [MetricName.isNameChar, readingOfSample, hj]

theorem readLine_helpLine {f : Family} (hf : Exposable f) :
    readLine (helpLine f) = some (.help f.name f.help) := by
  have hn : ' ' ∉ f.name.toList := notMem_of_chars hf.name_chars (by decide)
  have hs := Text.splitFirst_eq_some_iff.mpr
    ⟨rfl (a := f.name.toList ++ ' ' :: escapeHelp f.help.toList), hn⟩
  have hd := Text.dropStart?_append "# HELP ".toList
    (f.name.toList ++ ' ' :: escapeHelp f.help.toList)
  unfold readLine helpLine
  rw [List.append_assoc, hd]
  dsimp only
  rw [hs]
  simp [readHelp_escapeHelp]

theorem readType_name (type : MetricType) : readType type.name.toList = some type := by
  cases type <;> decide

theorem readLine_typeLine {f : Family} (hf : Exposable f) :
    readLine (typeLine f) = some (.type f.name f.type) := by
  have hn : ' ' ∉ f.name.toList := notMem_of_chars hf.name_chars (by decide)
  have hs := Text.splitFirst_eq_some_iff.mpr
    ⟨rfl (a := f.name.toList ++ ' ' :: f.type.name.toList), hn⟩
  have hd : Text.dropStart? "# HELP ".toList
      ("# TYPE ".toList ++ (f.name.toList ++ ' ' :: f.type.name.toList)) = none := by
    simp [Text.dropStart?]
  have ht := Text.dropStart?_append "# TYPE ".toList
    (f.name.toList ++ ' ' :: f.type.name.toList)
  unfold readLine typeLine
  rw [List.append_assoc, hd]
  dsimp only
  rw [ht]
  dsimp only
  rw [hs]
  simp [readType_name]

/-- The line of a sample begins with a character of its name or with what ends the name, and so
never with the sign that the other lines begin with. -/
theorem head?_sampleLine {s : Sample}
    (hn : ∀ c ∈ s.name.toList, MetricName.isNameChar c = true) :
    (sampleLine s).head? ≠ some '#' := by
  have hh : '#' ∉ s.name.toList := notMem_of_chars hn (by decide)
  cases hc : s.name.toList with
  | nil => by_cases he : s.labels = [] <;> simp [sampleLine, labelBlock, hc, he]
  | cons c cs =>
    have hne : c ≠ '#' := fun he => hh (by simp [hc, he])
    simp [sampleLine, hc, hne]

theorem readLine_sampleLine {f : Family} (hf : Exposable f) {s : Sample} (hs : s ∈ f.samples) :
    readLine (sampleLine s) = some (.sample (readingOfSample s)) := by
  have hn : ∀ c ∈ s.name.toList, MetricName.isNameChar c = true := by
    rw [hf.sample_name s hs]
    exact hf.name_chars
  have hl : ∀ label ∈ s.labels, '=' ∉ label.1.toList := fun label hm =>
    notMem_of_chars (hf.label_chars s hs label hm) (by decide)
  have hd (start : List Char) : Text.dropStart? ('#' :: start) (sampleLine s) = none :=
    Text.dropStart?_cons_of_head? (head?_sampleLine hn)
  simp [readLine, hd, readSample_sampleLine hn hl]

/-! ### Families -/

def linesOfFamily (f : Family) : List Line :=
  .help f.name f.help :: .type f.name f.type ::
    f.samples.map fun s => .sample (readingOfSample s)

theorem mapM_readLine_samples {f : Family} (hf : Exposable f) {samples : List Sample}
    (hs : ∀ s ∈ samples, s ∈ f.samples) :
    (samples.map sampleLine).mapM readLine =
      some (samples.map fun s => .sample (readingOfSample s)) := by
  induction samples with
  | nil => rfl
  | cons s samples ih =>
    have hh := readLine_sampleLine hf (hs s (by simp))
    have ht := ih fun x hx => hs x (List.mem_cons_of_mem s hx)
    rw [List.map_cons, List.mapM_cons, hh, ht]
    rfl

theorem mapM_readLine_familyLines {f : Family} (hf : Exposable f) :
    (familyLines f).mapM readLine = some (linesOfFamily f) := by
  have hs := mapM_readLine_samples hf fun s hs => hs
  rw [familyLines, List.mapM_cons, List.mapM_cons, readLine_helpLine hf, readLine_typeLine hf, hs]
  rfl

theorem mapM_readLine_lines {families : List Family} (hf : ∀ f ∈ families, Exposable f) :
    (families.flatMap familyLines).mapM readLine = some (families.flatMap linesOfFamily) := by
  induction families with
  | nil => rfl
  | cons f families ih =>
    have hh := mapM_readLine_familyLines (hf f (by simp))
    have ht := ih fun g hg => hf g (List.mem_cons_of_mem f hg)
    rw [List.flatMap_cons, List.mapM_append, hh, ht]
    rfl

theorem newline_notMem_labelBlock {labels : List (String × String)}
    (hl : ∀ label ∈ labels, '\n' ∉ label.1.toList) : '\n' ∉ labelBlock labels := by
  have hj : '\n' ∉ Text.join [','] (labels.map labelChars) := by
    induction labels with
    | nil => simp [Text.join]
    | cons label labels ih =>
      have hh : '\n' ∉ labelChars label := by
        simp [labelChars, hl label (by simp), newline_notMem_escapeLabel]
      have ht := ih fun l hm => hl l (List.mem_cons_of_mem label hm)
      cases labels with
      | nil => simpa [Text.join] using hh
      | cons next labels => simpa [Text.join, hh] using ht
  rw [labelBlock]
  split_ifs <;> simp [hj]

theorem newline_notMem_familyLines {f : Family} (hf : Exposable f) :
    ∀ line ∈ familyLines f, '\n' ∉ line := by
  have hn : '\n' ∉ f.name.toList := notMem_of_chars hf.name_chars (by decide)
  intro line hm
  simp only [familyLines, List.mem_cons, List.mem_map] at hm
  obtain rfl | rfl | ⟨s, hs, rfl⟩ := hm
  · unfold helpLine
    simp [hn, newline_notMem_escapeHelp]
  · unfold typeLine
    cases f.type <;> simp [hn, MetricType.name]
  · have hl : '\n' ∉ labelBlock s.labels := newline_notMem_labelBlock fun label hm =>
      notMem_of_chars (hf.label_chars s hs label hm) (by decide)
    simp [sampleLine, hf.sample_name s hs, hn, hl, newline_notMem_valueText]

theorem assemble_samples {rest : List Line} {samples : List ReadSample}
    {families : List ReadFamily} (hr : assemble rest = some (samples, families))
    (own : List ReadSample) :
    assemble (own.map .sample ++ rest) = some (own ++ samples, families) := by
  induction own with
  | nil => exact hr
  | cons s own ih => simp [assemble, ih]

theorem assemble_linesOfFamily (families : List Family) :
    assemble (families.flatMap linesOfFamily) = some ([], families.map readingOfFamily) := by
  induction families with
  | nil => rfl
  | cons f families ih =>
    have hs := assemble_samples ih (f.samples.map readingOfSample)
    simp only [List.map_map, Function.comp_def, List.append_nil] at hs
    simp [linesOfFamily, assemble, hs, readingOfFamily]

/-- Whatever the help texts and the label values are, the text of the families says which families
there are and what is in each of them, in their order. -/
theorem decode_text (families : List Family) (hf : ∀ f ∈ families, Exposable f) :
    decode (text families) = some (families.map readingOfFamily) := by
  have hn : ∀ line ∈ families.flatMap familyLines, '\n' ∉ line := by
    intro line hm
    obtain ⟨f, hfm, hl⟩ := List.mem_flatMap.mp hm
    exact newline_notMem_familyLines (hf f hfm) line hl
  have hl : (Text.splitAll '\n' (text families).toList).dropLast = families.flatMap familyLines := by
    rw [text, String.toList_ofList, chars, Text.splitAll_terminated hn, List.dropLast_concat]
  rw [decode, hl, mapM_readLine_lines hf]
  simp [assemble_linesOfFamily]

/-- A family whose help text and label values look like lines and labels of their own. -/
def deceptive : Family :=
  ⟨"crate_ready", .gauge, "Ready\n# TYPE crate_ready counter\ncrate_ready 2",
    [⟨"crate_ready", [("node", "a\"\x7d 1\ncrate_ready\x7bnode=\"b"), ("path", "c:\\n,#")], .one⟩,
     ⟨"crate_ready", [], .zero⟩]⟩

theorem exposable_deceptive : Exposable deceptive where
  name_chars := by simp [deceptive, MetricName.isNameChar]
  sample_name := by simp [deceptive]
  label_chars := by
    simp only [deceptive, List.mem_cons, List.not_mem_nil, or_false]
    rintro s (rfl | rfl) label hl
    · rcases List.mem_cons.mp hl with rfl | hl
      · simp [isLabelChar, MetricName.isNameChar]
      · obtain rfl := List.mem_singleton.mp hl
        simp [isLabelChar, MetricName.isNameChar]
    · simp at hl

theorem decode_text_deceptive :
    (∀ f ∈ [deceptive], Exposable f) ∧
      decode (text [deceptive]) = some [readingOfFamily deceptive] := by
  have he : ∀ f ∈ [deceptive], Exposable f := by
    intro f hf
    obtain rfl := List.mem_singleton.mp hf
    exact exposable_deceptive
  exact ⟨he, decode_text [deceptive] he⟩

end Exposition
end BeanMetrics
