import BeanMetrics.Config.Basic
import BeanMetrics.Proofs.Metric.Name
import BeanMetrics.Proofs.ObjectName.Glob

/-!
What a valid configuration promises. Its namespace is a name and its pattern is one, so its domain is
not empty. A plain domain, one without wildcards, is the domain of every object that matches, and then
the names of metrics begin with the namespace.
-/

namespace BeanMetrics

theorem exists_of_bind_eq_ok {ε α β : Type} {first : Except ε α} {next : α → Except ε β} {b : β}
    (h : first >>= next = .ok b) : ∃ a, first = .ok a ∧ next a = .ok b := by
  cases first with
  | error e => cases h
  | ok a => exact ⟨a, rfl, h⟩

theorem of_throw_or_eq_ok {ε α β : Type} {p : Prop} [Decidable p] {e : ε} {next : α → Except ε β}
    {rest : Except ε β} {b : β} (h : (if p then throw e >>= next else rest) = .ok b) :
    ¬ p ∧ rest = .ok b := by
  by_cases hp : p
  · rw [if_pos hp] at h
    cases h
  · rw [if_neg hp] at h
    exact ⟨hp, h⟩

/-! ### Domains of objects -/

namespace Text

theorem replaceAll_self {target : List Char} (h : target ≠ []) (replacement : List Char) :
    replaceAll target replacement target = replacement := by
  cases target with
  | nil => exact absurd rfl h
  | cons c cs => simp [replaceAll_cons h, replaceAll_nil h]

end Text

/-- In the name of a metric the source domain is replaced by the namespace. -/
theorem Pass.metricDomain_of_domain_eq {s : Settings} {object : ObjectName}
    (h : object.domain = s.sourceDomain) (hne : s.sourceDomain ≠ "") :
    metricDomain s object = s.namespaceName := by
  rw [metricDomain, h, Text.replaceAll_self (by simpa using hne), String.ofList_toList]

theorem Pattern.domain_of_ofText? {text : String} {p : Pattern} (h : ofText? text = some p) :
    ∃ list, Text.splitFirst ':' text.toList = some (p.domain.source.toList, list) ∧
      p.domain.source ≠ "" := by
  obtain ⟨⟨domain, list⟩, hs, h⟩ := Option.bind_eq_some_iff.mp h
  dsimp only at h
  split at h
  · cases h
  · rename_i hne
    obtain ⟨properties, -, h⟩ := Option.bind_eq_some_iff.mp h
    split at h
    · cases h
    · obtain rfl := Option.some.inj h
      exact ⟨list, by simpa using hs, by simpa using hne⟩

/-- A name that matches is of the pattern's domain, if that has no wildcards. -/
theorem Pattern.domain_of_accepts {p : Pattern} {name : ObjectName}
    (hw : p.domain.isWildcard = false) (h : p.accepts name = true) :
    name.domain = p.domain.source := by
  unfold accepts at h
  simp only [Bool.and_eq_true] at h
  exact Glob.eq_of_accepts hw h.1.1

namespace Config

variable {c : Config}

/-! ### Checks -/

theorem checkPath_eq_ok_iff {which path : String} :
    checkPath which path = .ok () ↔
      Text.startsWith ['/'] path.toList = true ∧ path ≠ "/" ∧ path ≠ "/health" := by
  unfold checkPath
  split_ifs with hs hp
  · simp [hs]
  · simpa [hs] using fun h => hp.resolve_left h
  · simpa [hs] using not_or.mp hp

structure Valid (c : Config) : Prop where
  listen : ∃ address, c.listenAddress = .ok address
  metricsPath : checkPath "Metrics path" c.server.metricsPath = .ok ()
  readyPath : checkPath "Ready path" c.server.readyPath = .ok ()
  paths : c.server.metricsPath ≠ c.server.readyPath
  url : checkUrl c.agent.url = .ok ()
  timeout : c.agent.timeoutMillis ≠ 0
  namespaceName : isNamespace c.exporter.namespaceName = true
  pattern : ∃ pattern, Pattern.ofText? c.settings.objectPattern = some pattern

theorem Valid.of_validate (h : c.validate = .ok ()) : c.Valid := by
  obtain ⟨address, hlisten, h⟩ := exists_of_bind_eq_ok h
  obtain ⟨⟨⟩, hmetrics, h⟩ := exists_of_bind_eq_ok h
  obtain ⟨⟨⟩, hready, h⟩ := exists_of_bind_eq_ok h
  obtain ⟨hpaths, h⟩ := of_throw_or_eq_ok h
  obtain ⟨⟨⟩, hurl, h⟩ := exists_of_bind_eq_ok h
  obtain ⟨htimeout, h⟩ := of_throw_or_eq_ok h
  obtain ⟨hnamespace, h⟩ := of_throw_or_eq_ok h
  dsimp only at h
  split at h
  · cases h
  · rename_i hp
    exact ⟨⟨address, hlisten⟩, hmetrics, hready, hpaths, hurl, htimeout, by simpa using hnamespace,
      Option.ne_none_iff_exists'.mp (by simpa using hp)⟩

theorem validate_eq_ok_iff : c.validate = .ok () ↔ c.Valid := by
  refine ⟨Valid.of_validate, fun h => ?_⟩
  obtain ⟨address, hlisten⟩ := h.listen
  obtain ⟨pattern, hpattern⟩ := h.pattern
  simp only [validate, hlisten, h.metricsPath, h.readyPath, h.paths, h.url, h.timeout,
    h.namespaceName, hpattern]
  rfl

theorem namespaceName_ne_empty (h : c.validate = .ok ()) : c.exporter.namespaceName ≠ "" := by
  intro he
  have hn := (Valid.of_validate h).namespaceName
  rw [he] at hn
  exact absurd hn (by decide)

theorem isNameChar_of_validate (h : c.validate = .ok ()) :
    ∀ d ∈ c.exporter.namespaceName.toList, MetricName.isNameChar d = true := by
  have hn := (Valid.of_validate h).namespaceName
  unfold isNamespace at hn
  split at hn
  · cases hn
  · rename_i first rest hl
    intro d hd
    rw [hl] at hd
    have hchar : ∀ d, (isLetter d || d = '_' || d = ':') = true ∨
        (isLetter d || isDigit d || d = '_' || d = ':') = true → MetricName.isNameChar d = true := by
      intro d hd
      simp only [isLetter, isDigit, MetricName.isNameChar] at hd ⊢
      grind
    obtain ⟨hf, hr⟩ := Bool.and_eq_true_iff.mp hn
    rcases List.mem_cons.mp hd with rfl | hm
    · exact hchar _ (.inl hf)
    · exact hchar d (.inr (List.all_eq_true.mp hr d hm))

theorem domain_ne_empty (h : c.validate = .ok ()) : c.exporter.domain ≠ "" := by
  obtain ⟨pattern, hp⟩ := (Valid.of_validate h).pattern
  obtain ⟨list, hs, hne⟩ := Pattern.domain_of_ofText? hp
  intro he
  have ht : c.settings.objectPattern.toList = ':' :: c.exporter.pattern.toList := by
    simp [settings, Settings.objectPattern, he]
  rw [ht, Text.splitFirst, if_pos rfl] at hs
  have hd : [] = pattern.domain.source.toList := congrArg Prod.fst (Option.some.inj hs)
  exact hne (by simpa using hd.symm)

/-- Whether the domain has no wildcards, and so denotes itself only. -/
def hasPlainDomain (c : Config) : Bool :=
  c.exporter.domain.toList.all fun d => d ≠ '*' && d ≠ '?' && d ≠ ':'

theorem hasPlainDomain_iff :
    c.hasPlainDomain = true ↔
      ∀ d ∈ c.exporter.domain.toList, d ≠ '*' ∧ d ≠ '?' ∧ d ≠ ':' := by
  simp [hasPlainDomain, and_assoc]

theorem domain_of_accepts (hc : c.hasPlainDomain = true) {pattern : Pattern}
    (hp : Pattern.ofText? c.settings.objectPattern = some pattern) {object : ObjectName}
    (h : pattern.accepts object = true) : object.domain = c.exporter.domain := by
  obtain ⟨list, hs, -⟩ := Pattern.domain_of_ofText? hp
  have hd : Text.splitFirst ':' c.settings.objectPattern.toList =
      some (c.exporter.domain.toList, c.exporter.pattern.toList) := by
    refine Text.splitFirst_eq_some_iff.mpr ⟨?_, fun hm => (hasPlainDomain_iff.mp hc ':' hm).2.2 rfl⟩
    simp [settings, Settings.objectPattern]
  have he : pattern.domain.source = c.exporter.domain := by
    have hf := congrArg Prod.fst (Option.some.inj (hs.symm.trans hd))
    rw [← String.toList_inj]
    exact hf
  have hw : pattern.domain.isWildcard = false := by
    refine List.any_eq_false.mpr fun d hm => ?_
    obtain ⟨hstar, hmark, -⟩ := hasPlainDomain_iff.mp hc d (he ▸ hm)
    simp [hstar, hmark]
  rw [Pattern.domain_of_accepts hw h, he]

end Config
end BeanMetrics
