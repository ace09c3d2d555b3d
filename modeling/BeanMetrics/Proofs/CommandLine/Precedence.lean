import BeanMetrics.CommandLine.Override
import BeanMetrics.Proofs.Config.Valid
import BeanMetrics.Proofs.Yaml.Mapping

/-!
What the command line takes precedence over. A value that it gives replaces the one in the file, and
nothing else is changed. The file is checked before anything is replaced, though, so that a listen
address, a URL or a timeout in it has to be a good one even if another is given.
-/

namespace BeanMetrics
namespace CommandLine

/-- Which value results if one may be given instead of one's own. -/
structure Prevails {α : Type} (given : Option α) (own result : α) : Prop where
  replaced : ∀ value, given = some value → result = value
  kept : given = none → result = own

theorem prevails_iff {α : Type} {given : Option α} {own result : α} :
    Prevails given own result ↔ result = given.getD own := by
  cases given with
  | none => exact ⟨fun h => h.kept rfl, fun h => ⟨nofun, fun _ => h⟩⟩
  | some value =>
    refine ⟨fun h => h.replaced value rfl, fun h => ⟨?_, nofun⟩⟩
    intro other hv
    obtain rfl := Option.some.inj hv
    exact h

/-- How a configuration under a command line relates to the one without it. -/
structure Overrides (line : CommandLine) (c config : Config) : Prop where
  listen : Prevails line.listen c.server.listen config.server.listen
  url : Prevails line.agentUrl c.agent.url config.agent.url
  timeout : Prevails line.agentTimeout c.agent.timeoutMillis config.agent.timeoutMillis
  username : Prevails (line.username.map some) c.agent.username config.agent.username
  password : Prevails (line.password.map some) c.agent.password config.agent.password
  logFormat : Prevails line.logFormat c.server.logFormat config.server.logFormat
  metricsPath : config.server.metricsPath = c.server.metricsPath
  readyPath : config.server.readyPath = c.server.readyPath
  exporter : config.exporter = c.exporter

/-- The values in a configuration that a command line replaces are good ones. -/
structure ReplacesGood (line : CommandLine) (c : Config) : Prop where
  listen : line.listen ≠ none → ∃ address, c.listenAddress = .ok address
  url : line.agentUrl ≠ none → Config.checkUrl c.agent.url = .ok ()
  timeout : line.agentTimeout ≠ none → c.agent.timeoutMillis ≠ 0

variable {line : CommandLine} {c config : Config}

theorem getD_map_some {α : Type} (given own : Option α) :
    (given.map some).getD own = given.or own := by
  cases given <;> rfl

theorem overrides_override (line : CommandLine) (c : Config) : line.Overrides c (line.override c) where
  listen := prevails_iff.mpr rfl
  url := prevails_iff.mpr rfl
  timeout := prevails_iff.mpr rfl
  username := prevails_iff.mpr (getD_map_some _ _).symm
  password := prevails_iff.mpr (getD_map_some _ _).symm
  logFormat := prevails_iff.mpr rfl
  metricsPath := rfl
  readyPath := rfl
  exporter := rfl

/-- There is one configuration only under a command line. -/
theorem overrides_iff : line.Overrides c config ↔ config = line.override c := by
  refine ⟨fun h => ?_, fun h => h ▸ overrides_override line c⟩
  have listen := prevails_iff.mp h.listen
  have url := prevails_iff.mp h.url
  have timeout := prevails_iff.mp h.timeout
  have username := (prevails_iff.mp h.username).trans (getD_map_some _ _)
  have password := (prevails_iff.mp h.password).trans (getD_map_some _ _)
  have logFormat := prevails_iff.mp h.logFormat
  have metricsPath := h.metricsPath
  have readyPath := h.readyPath
  have exporter := h.exporter
  obtain ⟨⟨_, _, _, _⟩, ⟨_, _, _, _⟩, _⟩ := config
  subst listen url timeout username password logFormat metricsPath readyPath exporter
  rfl

/-! ### Files with a timeout -/

def timeoutFile (digits : String) : String := "jolokia:\n  timeout_ms: " ++ digits ++ "\n"

def withTimeout (millis : Nat) : Config :=
  { Config.default with agent := { AgentConfig.default with timeoutMillis := millis } }

theorem ofYaml?_timeoutFile {digits : String}
    (h : Yaml.tokens? (timeoutFile digits).toList =
      some [.blockMappingStart, .key, .scalar .plain "jolokia", .value, .blockMappingStart, .key,
        .scalar .plain "timeout_ms", .value, .scalar .plain digits, .blockEnd, .blockEnd]) :
    Config.ofYaml? (timeoutFile digits) =
      Yaml.Node.documentFormat.config? (.mapping [(.scalar .plain none "jolokia",
        .mapping [(.scalar .plain none "timeout_ms", .scalar .plain none digits)])]) := by
  have hnode := Yaml.Node.ofTokens?_section "jolokia" [("timeout_ms", digits)]
  exact congrArg (·.bind Yaml.Node.documentFormat.config?)
    ((congrArg (·.bind Yaml.Node.ofTokens?) h).trans hnode)

theorem ofYaml?_timeoutFile_zero : Config.ofYaml? (timeoutFile "0") = some (withTimeout 0) := by
  rw [ofYaml?_timeoutFile (by decide +kernel)]
  rfl

theorem ofYaml?_timeoutFile_ten : Config.ofYaml? (timeoutFile "10") = some (withTimeout 10) := by
  rw [ofYaml?_timeoutFile (by decide +kernel)]
  rfl

/-! ### Checks -/

/-- What is not replaced is checked in the result as well. -/
theorem valid_iff_replacesGood (h : (line.override c).Valid) : c.Valid ↔ line.ReplacesGood c := by
  refine ⟨fun hc => ⟨fun _ => hc.listen, fun _ => hc.url, fun _ => hc.timeout⟩, fun hr => ?_⟩
  refine ⟨?_, h.metricsPath, h.readyPath, h.paths, ?_, ?_, h.namespaceName, h.pattern⟩
  · by_cases hg : line.listen = none
    · have he : (line.override c).server.listen = c.server.listen := by simp [override, hg]
      have hl := h.listen
      unfold Config.listenAddress at hl
      rwa [he] at hl
    · exact hr.listen hg
  · by_cases hg : line.agentUrl = none
    · have he : (line.override c).agent.url = c.agent.url := by simp [override, hg]
      exact he ▸ h.url
    · exact hr.url hg
  · by_cases hg : line.agentTimeout = none
    · have he : (line.override c).agent.timeoutMillis = c.agent.timeoutMillis := by
        simp [override, hg]
      exact he ▸ h.timeout
    · exact hr.timeout hg

theorem resolve_of_invalid {text : String} (h : Config.ofYaml? text = some c) {fault : ConfigFault}
    (hc : c.validate = .error fault) : line.resolve (some text) = .error (.invalid fault) := by
  simp only [resolve, Config.loadOrDefault, Config.load, h, hc]
  rfl

theorem resolve_of_valid {text : String} (h : Config.ofYaml? text = some c)
    (hc : c.validate = .ok ()) :
    line.resolve (some text) =
      match (line.override c).validate with
      | .ok _ => .ok (line.override c)
      | .error fault => .error (.invalid fault) := by
  simp only [resolve, Config.loadOrDefault, Config.load, h, hc]
  rfl

theorem resolve_eq_ok_iff_validate {text : String} (h : Config.ofYaml? text = some c) :
    line.resolve (some text) = .ok config ↔
      config = line.override c ∧ config.validate = .ok () ∧ c.validate = .ok () := by
  cases hc : c.validate with
  | error fault => simp [resolve_of_invalid h hc]
  | ok _ =>
    rw [resolve_of_valid h hc]
    cases hv : (line.override c).validate with
    | error fault =>
      refine ⟨nofun, ?_⟩
      rintro ⟨rfl, hok, -⟩
      cases hv.symm.trans hok
    | ok _ =>
      constructor
      · intro he
        obtain rfl := Except.ok.inj he
        exact ⟨rfl, hv, rfl⟩
      · rintro ⟨rfl, -, -⟩
        rfl

/-- The configuration to run with, if the file holds the configuration `c`. There is one exactly if the
configuration under the command line passes all checks, and the values that it replaces pass them as well;
otherwise what is wrong with the file goes before what is wrong under the command line. -/
theorem resolve_eq_ok_iff {text : String} (h : Config.ofYaml? text = some c) (line : CommandLine) :
    (∀ config, line.resolve (some text) = .ok config ↔
      line.Overrides c config ∧ config.validate = .ok () ∧ line.ReplacesGood c) ∧
    ((∃ config, line.resolve (some text) = .ok config) ↔
      (line.override c).validate = .ok () ∧ line.ReplacesGood c) ∧
    (∀ fault, c.validate = .error fault → line.resolve (some text) = .error (.invalid fault)) ∧
    (∀ fault, c.validate = .ok () → (line.override c).validate = .error fault →
      line.resolve (some text) = .error (.invalid fault)) := by
  have hok (config : Config) : line.resolve (some text) = .ok config ↔
      line.Overrides c config ∧ config.validate = .ok () ∧ line.ReplacesGood c := by
    rw [resolve_eq_ok_iff_validate h, overrides_iff]
    refine and_congr_right fun he => and_congr_right fun hv => ?_
    rw [Config.validate_eq_ok_iff]
    exact valid_iff_replacesGood (Config.Valid.of_validate (he ▸ hv))
  refine ⟨hok, ⟨?_, fun ⟨hv, hr⟩ => ?_⟩, fun fault => resolve_of_invalid h, fun fault hc hv => ?_⟩
  · rintro ⟨config, he⟩
    obtain ⟨ho, hv, hr⟩ := (hok config).mp he
    exact ⟨overrides_iff.mp ho ▸ hv, hr⟩
  · exact ⟨_, (hok _).mpr ⟨overrides_override line c, hv, hr⟩⟩
  · rw [resolve_of_valid h hc, hv]

theorem resolve_eq_ok_iff_listen :
    let line : CommandLine := { empty with listen := some "9100", password := some "secret" }
    let c := withTimeout 10
    Config.ofYaml? (timeoutFile "10") = some c ∧
      line.resolve (some (timeoutFile "10")) = .ok (line.override c) ∧
      (line.override c).server.listen = "9100" ∧ (line.override c).agent.timeoutMillis = 10 := by
  intro line c
  have hv : (line.override c).validate = .ok () := by decide +kernel
  have hr : line.ReplacesGood c := by
    have hc : c.Valid := Config.Valid.of_validate (by decide +kernel)
    exact ⟨fun _ => hc.listen, fun _ => hc.url, fun _ => hc.timeout⟩
  have hok := (resolve_eq_ok_iff ofYaml?_timeoutFile_ten line).1 (line.override c)
  exact ⟨ofYaml?_timeoutFile_ten, hok.mpr ⟨overrides_override line c, hv, hr⟩, rfl, rfl⟩

/-- A timeout of zero in the file is an error even if the command line replaces it. -/
theorem resolve_timeout_replaced :
    let line : CommandLine := { empty with agentTimeout := some 10 }
    Config.ofYaml? (timeoutFile "0") = some (withTimeout 0) ∧
      (line.override (withTimeout 0)).validate = .ok () ∧
      line.resolve (some (timeoutFile "0")) = .error (.invalid .noTimeout) := by
  intro line
  exact ⟨ofYaml?_timeoutFile_zero, by decide +kernel,
    resolve_of_invalid ofYaml?_timeoutFile_zero (by decide +kernel)⟩

end CommandLine
end BeanMetrics
