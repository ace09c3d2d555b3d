import BeanMetrics.Config.Basic
import BeanMetrics.Yaml.Printer

/-!
A configuration as a YAML text for people to see: all parts are there, and in place of a password
stand eight stars.
-/

namespace BeanMetrics
namespace Config

def mask : String := "********"

def redacted (c : Config) : Config :=
  { c with agent := { c.agent with password := c.agent.password.map fun _ => mask } }

def textMember (key value : String) : List Char :=
  Yaml.memberLine 2 key (Yaml.scalarText 4 value.toList)

def optionalMember (key : String) (value : Option String) : List Char :=
  match value with
  | some value => textMember key value
  | none => Yaml.memberLine 2 key "null".toList

/-- The configuration as a block mapping of block mappings. -/
def yaml (c : Config) : String :=
  String.ofList (
    "server:\n".toList ++
    textMember "listen" c.server.listen ++
    textMember "metrics_path" c.server.metricsPath ++
    textMember "ready_path" c.server.readyPath ++
    textMember "log_format" c.server.logFormat.name ++
    "jolokia:\n".toList ++
    textMember "url" c.agent.url ++
    optionalMember "username" c.agent.username ++
    optionalMember "password" c.agent.password ++
    Yaml.memberLine 2 "timeout_ms" (Binary64.wholeText c.agent.timeoutMillis) ++
    "exporter:\n".toList ++
    textMember "domain" c.exporter.domain ++
    textMember "pattern" c.exporter.pattern ++
    textMember "namespace" c.exporter.namespaceName)

def redactedYaml (c : Config) : String := c.redacted.yaml

end Config
end BeanMetrics
