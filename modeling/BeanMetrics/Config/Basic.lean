import BeanMetrics.Collection.Pass
import BeanMetrics.Net.ListenAddress
import BeanMetrics.Net.Url
import BeanMetrics.ObjectName.Pattern
import BeanMetrics.Registry.Basic

/-!
The configuration: where to listen and under which paths, which agent to ask, and which objects to
read. `Config.validate` names the first thing that is wrong with one.
-/

namespace BeanMetrics

inductive LogFormat where
  | text
  | json
  deriving DecidableEq, Inhabited, Repr

namespace LogFormat

def name : LogFormat → String
  | .text => "text"
  | .json => "json"

def ofName? (name : String) : Option LogFormat :=
  if name = "text" then some .text else if name = "json" then some .json else none

end LogFormat

structure ServerConfig where
  listen : String
  metricsPath : String
  readyPath : String
  logFormat : LogFormat
  deriving DecidableEq, Inhabited, Repr

structure AgentConfig where
  url : String
  username : Option String
  password : Option String
  timeoutMillis : Nat
  deriving DecidableEq, Inhabited, Repr

structure ExporterConfig where
  domain : String
  pattern : String
  namespaceName : String
  deriving DecidableEq, Inhabited, Repr

structure Config where
  server : ServerConfig
  agent : AgentConfig
  exporter : ExporterConfig
  deriving DecidableEq, Inhabited, Repr

def ServerConfig.default : ServerConfig := ⟨"0.0.0.0:7071", "/metrics", "/ready", .text⟩

def AgentConfig.default : AgentConfig := ⟨"http://localhost:8778/jolokia", none, none, 5000⟩

def ExporterConfig.default : ExporterConfig := ⟨"io.crate.monitoring", "*", "crate"⟩

def Config.default : Config := ⟨.default, .default, .default⟩

inductive ConfigFault where
  | listen (text : String) (fault : ListenAddress.Fault)
  | relativePath (which : String)
  | reservedPath (which : String)
  | samePaths
  | url (text : String) (fault : Url.Fault)
  | otherScheme (scheme : String)
  | noTimeout
  | namespaceName (text : String)
  | pattern (text : String)
  /-- Anything else, in words. -/
  | other (text : String)
  deriving DecidableEq, Repr

def ConfigFault.message : ConfigFault → String
  | .listen text fault => "Invalid listen address '" ++ text ++ "': " ++ fault.message
  | .relativePath which => which ++ " must start with '/'"
  | .reservedPath which => which ++ " must not be '/' or '/health'"
  | .samePaths => "Metrics path and ready path must differ"
  | .url text fault => "Invalid Jolokia URL '" ++ text ++ "': " ++ fault.message
  | .otherScheme scheme => "Jolokia URL must use http or https, got '" ++ scheme ++ "'"
  | .noTimeout => "Jolokia timeout must be greater than 0"
  | .namespaceName text => "Namespace '" ++ text ++ "' is not a valid metric name prefix"
  | .pattern text => (RegistryError.malformedPattern text).message
  | .other text => text

inductive ConfigError where
  /-- The file cannot be read. -/
  | unreadable
  /-- The file is no configuration. -/
  | unparsable
  | invalid (fault : ConfigFault)
  deriving DecidableEq, Repr

def ConfigError.message : ConfigError → String
  | .unreadable => "Failed to read config file"
  | .unparsable => "Failed to parse config file"
  | .invalid fault => "Invalid configuration: " ++ fault.message

namespace Config

def settings (c : Config) : Settings :=
  ⟨c.exporter.domain, c.exporter.pattern, c.exporter.namespaceName⟩

def listenAddress (c : Config) : Except ConfigFault SocketAddress :=
  match ListenAddress.ofText c.server.listen with
  | .ok address => .ok address
  | .error fault => .error (.listen c.server.listen fault)

/-- A path that is absolute and not taken by the two fixed endpoints. -/
def checkPath (which path : String) : Except ConfigFault Unit :=
  if Text.startsWith ['/'] path.toList = false then .error (.relativePath which)
  else if path = "/" ∨ path = "/health" then .error (.reservedPath which)
  else .ok ()

def checkUrl (text : String) : Except ConfigFault Unit :=
  match Url.ofText text with
  | .error fault => .error (.url text fault)
  | .ok url =>
    if url.scheme = "http" ∨ url.scheme = "https" then .ok () else .error (.otherScheme url.scheme)

def isLetter (c : Char) : Bool := ('a' ≤ c && c ≤ 'z') || ('A' ≤ c && c ≤ 'Z')

def isDigit (c : Char) : Bool := '0' ≤ c && c ≤ '9'

/-- A letter, `_` or `:`, and then any number of these and of digits. -/
def isNamespace (name : String) : Bool :=
  match name.toList with
  | [] => false
  | c :: cs =>
    (isLetter c || c = '_' || c = ':') &&
      cs.all fun c => isLetter c || isDigit c || c = '_' || c = ':'

/-- Checks everything, in a fixed order. -/
def validate (c : Config) : Except ConfigFault Unit := do
  let _ ← c.listenAddress
  checkPath "Metrics path" c.server.metricsPath
  checkPath "Ready path" c.server.readyPath
  if c.server.metricsPath = c.server.readyPath then throw .samePaths
  checkUrl c.agent.url
  if c.agent.timeoutMillis = 0 then throw .noTimeout
  if isNamespace c.exporter.namespaceName = false then
    throw (.namespaceName c.exporter.namespaceName)
  let pattern := c.settings.objectPattern
  if (Pattern.ofText? pattern).isNone then throw (.pattern pattern)

end Config
end BeanMetrics
