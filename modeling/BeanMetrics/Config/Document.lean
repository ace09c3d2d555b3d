import BeanMetrics.Config.Basic
import BeanMetrics.Json.Basic
import BeanMetrics.Yaml.Node
import BeanMetrics.Yaml.Scalar

/-!
Configurations in documents. A document is a tree of a data format; `DocumentFormat` says how the
parts of a configuration are found in such a tree, so that one reading serves YAML and JSON. A part
that is missing has its default; a part that is there twice, or of another form, is an error; parts
that are not known do not count.
-/

namespace BeanMetrics

/-- How a data format holds the parts of a configuration. -/
structure DocumentFormat (α : Type) where
  /-- The members of a section under the given names. The second argument counts the names up to
  the last that has to be there when members are told apart by their place only. -/
  members? : List String → Nat → α → Option (List (String × α))
  text? : α → Option String
  /-- A text or, for null, nothing. -/
  optionalText? : α → Option (Option String)
  /-- A natural number below `2 ^ 64`. -/
  natural? : α → Option Nat
  logFormat? : α → Option LogFormat

namespace DocumentFormat

variable {α : Type}

/-- A member, or the default if it is missing. -/
def member? {β : Type} (members : List (String × α)) (name : String) (default : β)
    (read : α → Option β) : Option β :=
  match members.lookup name with
  | some value => read value
  | none => some default

def server? (f : DocumentFormat α) (section_ : α) : Option ServerConfig := do
  let members ← f.members? ["listen", "metrics_path", "ready_path", "log_format"] 0 section_
  let default := ServerConfig.default
  return {
    listen := ← member? members "listen" default.listen f.text?
    metricsPath := ← member? members "metrics_path" default.metricsPath f.text?
    readyPath := ← member? members "ready_path" default.readyPath f.text?
    logFormat := ← member? members "log_format" default.logFormat f.logFormat? }

def agent? (f : DocumentFormat α) (section_ : α) : Option AgentConfig := do
  let members ← f.members? ["url", "username", "password", "timeout_ms"] 3 section_
  let default := AgentConfig.default
  return {
    url := ← member? members "url" default.url f.text?
    username := ← member? members "username" default.username f.optionalText?
    password := ← member? members "password" default.password f.optionalText?
    timeoutMillis := ← member? members "timeout_ms" default.timeoutMillis f.natural? }

def exporter? (f : DocumentFormat α) (section_ : α) : Option ExporterConfig := do
  let members ← f.members? ["domain", "pattern", "namespace"] 0 section_
  let default := ExporterConfig.default
  return {
    domain := ← member? members "domain" default.domain f.text?
    pattern := ← member? members "pattern" default.pattern f.text?
    namespaceName := ← member? members "namespace" default.namespaceName f.text? }

/-- The configuration that a document holds. -/
def config? (f : DocumentFormat α) (document : α) : Option Config := do
  let members ← f.members? ["server", "jolokia", "exporter"] 0 document
  return {
    server := ← member? members "server" .default f.server?
    agent := ← member? members "jolokia" .default f.agent?
    exporter := ← member? members "exporter" .default f.exporter? }

end DocumentFormat

namespace Json

/-- The members of an object, or the elements of an array under the names in their order. -/
def section? (names : List String) (required : Nat) : Json → Option (List (String × Json))
  | .object members => some members
  | .array elements =>
    if required ≤ elements.length ∧ elements.length ≤ names.length then some (names.zip elements)
    else none
  | _ => none

/-- A name of a log format, alone or as the only member of an object. -/
def logFormat? : Json → Option LogFormat
  | .string name => LogFormat.ofName? name
  | .object [(name, .null)] => LogFormat.ofName? name
  | _ => none

/-- In JSON every part has the form that it says, and numbers are not texts. -/
def documentFormat : DocumentFormat Json where
  members? := section?
  text? := string?
  optionalText?
    | .null => some none
    | .string s => some (some s)
    | _ => none
  natural? := natural?
  logFormat? := logFormat?

end Json

namespace Yaml.Node

/-- Whether a node is nothing, written plainly. -/
def isNull : Node → Bool
  | .scalar .plain _ text => Yaml.isNull text.toList
  | _ => false

/-- The members of a mapping that have one of the given names; each may be there once. The empty
node is an empty mapping. -/
def section? (names : List String) : Node → Option (List (String × Node))
  | .mapping pairs => do
    let members ← pairs.mapM fun (key, value) =>
      match key with
      | .scalar _ _ name => some (name, value)
      | _ => none
    let known := members.filter fun (name, _) => names.contains name
    if (known.map (·.1)).Pairwise (· ≠ ·) then return known else none
  | .scalar .plain _ "" => some []
  | _ => none

def text? : Node → Option String
  | .scalar _ _ text => some text
  | _ => none

def optionalText? (node : Node) : Option (Option String) :=
  if node.isNull then some none else node.text?.map some

/-- A natural number below `2 ^ 64`, written plainly. -/
def natural? : Node → Option Nat
  | .scalar .plain _ text => Yaml.natural? (Nat.pow 2 64) text.toList
  | _ => none

/-- A name of a log format, or a tag of that name on nothing. -/
def logFormat? : Node → Option LogFormat
  | .scalar style (some tag) text =>
    match tag.toList with
    | '!' :: '!' :: _ => LogFormat.ofName? text
    | '!' :: c :: rest =>
      if style = .plain ∧ Yaml.isNull text.toList then LogFormat.ofName? (String.ofList (c :: rest))
      else none
    | _ => LogFormat.ofName? text
  | .scalar _ none text => LogFormat.ofName? text
  | _ => none

/-- In YAML every scalar is a text as well. -/
def documentFormat : DocumentFormat Node where
  members? names _ := section? names
  text? := text?
  optionalText? := optionalText?
  natural? := natural?
  logFormat? := logFormat?

end Yaml.Node

namespace Config

def ofJson? (value : Json) : Option Config := Json.documentFormat.config? value

def ofYaml? (text : String) : Option Config :=
  (Yaml.Node.ofText? text).bind Yaml.Node.documentFormat.config?

/-- The configuration in a file with the given contents, none if there is no such file; it has to
be valid by itself. -/
def load (contents : Option String) : Except ConfigError Config :=
  match contents with
  | none => .error .unreadable
  | some text =>
    match ofYaml? text with
    | none => .error .unparsable
    | some config =>
      match config.validate with
      | .ok _ => .ok config
      | .error fault => .error (.invalid fault)

def loadOrDefault (contents : Option String) : Except ConfigError Config :=
  match contents with
  | none => .ok .default
  | some text => load (some text)

end Config
end BeanMetrics
