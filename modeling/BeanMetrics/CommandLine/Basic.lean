import BeanMetrics.Config.Basic
import BeanMetrics.Text.Digits

/-!
What can be said on the command line: parameters, which have a value, and flags, which have none.
Each can be given once; a value is checked when it is taken over.
-/

namespace BeanMetrics

inductive LogLevel where
  | trace
  | debug
  | info
  | warn
  | error
  deriving DecidableEq, Inhabited, Repr

namespace LogLevel

def all : List LogLevel := [.trace, .debug, .info, .warn, .error]

def name : LogLevel → String
  | .trace => "trace"
  | .debug => "debug"
  | .info => "info"
  | .warn => "warn"
  | .error => "error"

def label (level : LogLevel) : String := String.ofList (level.name.toList.map Char.toUpper)

def ofName? (name : String) : Option LogLevel := all.find? fun level => level.name = name

end LogLevel

inductive Parameter where
  | config
  | listen
  | agentUrl
  | agentTimeout
  | username
  | password
  | logLevel
  | logFormat
  deriving DecidableEq, Repr

namespace Parameter

/-- All parameters, in the order in which the environment is asked for them. -/
def all : List Parameter :=
  [.config, .listen, .agentUrl, .agentTimeout, .username, .password, .logLevel, .logFormat]

def name : Parameter → String
  | .config => "config"
  | .listen => "listen"
  | .agentUrl => "jolokia-url"
  | .agentTimeout => "jolokia-timeout"
  | .username => "username"
  | .password => "password"
  | .logLevel => "log-level"
  | .logFormat => "log-format"

/-- The environment variable that gives the value if the command line does not. -/
def environmentName : Parameter → String
  | .config => "CRATE_JMX_CONFIG"
  | .listen => "CRATE_JMX_LISTEN"
  | .agentUrl => "CRATE_JMX_JOLOKIA_URL"
  | .agentTimeout => "CRATE_JMX_JOLOKIA_TIMEOUT"
  | .username => "CRATE_JMX_USERNAME"
  | .password => "CRATE_JMX_PASSWORD"
  | .logLevel => "CRATE_JMX_LOG_LEVEL"
  | .logFormat => "CRATE_JMX_LOG_FORMAT"

end Parameter

inductive Flag where
  | validate
  | help
  | version
  deriving DecidableEq, Repr

/-- What a name on the command line stands for. -/
inductive Meaning where
  | parameter (p : Parameter)
  | flag (f : Flag)
  deriving DecidableEq, Repr

namespace Meaning

/-- What a long name stands for. Names cannot be abbreviated. -/
def ofName? (name : String) : Option Meaning :=
  match Parameter.all.find? fun p => p.name = name with
  | some p => some (.parameter p)
  | none =>
    if name = "validate" then some (.flag .validate)
    else if name = "help" then some (.flag .help)
    else if name = "version" then some (.flag .version)
    else none

/-- What a letter stands for. -/
def ofLetter? : Char → Option Meaning
  | 'c' => some (.parameter .config)
  | 'l' => some (.parameter .logLevel)
  | 'h' => some (.flag .help)
  | 'V' => some (.flag .version)
  | _ => none

end Meaning

/-- Why a command line is not carried out. -/
inductive CommandFault where
  | unknownArgument
  /-- A parameter without its value, or a value that is none of those possible. -/
  | invalidValue
  /-- A value that should be a number. -/
  | notANumber
  | givenTwice
  /-- A flag with a value. -/
  | unexpectedValue
  | helpWanted
  | versionWanted
  deriving DecidableEq, Repr

structure CommandLine where
  config : Option String
  listen : Option String
  agentUrl : Option String
  agentTimeout : Option Nat
  username : Option String
  password : Option String
  logLevel : Option LogLevel
  logFormat : Option LogFormat
  validate : Bool
  deriving DecidableEq, Inhabited, Repr

namespace CommandLine

def empty : CommandLine := ⟨none, none, none, none, none, none, none, none, false⟩

def configPath (c : CommandLine) : String := c.config.getD "config.yaml"

def level (c : CommandLine) : LogLevel := c.logLevel.getD .info

def has (c : CommandLine) : Parameter → Bool
  | .config => c.config.isSome
  | .listen => c.listen.isSome
  | .agentUrl => c.agentUrl.isSome
  | .agentTimeout => c.agentTimeout.isSome
  | .username => c.username.isSome
  | .password => c.password.isSome
  | .logLevel => c.logLevel.isSome
  | .logFormat => c.logFormat.isSome

/-- A natural number below `2 ^ 64`, behind a plus sign or not. -/
def timeout? (value : String) : Option Nat :=
  let digits := match value.toList with
    | '+' :: rest => rest
    | s => s
  (Text.number? 10 digits).filter (· < Nat.pow 2 64)

def orFault {α : Type} (fault : CommandFault) : Option α → Except CommandFault α
  | some a => .ok a
  | none => .error fault

def give (c : CommandLine) (p : Parameter) (value : String) : Except CommandFault CommandLine :=
  if c.has p then .error .givenTwice
  else match p with
    | .config =>
      if value = "" then .error .invalidValue else .ok { c with config := some value }
    | .listen => .ok { c with listen := some value }
    | .agentUrl => .ok { c with agentUrl := some value }
    | .agentTimeout =>
      (orFault .notANumber (timeout? value)).map fun n => { c with agentTimeout := some n }
    | .username => .ok { c with username := some value }
    | .password => .ok { c with password := some value }
    | .logLevel =>
      (orFault .invalidValue (LogLevel.ofName? value)).map fun l => { c with logLevel := some l }
    | .logFormat =>
      (orFault .invalidValue (LogFormat.ofName? value)).map fun f => { c with logFormat := some f }

def raise (c : CommandLine) : Flag → Except CommandFault CommandLine
  | .help => .error .helpWanted
  | .version => .error .versionWanted
  | .validate => if c.validate then .error .givenTwice else .ok { c with validate := true }

end CommandLine
end BeanMetrics
