import BeanMetrics.Agent.Error
import BeanMetrics.Config.Basic
import BeanMetrics.Recorder.Basic

/-!
What can go wrong in the service. Whoever sent the request learns what kind of error it was, but not
the details.
-/

namespace BeanMetrics

inductive ServiceError where
  | config (error : ConfigError)
  | agent (error : AgentError)
  | recorder (error : RecorderError)
  | internal (reason : String)
  deriving DecidableEq, Repr

namespace ServiceError

/-- The kind of an error, in words for everyone. -/
def publicText : ServiceError → String
  | .config _ => "Configuration error"
  | .agent _ => "Collector error"
  | .recorder _ => "Translation error"
  | .internal _ => "Internal error"

/-- The details of an error. -/
def details : ServiceError → String
  | .config error => error.message
  | .agent error => error.message
  | .recorder error => error.message
  | .internal reason => reason

def message (e : ServiceError) : String := e.publicText ++ ": " ++ e.details

def status : ServiceError → Nat
  | .agent _ => 502
  | _ => 500

end ServiceError
end BeanMetrics
