/-!
Why an agent gives no usable answer.
-/

namespace BeanMetrics

inductive AgentError where
  /-- There was no connection. -/
  | connectionFailed (reason : String)
  /-- The request could not be completed. -/
  | requestFailed (reason : String)
  /-- The answer could not be read to its end, or no request could be made of the URL. -/
  | responseFailed (reason : String)
  /-- No answer within the given number of milliseconds, if that is known. -/
  | timeout (millis : Option Nat)
  | httpStatus (status : Nat)
  /-- The answer does not have the form that it should have. -/
  | malformed (reason : String)
  /-- The agent answered that the request failed. -/
  | rejected (status : Nat) (reason : String)
  | invalidObjectName (text : String)
  deriving DecidableEq, Repr

namespace AgentError

def message : AgentError → String
  | .connectionFailed reason => "Connection failed: " ++ reason
  | .requestFailed reason => "HTTP request failed: " ++ reason
  | .responseFailed reason => "Failed to read HTTP response: " ++ reason
  | .timeout none => "Request timed out"
  | .timeout (some millis) => "Request timed out after " ++ toString millis ++ "ms"
  | .httpStatus status => "HTTP error status: " ++ toString status
  | .malformed reason => "JSON parse error: " ++ reason
  | .rejected status reason => "Jolokia error (status " ++ toString status ++ "): " ++ reason
  | .invalidObjectName text => "Invalid ObjectName: " ++ text

/-- The status that came with the error. -/
def status? : AgentError → Option Nat
  | .httpStatus status => some status
  | .rejected status _ => some status
  | _ => none

end AgentError
end BeanMetrics
