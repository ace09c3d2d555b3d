import BeanMetrics.Agent.Error
import BeanMetrics.Json.Basic

/-!
Replies of an agent. A reply is an object with known members, each at most once, and any others,
which do not count; or an array of the values of all members in their order. It repeats the request
that it answers.
-/

namespace BeanMetrics

open Json (Written)

structure RequestEcho where
  type : String
  mbean : Option String
  path : Option String
  deriving DecidableEq, Inhabited, Repr

structure Reply where
  request : RequestEcho
  value : Json
  status : Nat
  timestamp : Nat
  error : Option String
  errorType : Option String
  deriving Inhabited, Repr

/-- The members of an object that have one of the given names, or the elements of an array under
these names. -/
def Json.Written.membersNamed? (names : List String) :
    Written → Option (List (String × Written))
  | .object members => do
    let members ← members.mapM fun (key, value) => key.map (·, value)
    let known := members.filter fun (key, _) => names.contains key
    if (known.map (·.1)).Pairwise (· ≠ ·) then return known else none
  | .array elements => if elements.length = names.length then some (names.zip elements) else none
  | _ => none

namespace Reply

/-- A text, which may be missing or null. -/
def optionalText? : Option Written → Option (Option String)
  | none => some none
  | some .null => some none
  | some (.string (some text)) => some (some text)
  | _ => none

def text? : Written → Option String
  | .string text => text
  | _ => none

/-- A natural number below a bound, written without fraction and exponent. -/
def natural? (bound : Nat) : Written → Option Nat
  | .number n =>
    match n.value? with
    | some (.natural value) => if value < bound then some value else none
    | _ => none
  | _ => none

def echoOfWritten? (written : Written) : Option RequestEcho := do
  let members ← written.membersNamed? ["mbean", "path", "type"]
  let mbean ← optionalText? (members.lookup "mbean")
  let path ← optionalText? (members.lookup "path")
  let type ← text? (← members.lookup "type")
  return { type, mbean, path }

/-- The reply that a written object stands for, when its members may be nested `depth` deep. -/
def ofWritten? (depth : Nat) (written : Written) : Option Reply := do
  let members ← written.membersNamed?
    ["request", "value", "status", "timestamp", "error", "error_type"]
  let request ← echoOfWritten? (← members.lookup "request")
  let value ← match members.lookup "value" with
    | some value => Json.ofWritten? depth value
    | none => some .null
  let status ← natural? (Nat.pow 2 16) (← members.lookup "status")
  let timestamp ← match members.lookup "timestamp" with
    | some timestamp => natural? (Nat.pow 2 64) timestamp
    | none => some 0
  let error ← optionalText? (members.lookup "error")
  let errorType ← optionalText? (members.lookup "error_type")
  return { request, value, status, timestamp, error, errorType }

def malformed : AgentError := .malformed "not a reply"

def ofText (text : String) : Except AgentError Reply :=
  match (Written.ofText? text).bind (ofWritten? (Json.maxDepth - 1)) with
  | some reply => .ok reply
  | none => .error malformed

def bulkOfText (text : String) : Except AgentError (List Reply) :=
  match Written.ofText? text with
  | some (.array elements) =>
    match elements.mapM (ofWritten? (Json.maxDepth - 2)) with
    | some replies => .ok replies
    | none => .error malformed
  | _ => .error malformed

/-- The reply itself if the request succeeded, and otherwise what the agent says about it. -/
def succeed (reply : Reply) : Except AgentError Reply :=
  if reply.status = 200 then .ok reply
  else .error (.rejected reply.status
    (reply.error.getD (reply.request.type ++ " request failed")))

end Reply
end BeanMetrics
