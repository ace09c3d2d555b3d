import BeanMetrics.Agent.Assembly
import BeanMetrics.Agent.Basic
import BeanMetrics.Agent.Reply
import BeanMetrics.Net.Url
import BeanMetrics.Text.Base64

/-!
The client of an agent. A snapshot takes three requests: a search for the names that match a
pattern, a listing of the attributes of the pattern's domain, and a read of all values. If the
search finds nothing, the other two are not made; if a request fails, so does the snapshot.
-/

namespace BeanMetrics

structure Client where
  /-- The URL of the agent, without slashes at its end. -/
  baseUrl : String
  timeoutMillis : Nat
  credentials : Option (String × String)
  deriving DecidableEq, Inhabited, Repr

inductive Question where
  | search (pattern : String)
  | list (domain : String)
  /-- A read in which an attribute that fails is replaced by a text about it. -/
  | read (pattern : String)
  deriving DecidableEq, Repr

def Question.body : Question → Json
  | .search pattern => .ofMembers [("type", .string "search"), ("mbean", .string pattern)]
  | .list domain => .ofMembers [("type", .string "list"), ("path", .string domain)]
  | .read pattern =>
    .ofMembers [("type", .string "read"), ("mbean", .string pattern),
      ("config", .ofMembers [("ignoreErrors", .boolean true)])]

namespace Client

def create (url : String) (timeoutMillis : Nat) : Client :=
  ⟨String.ofList (Text.trimEnd '/' url.toList), timeoutMillis, none⟩

def withCredentials (c : Client) (user password : String) : Client :=
  { c with credentials := some (user, password) }

/-- The header that proves who the client is. -/
def authorization (c : Client) : Option String :=
  c.credentials.map fun (user, password) =>
    "Basic " ++ String.ofList (Text.encodeBase64
      (Text.encodeUtf8 (user.toList ++ ':' :: password.toList)))

/-- What an answer means for a client that waits `timeoutMillis`. -/
def replyOf (timeoutMillis : Nat) : Answer → Except AgentError Reply
  | .refused => .error (.connectionFailed "connection refused")
  | .dropped => .error (.requestFailed "connection closed")
  | .overdue => .error (.timeout (some timeoutMillis))
  | .cutShort status =>
    if 200 ≤ status ∧ status < 300 then .error (.responseFailed "body ended too early")
    else .error (.httpStatus status)
  | .response status body =>
    if 200 ≤ status ∧ status < 300 then (Reply.ofText body).bind Reply.succeed
    else .error (.httpStatus status)

def ask (c : Client) (agent : Agent) (question : Question) :
    Agent × Except AgentError Reply :=
  match Url.ofText c.baseUrl with
  | .error fault => (agent, .error (.responseFailed fault.message))
  | .ok url =>
    let (agent, answer) := agent.exchange ⟨"POST", url.target, c.authorization, question.body⟩
    (agent, replyOf c.timeoutMillis answer)

def search (c : Client) (agent : Agent) (pattern : Pattern) :
    Agent × Except AgentError (List ObjectName) :=
  let (agent, reply) := c.ask agent (.search pattern.text)
  (agent, reply.bind fun reply => ReplyValue.searched reply.value)

def list (c : Client) (agent : Agent) (domain : String) :
    Agent × Except AgentError (List ReplyValue.Listed) :=
  let (agent, reply) := c.ask agent (.list domain)
  (agent, reply.bind fun reply => ReplyValue.listed domain reply.value)

def read (c : Client) (agent : Agent) (pattern : Pattern) :
    Agent × Except AgentError (List ReplyValue.Readings) :=
  let (agent, reply) := c.ask agent (.read pattern.text)
  (agent, reply.bind fun reply => ReplyValue.read pattern pattern.text reply.value)

/-- All objects that match a pattern, with their attributes and values. -/
def snapshot (c : Client) (agent : Agent) (pattern : Pattern) :
    Agent × Except AgentError Snapshot :=
  match c.search agent pattern with
  | (agent, .error e) => (agent, .error e)
  | (agent, .ok []) => (agent, .ok .empty)
  | (agent, .ok names) =>
    match c.list agent pattern.domain.source with
    | (agent, .error e) => (agent, .error e)
    | (agent, .ok listed) =>
      match c.read agent pattern with
      | (agent, .error e) => (agent, .error e)
      | (agent, .ok read) => (agent, .ok (.assemble names listed read))

end Client
end BeanMetrics
