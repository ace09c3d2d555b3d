import BeanMetrics.Json.Basic

/-!
An agent as its client sees it: requests go out one after another, and each gets one answer. The
answers still to come are a list, and the exchanges that have been made are kept.
-/

namespace BeanMetrics

structure AgentRequest where
  method : String
  /-- The target of the request: path and query. -/
  path : String
  authorization : Option String
  body : Json
  deriving Inhabited, Repr

/-- What becomes of a request. -/
inductive Answer where
  /-- There is no connection, and the agent sees nothing of the request. -/
  | refused
  /-- The connection ends without an answer. -/
  | dropped
  /-- The answer does not come in time. -/
  | overdue
  /-- The status comes, but the body ends too early. -/
  | cutShort (status : Nat)
  | response (status : Nat) (body : String)
  deriving DecidableEq, Repr

structure Agent where
  answers : List Answer
  /-- The answer to every request behind the last of `answers`. -/
  afterwards : Answer
  exchanges : List (AgentRequest × Answer)
  deriving Repr

namespace Agent

/-- An agent with the given answers, which is then unavailable. -/
def answering (answers : List Answer) : Agent := ⟨answers, .response 503 "", []⟩

/-- Nothing listens: every connection is refused. -/
def closed : Agent := ⟨[], .refused, []⟩

/-- The answer to one more request. -/
def exchange (agent : Agent) (request : AgentRequest) : Agent × Answer :=
  let answer := agent.answers.headD agent.afterwards
  ({ agent with
      answers := agent.answers.tail
      exchanges := agent.exchanges ++ [(request, answer)] }, answer)

def received (agent : Agent) : List AgentRequest :=
  agent.exchanges.filterMap fun (request, answer) =>
    if answer = .refused then none else some request

end Agent
end BeanMetrics
