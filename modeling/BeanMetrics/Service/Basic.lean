import BeanMetrics.Collection.Source
import BeanMetrics.Config.Basic
import BeanMetrics.Json.Printer
import BeanMetrics.Metric.Exposition
import BeanMetrics.Service.Error
import BeanMetrics.Service.Query

/-!
The service. It exposes metrics, says whether the node is ready, and that it is there itself. Every
request for metrics or readiness makes a pass of its own.
-/

namespace BeanMetrics

structure Request where
  method : String
  target : Target
  deriving DecidableEq, Inhabited, Repr

structure Response where
  status : Nat
  contentType : Option String
  body : String
  deriving DecidableEq, Inhabited, Repr

namespace Response

def bare (status : Nat) : Response := ⟨status, none, ""⟩

def ofError (e : ServiceError) : Response :=
  ⟨e.status, some "text/plain; charset=utf-8", e.publicText⟩

def withoutBody (r : Response) : Response := { r with body := "" }

end Response

inductive Endpoint where
  | metrics
  | ready
  | health
  deriving DecidableEq, Repr

structure Service where
  source : Source
  engine : Engine
  deriving Repr

namespace Service

def create (config : Config) (source : Source) (startTime : Binary64) : Service :=
  ⟨source, .create config.settings (.since startTime)⟩

/-- The client for the agent of a configuration; it needs both a user and a password to prove who it
is. -/
def client (config : Config) : Client :=
  let client := Client.create config.agent.url config.agent.timeoutMillis
  match config.agent.username, config.agent.password with
  | some user, some password => client.withCredentials user password
  | _, _ => client

/-- A pass over what the source has now. -/
def scrape (s : Service) (nanos : Nat) : Service × Except RecorderError (List Family) :=
  let (source, engine, families) := s.engine.scrape s.source nanos
  ({ s with source, engine }, families)

/-- The families of a pass and then those about the service, as far as they are asked for. -/
def metrics (s : Service) (query : Option String) (nanos : Nat) : Service × Response :=
  match s.scrape nanos with
  | (s, .error e) => (s, .ofError (.recorder e))
  | (s, .ok families) =>
    let families := families ++ s.engine.telemetry.families
    let selected := Exposition.select (Query.requestedNames query) families
    (s, ⟨200, some Exposition.contentType, Exposition.text selected⟩)

def readyStatus : Option AttributeValue → Nat
  | some (.boolean true) => 200
  | some (.boolean false) => 503
  | _ => 501

def resetStore (s : Service) : Service := { s with engine := { s.engine with store := .empty } }

/-- What the last pass has found out about the readiness of the node, as a status. -/
def readiness (s : Service) : Nat := readyStatus (s.engine.store.get? Store.readyKey)

/-- Empties the store and makes a pass, so that the answer says how things are now. -/
def ready (s : Service) (nanos : Nat) : Service × Response :=
  match s.resetStore.scrape nanos with
  | (s, .error _) => (s, .bare 500)
  | (s, .ok _) => (s, .bare s.readiness)

def health : Response :=
  ⟨200, some "application/json",
    (Json.ofMembers [("status", .string "healthy"), ("version", .string version)]).text⟩

def enter (s : Service) (endpoint : Endpoint) (query : Option String) (nanos : Nat) :
    Service × Response :=
  match endpoint with
  | .metrics => s.metrics query nanos
  | .ready => s.ready nanos
  | .health => (s, health)

end Service
end BeanMetrics
