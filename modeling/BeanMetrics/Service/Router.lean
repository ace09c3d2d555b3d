import BeanMetrics.Service.Basic

/-!
The server: a service behind a router. The router comes from a library; it is given all routes, takes or
refuses them, and then finds the endpoint for the path of a request. Metrics are under the root and a
configured path, the status of the node is under another configured path, and `/health` is fixed.
-/

namespace BeanMetrics

abbrev Router := List (String × Endpoint) → Option (String → Option Endpoint)

/-- Whether a route is a plain text, without the names of wildcards. -/
def Router.isLiteral (route : String) : Bool := route.toList.all fun c => c ≠ ':' && c ≠ '*'

/-- A router that takes nothing but different plain texts. -/
def Router.ofLiterals : Router := fun routes =>
  if (∀ route ∈ routes, Text.startsWith ['/'] route.1.toList = true ∧ isLiteral route.1 = true) ∧
      (routes.map (·.1)).Nodup then
    some fun path => routes.lookup path
  else none

def Config.routes (c : Config) : List (String × Endpoint) :=
  [("/", .metrics), ("/health", .health), (c.server.metricsPath, .metrics),
    (c.server.readyPath, .ready)]

structure Server where
  find? : String → Option Endpoint
  service : Service

namespace Server

/-- The server of a configuration, unless the router refuses its routes. -/
def start? (router : Router) (config : Config) (source : Source) (startTime : Binary64) :
    Option Server :=
  (router config.routes).map fun find? => ⟨find?, .create config source startTime⟩

/-- The response to a request whose pass takes the given number of nanoseconds. Of the methods only
`GET` is served, and `HEAD`, which is `GET` without the body. -/
def answer (s : Server) (request : Request) (nanos : Nat) : Server × Response :=
  match s.find? request.target.path with
  | none => (s, .bare 404)
  | some endpoint =>
    let (service, response) := s.service.enter endpoint request.target.query nanos
    if request.method = "GET" then ({ s with service }, response)
    else if request.method = "HEAD" then ({ s with service }, response.withoutBody)
    else (s, .bare 405)

end Server
end BeanMetrics
