import BeanMetrics.Agent.Client
import BeanMetrics.Collection.Engine

/-!
Where an engine's passes read from: an agent behind a client, or a fixed snapshot. If the agent
gives no snapshot, the pass is made all the same and finds nothing.
-/

namespace BeanMetrics

inductive Source where
  | agent (client : Client) (peer : Agent)
  | fixed (snapshot : Snapshot)
  deriving Repr

def Source.snapshot (source : Source) (pattern : Pattern) : Source × Snapshot :=
  match source with
  | .fixed snapshot => (source, snapshot)
  | .agent client peer =>
    match client.snapshot peer pattern with
    | (peer, .ok snapshot) => (.agent client peer, snapshot)
    | (peer, .error e) => (.agent client peer, .unreachable e.message)

/-- Fetches a snapshot and makes a pass over it. Without a pattern nothing is fetched. -/
def Engine.scrape (e : Engine) (source : Source) (nanos : Nat) :
    Source × Engine × Except RecorderError (List Family) :=
  match e.pattern with
  | none => (source, e.collect Snapshot.empty.registry nanos)
  | some pattern =>
    let (source, snapshot) := source.snapshot pattern
    (source, e.collect snapshot.registry nanos)

end BeanMetrics
