import BeanMetrics.Collection.Source

/-!
Passes are isolated from each other. What is done to an engine leaves its settings and its pattern
as they are, a pass forgets at its beginning what the recorders have learnt, and it never reads the
store; so an engine that has been in use makes the passes that a new one would make.
-/

namespace BeanMetrics
namespace Engine

/-- What may be done to an engine and its store before a pass. -/
inductive Operation where
  | collect (registry : Registry) (nanos : Nat)
  | scrape (source : Source) (nanos : Nat)
  | put (key : String) (value : AttributeValue)
  | resetStore

def perform (e : Engine) : Operation → Engine
  | .collect registry nanos => (e.collect registry nanos).1
  | .scrape source nanos => (e.scrape source nanos).2.1
  | .put key value => { e with store := e.store.put key value }
  | .resetStore => { e with store := .empty }

def performAll (e : Engine) (history : List Operation) : Engine := history.foldl perform e

def writes (e : Engine) (registry : Registry) : List (String × AttributeValue) :=
  (Pass.run e.settings e.pattern registry e.recorders).effect.writes

/-- Engines that read the same objects and name their metrics alike, whatever they keep from earlier
passes. -/
structure Alike (e e' : Engine) : Prop where
  settings : e.settings = e'.settings
  pattern : e.pattern = e'.pattern

theorem Alike.refl (e : Engine) : Alike e e := ⟨rfl, rfl⟩

theorem Alike.trans {e e' e'' : Engine} (h : Alike e e') (h' : Alike e' e'') : Alike e e'' :=
  ⟨h.settings.trans h'.settings, h.pattern.trans h'.pattern⟩

/-! ### What an operation leaves as it is -/

theorem alike_collect (e : Engine) (registry : Registry) (nanos : Nat) :
    Alike (e.collect registry nanos).1 e := by
  dsimp only [collect]
  cases (Pass.run e.settings e.pattern registry e.recorders).violation with
  | none => exact ⟨rfl, rfl⟩
  | some violation => exact ⟨rfl, rfl⟩

theorem alike_scrape (e : Engine) (source : Source) (nanos : Nat) :
    Alike (e.scrape source nanos).2.1 e := by
  unfold scrape
  split
  · exact alike_collect e _ nanos
  · exact alike_collect e _ nanos

theorem alike_perform (e : Engine) (operation : Operation) : Alike (e.perform operation) e := by
  cases operation with
  | collect registry nanos => exact alike_collect e registry nanos
  | scrape source nanos => exact alike_scrape e source nanos
  | put key value => exact ⟨rfl, rfl⟩
  | resetStore => exact ⟨rfl, rfl⟩

theorem alike_performAll (e : Engine) (history : List Operation) :
    Alike (e.performAll history) e := by
  induction history generalizing e with
  | nil => exact .refl e
  | cons operation history ih => exact (ih (e.perform operation)).trans (alike_perform e operation)

theorem alike_create (settings : Settings) (telemetry telemetry' : Telemetry) :
    Alike (create settings telemetry) (create settings telemetry') := ⟨rfl, rfl⟩

/-! ### Passes of engines that are alike -/

theorem run_eq_of_alike {e e' : Engine} (h : Alike e e') (registry : Registry) :
    Pass.run e.settings e.pattern registry e.recorders =
      Pass.run e'.settings e'.pattern registry e'.recorders := by
  have hr : e.recorders.reset = e'.recorders.reset := by
    rw [Recorders.reset_eq_initial, Recorders.reset_eq_initial]
  rw [h.settings, h.pattern, Pass.run, hr, ← Pass.run]

theorem store_collect (e : Engine) (registry : Registry) (nanos : Nat) :
    (e.collect registry nanos).1.store = e.store.putAll (e.writes registry) := by
  dsimp only [collect, writes]
  cases (Pass.run e.settings e.pattern registry e.recorders).violation <;> rfl

theorem result_eq_of_alike {e e' : Engine} (h : Alike e e') (registry : Registry)
    (nanos nanos' : Nat) :
    (e.collect registry nanos).2 = (e'.collect registry nanos').2 := by
  have hr := run_eq_of_alike h registry
  dsimp only [collect]
  rw [hr]
  cases (Pass.run e'.settings e'.pattern registry e'.recorders).violation <;> rfl

theorem writes_eq_of_alike {e e' : Engine} (h : Alike e e') (registry : Registry) :
    e.writes registry = e'.writes registry := by
  rw [writes, run_eq_of_alike h, ← writes]

/-- Whatever was done to an engine before, a pass comes to what it comes to on a new engine with the
same settings and writes the same to the store; made once more, it comes to the same again. -/
theorem collect_performAll (settings : Settings) (telemetry telemetry' : Telemetry)
    (history : List Operation) (registry : Registry) (nanos nanos' : Nat) :
    let used := (create settings telemetry).performAll history
    let fresh := create settings telemetry'
    (used.collect registry nanos).2 = (fresh.collect registry nanos').2 ∧
      used.writes registry = fresh.writes registry ∧
      (used.collect registry nanos).1.store = used.store.putAll (fresh.writes registry) ∧
      (fresh.collect registry nanos').1.store = fresh.store.putAll (fresh.writes registry) ∧
      ((used.collect registry nanos).1.collect registry nanos').2 =
        (used.collect registry nanos).2 := by
  intro used fresh
  have ha : Alike used fresh :=
    (alike_performAll _ history).trans (alike_create settings telemetry telemetry')
  have hw : used.writes registry = fresh.writes registry := writes_eq_of_alike ha registry
  refine ⟨result_eq_of_alike ha registry nanos nanos', hw, ?_, ?_, ?_⟩
  · rw [store_collect, hw]
  · exact store_collect fresh registry nanos'
  · exact result_eq_of_alike (alike_collect used registry nanos) registry nanos' nanos

/-- The id of the node, and then a pool that is no record. -/
def aborting : Snapshot where
  objects :=
    [(SnapshotObject.named ⟨"io.crate.monitoring", [("type", "NodeInfo")]⟩).withAttribute
      ⟨"NodeId", "java.lang.String", "", true⟩ (.string "n1"),
     (SnapshotObject.named ⟨"io.crate.monitoring", [("type", "ThreadPools")]⟩).withAttribute
      ⟨"Search", "long", "", true⟩ (.number .one)]
  unavailable := none

/-- A pass over it is aborted with the id learnt; so there is something to forget. -/
example : ((create .default (.since .zero)).performAll [.collect aborting.registry 0]).recorders =
    ⟨⟨some "n1", none, false⟩⟩ := by decide +kernel

end Engine
end BeanMetrics
