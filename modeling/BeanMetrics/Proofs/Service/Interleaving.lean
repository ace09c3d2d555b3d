import BeanMetrics.Proofs.Service.Readiness
import Mathlib.Data.Fin.Basic

/-!
Requests that are served at the same time. A pass is one step, as it holds the recorders from its
beginning to its end; but a request for readiness empties the store before its pass and reads the
flag after it, and in between another request may empty the store again. The flag is then not found,
and the answer is that of a node that has none.
-/

namespace BeanMetrics

def Source.asked (pattern : Pattern) : Nat → Source → Source
  | 0, source => source
  | n + 1, source => asked pattern n (source.snapshot pattern).1

/-- However often it is asked, the source gives the same snapshot. -/
def Source.Lasting (pattern : Pattern) (source : Source) : Prop :=
  ∀ n, ((source.asked pattern n).snapshot pattern).2 = (source.snapshot pattern).2

theorem Source.lasting_fixed (pattern : Pattern) (snapshot : Snapshot) :
    (fixed snapshot).Lasting pattern := by
  intro n
  induction n with
  | zero => rfl
  | succ n ih => exact ih

theorem Source.Lasting.next {pattern : Pattern} {source : Source} (h : source.Lasting pattern) :
    (source.snapshot pattern).1.Lasting pattern := by
  intro n
  have hn := h (n + 1)
  have h1 := h 1
  exact hn.trans h1.symm

namespace Service

/-- The steps that requests take one at a time. A pass takes the given number of nanoseconds. -/
inductive Step where
  | emptyStore
  | pass (nanos : Nat)
  | readFlag
  deriving DecidableEq, Repr

/-- A request among others: what it asks for and how long its pass takes. -/
structure Probe where
  endpoint : Endpoint
  nanos : Nat
  deriving DecidableEq, Repr

def Probe.steps (p : Probe) : List Step :=
  match p.endpoint with
  | .metrics => [.pass p.nanos]
  | .ready => [.emptyStore, .pass p.nanos, .readFlag]
  | .health => []

def perform (s : Service) : Step → Service
  | .emptyStore => s.resetStore
  | .pass nanos => (s.scrape nanos).1
  | .readFlag => s

def performAll (s : Service) (steps : List Step) : Service := steps.foldl perform s

/-- Steps of several requests, in the order in which they are taken: each request takes its own
steps in their order. -/
def Interleaves {ι : Type} [DecidableEq ι] (probes : ι → Probe) (events : List (ι × Step)) :
    Prop :=
  ∀ i, (events.filter (·.1 = i)).map (·.2) = (probes i).steps

/-- The last step that is more than a look at the store. -/
def lastChange? (steps : List Step) : Option Step := (steps.filter (· ≠ .readFlag)).getLast?

/-- Whether the store has been emptied and not been filled again by a pass. -/
def isEmptied (steps : List Step) : Bool := lastChange? steps = some .emptyStore

/-- A request that is served alone takes its steps one after the other. -/
theorem enter_eq_performAll (s : Service) (p : Probe) (query : Option String) :
    (s.enter p.endpoint query p.nanos).1 = s.performAll p.steps := by
  obtain ⟨endpoint, nanos⟩ := p
  cases endpoint with
  | metrics =>
    show (s.metrics query nanos).1 = (s.scrape nanos).1
    unfold metrics
    obtain ⟨after, result⟩ := s.scrape nanos
    cases result <;> rfl
  | ready =>
    show (s.ready nanos).1 = (s.resetStore.scrape nanos).1
    unfold ready
    obtain ⟨after, result⟩ := s.resetStore.scrape nanos
    cases result <;> rfl
  | health => rfl

/-! ### A service between two steps -/

/-- However many passes are made, they read the same. -/
def Unchanging (s : Service) : Prop :=
  ∀ pattern, s.engine.pattern = some pattern → s.source.Lasting pattern

/-- The service still makes the passes that it made at first. -/
structure Steady (start s : Service) : Prop where
  alike : Engine.Alike s.engine start.engine
  observed : s.observed = start.observed
  unchanging : s.Unchanging

theorem Unchanging.steady {s : Service} (h : s.Unchanging) : Steady s s := ⟨.refl _, rfl, h⟩

theorem source_scrape (s : Service) (nanos : Nat) {pattern : Pattern}
    (h : s.engine.pattern = some pattern) :
    (s.scrape nanos).1.source = (s.source.snapshot pattern).1 := by
  unfold scrape Engine.scrape
  rw [h]

theorem alike_engine_scrape (s : Service) (nanos : Nat) :
    Engine.Alike (s.scrape nanos).1.engine s.engine := by
  rw [engine_scrape]
  exact Engine.alike_collect s.engine s.observed nanos

theorem observed_scrape {s : Service} (h : s.Unchanging) (nanos : Nat) :
    (s.scrape nanos).1.observed = s.observed := by
  have hp := (alike_engine_scrape s nanos).pattern
  unfold observed
  rw [hp]
  cases hs : s.engine.pattern with
  | none => rfl
  | some pattern =>
    have hl := h pattern hs 1
    dsimp only
    rw [source_scrape s nanos hs]
    exact congrArg Snapshot.registry hl

theorem unchanging_scrape {s : Service} (h : s.Unchanging) (nanos : Nat) :
    (s.scrape nanos).1.Unchanging := by
  intro pattern hp
  have hs : s.engine.pattern = some pattern := (alike_engine_scrape s nanos).pattern ▸ hp
  rw [source_scrape s nanos hs]
  exact (h pattern hs).next

theorem Steady.perform {start s : Service} (h : Steady start s) (step : Step) :
    Steady start (s.perform step) := by
  cases step with
  | emptyStore => exact ⟨⟨h.alike.settings, h.alike.pattern⟩, h.observed, h.unchanging⟩
  | pass nanos =>
    exact ⟨(alike_engine_scrape s nanos).trans h.alike,
      (observed_scrape h.unchanging nanos).trans h.observed, unchanging_scrape h.unchanging nanos⟩
  | readFlag => exact h

theorem Steady.performAll {start s : Service} (h : Steady start s) (steps : List Step) :
    Steady start (s.performAll steps) := by
  induction steps generalizing s with
  | nil => exact h
  | cons step steps ih => exact ih (h.perform step)

/-! ### The flag between two steps -/

def flag? (s : Service) : Option AttributeValue := s.engine.store.get? Store.readyKey

/-- A pass of a steady service puts the flag into the store that the first pass has read. -/
theorem Steady.flag?_scrape {start s : Service} (h : Steady start s) {nanos : Nat}
    {families : List Family}
    (hok : (start.engine.collect start.observed nanos).2 = .ok families) (nanos' : Nat) :
    (s.scrape nanos').1.flag? =
      (Pass.readyFlag? start.observed start.engine.pattern).or s.flag? := by
  have hc : (s.engine.collect s.observed nanos').2 = .ok families := by
    rw [h.observed, Engine.result_eq_of_alike h.alike start.observed nanos' nanos, hok]
  have hf := Engine.get?_readyKey_collect hc
  rw [h.observed, h.alike.pattern] at hf
  rw [flag?, engine_scrape, h.observed, hf]
  rfl

/-- From a store without the flag on, the flag is there exactly if the last change was a pass. -/
theorem Steady.flag?_performAll {start s : Service} (h : Steady start s) {nanos : Nat}
    {families : List Family} (hok : (start.engine.collect start.observed nanos).2 = .ok families)
    (hn : s.flag? = none) (steps : List Step) :
    (s.performAll steps).flag? =
      match lastChange? steps with
      | some (.pass _) => Pass.readyFlag? start.observed start.engine.pattern
      | _ => none := by
  -- from the right: a pass and an emptying each settle the flag, a look at it keeps what was settled
  induction steps using List.reverseRecOn with
  | nil => exact hn
  | append_singleton steps step ih =>
    have hp : s.performAll (steps ++ [step]) = (s.performAll steps).perform step := by
      simp [Service.performAll]
    rw [hp]
    cases step with
    | emptyStore => simp [lastChange?, List.filter_append]; rfl
    | pass nanos' =>
      have hf := (h.performAll steps).flag?_scrape hok nanos'
      rw [ih] at hf
      have hl : lastChange? (steps ++ [.pass nanos']) = some (.pass nanos') := by
        simp [lastChange?, List.filter_append]
      rw [hl]
      refine hf.trans ?_
      split
      · exact Option.or_self
      · exact Option.or_none
    | readFlag =>
      have hl : lastChange? (steps ++ [.readFlag]) = lastChange? steps := by
        simp [lastChange?, List.filter_append]
      rw [hl]
      exact ih

/-! ### Requests for readiness -/

theorem performAll_append (s : Service) (steps steps' : List Step) :
    s.performAll (steps ++ steps') = (s.performAll steps).performAll steps' :=
  List.foldl_append

theorem lastChange?_append_emptyStore (front back : List Step) :
    lastChange? (front ++ .emptyStore :: back) = some ((lastChange? back).getD .emptyStore) := by
  have hf : (front ++ Step.emptyStore :: back).filter (· ≠ .readFlag) =
      front.filter (· ≠ .readFlag) ++ .emptyStore :: back.filter (· ≠ .readFlag) := by
    simp [List.filter_append]
  rw [lastChange?, hf, List.getLast?_append_cons, List.getLast?_cons, lastChange?]

theorem lastChange?_ne_readFlag (steps : List Step) : lastChange? steps ≠ some .readFlag := by
  intro h
  have hm := List.mem_of_getLast? h
  simpa using (List.mem_filter.mp hm).2

theorem Probe.emptyStore_mem {p : Probe} {front back : List Step}
    (h : front ++ .readFlag :: back = p.steps) : Step.emptyStore ∈ front := by
  obtain ⟨endpoint, nanos⟩ := p
  cases endpoint with
  | metrics => cases front <;> simp [steps] at h
  | ready =>
    cases front with
    | nil => simp [steps] at h
    | cons first rest =>
      obtain ⟨rfl, -⟩ := List.cons.inj h
      simp
  | health => simp [steps] at h

theorem Interleaves.emptyStore_mem {ι : Type} [DecidableEq ι] {probes : ι → Probe}
    {before after : List (ι × Step)} {i : ι}
    (h : Interleaves probes (before ++ (i, .readFlag) :: after)) :
    Step.emptyStore ∈ before.map (·.2) := by
  have hi := h i
  rw [List.filter_append, List.map_append, List.filter_cons_of_pos (by simp), List.map_cons] at hi
  have hm := Probe.emptyStore_mem hi
  obtain ⟨event, he, hs⟩ := List.mem_map.mp hm
  exact List.mem_map.mpr ⟨event, (List.mem_filter.mp he).1, hs⟩

/-- Whatever other requests are served at the same time, a request for readiness is answered as if
it were served alone if no other one has emptied the store since the last pass before it reads the
flag; and if one has, it is answered as if the node had no flag. -/
theorem readiness_of_interleaves {ι : Type} [DecidableEq ι] {s : Service} {probes : ι → Probe}
    {before after : List (ι × Step)} {i : ι} {nanos : Nat} {families : List Family}
    (hu : s.Unchanging) (hok : (s.engine.collect s.observed nanos).2 = .ok families)
    (hi : Interleaves probes (before ++ (i, .readFlag) :: after)) :
    (s.performAll (before.map (·.2))).readiness =
      if isEmptied (before.map (·.2)) then 501 else (s.ready (probes i).nanos).2.status := by
  obtain ⟨front, back, hs⟩ := List.append_of_mem hi.emptyStore_mem
  have hsplit : s.performAll (before.map (·.2)) =
      ((s.performAll front).perform .emptyStore).performAll back := by
    rw [hs, performAll_append]
    rfl
  have hst := (hu.steady.performAll front).perform .emptyStore
  have hflag := hst.flag?_performAll hok rfl back
  have halone : (s.ready (probes i).nanos).2.status =
      readyStatus (Pass.readyFlag? s.observed s.engine.pattern) := by
    have ho : (s.resetStore.scrape (probes i).nanos).2 = .ok families := by
      rw [result_scrape_resetStore, ← hok]
      exact Engine.result_eq_of_alike (.refl _) s.observed _ nanos
    rw [ready_of_ok ho, Response.bare, readiness_scrape_resetStore ho]
  have hread : (s.performAll (before.map (·.2))).readiness =
      readyStatus (((s.performAll front).perform .emptyStore).performAll back).flag? := by
    rw [hsplit]
    rfl
  rw [hread, hflag, halone, isEmptied, hs, lastChange?_append_emptyStore]
  cases hl : lastChange? back with
  | none => rfl
  | some step =>
    cases step with
    | emptyStore => rfl
    | pass nanos' => rfl
    | readFlag => exact absurd hl (lastChange?_ne_readFlag back)

def readyNode : Snapshot where
  objects :=
    [(SnapshotObject.named ⟨"io.crate.monitoring", [("type", "NodeStatus")]⟩).withAttribute
      ⟨"Ready", "boolean", "", true⟩ (.boolean true)]
  unavailable := none

def watchingReadyNode : Service := create .default (.fixed readyNode) .zero

def twoProbes (_ : Fin 2) : Probe := ⟨.ready, 0⟩

/-- The second one empties the store when the first one has made its pass. -/
def overlap : List (Fin 2 × Step) :=
  [(0, .emptyStore), (0, .pass 0), (1, .emptyStore), (0, .readFlag), (1, .pass 0), (1, .readFlag)]

def readyNodeFamilies : List Family :=
  [.single "crate_ready" .gauge "Whether the node is ready to process requests (1) or not (0)." .one]

theorem interleaves_overlap : Interleaves twoProbes overlap := by
  unfold Interleaves
  decide

theorem unchanging_watchingReadyNode : watchingReadyNode.Unchanging :=
  fun pattern _ => Source.lasting_fixed pattern readyNode

theorem collect_watchingReadyNode :
    (watchingReadyNode.engine.collect watchingReadyNode.observed 0).2 = .ok readyNodeFamilies := by
  decide +kernel

/-- No store has been emptied between the pass of the second request and its look at the flag. -/
theorem readiness_of_interleaves_overlap :
    watchingReadyNode.Unchanging ∧
      (watchingReadyNode.engine.collect watchingReadyNode.observed 0).2 = .ok readyNodeFamilies ∧
      Interleaves twoProbes (overlap.take 5 ++ [(1, .readFlag)]) ∧
      (watchingReadyNode.performAll ((overlap.take 5).map (·.2))).readiness =
        if isEmptied ((overlap.take 5).map (·.2)) then 501
        else (watchingReadyNode.ready (twoProbes 1).nanos).2.status :=
  ⟨unchanging_watchingReadyNode, collect_watchingReadyNode, interleaves_overlap,
    @readiness_of_interleaves (Fin 2) _ watchingReadyNode twoProbes (overlap.take 5) [] 1 0
      readyNodeFamilies unchanging_watchingReadyNode collect_watchingReadyNode interleaves_overlap⟩

/-- The first request is told that the node has no flag; served alone, it would be told that the node
is ready. -/
theorem readiness_ne_alone_overlap :
    watchingReadyNode.Unchanging ∧
      (watchingReadyNode.engine.collect watchingReadyNode.observed 0).2 = .ok readyNodeFamilies ∧
      Interleaves twoProbes (overlap.take 3 ++ (0, .readFlag) :: overlap.drop 4) ∧
      (watchingReadyNode.performAll ((overlap.take 3).map (·.2))).readiness = 501 ∧
      (watchingReadyNode.ready (twoProbes 0).nanos).2.status = 200 :=
  ⟨unchanging_watchingReadyNode, collect_watchingReadyNode, interleaves_overlap,
    by decide +kernel, by decide +kernel⟩

end Service
end BeanMetrics
