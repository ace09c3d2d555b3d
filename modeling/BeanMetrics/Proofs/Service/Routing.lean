import BeanMetrics.Proofs.Config.Valid
import BeanMetrics.Proofs.Registry.Distinct
import BeanMetrics.Service.Router
import Mathlib.Data.List.TakeWhile

/-!
Which endpoint a request finds. What counts is the part of its target in front of the query, so of the
paths that are valid in a configuration only those are found under their own text that have no query in
them. The two fixed paths are always found, and no request changes any of this. Of the router it is only
known what it does with routes that are plain texts; whether it takes others is left to it.
-/

namespace BeanMetrics

namespace Text

theorem takeWhile_of_splitFirst {sep : Char} {s before after : List Char}
    (h : splitFirst sep s = some (before, after)) : s.takeWhile (· ≠ sep) = before := by
  obtain ⟨rfl, hsep⟩ := splitFirst_eq_some_iff.mp h
  have hall : ∀ c ∈ before, decide (c ≠ sep) = true := by
    intro c hc
    exact decide_eq_true fun he => hsep (he ▸ hc)
  rw [List.takeWhile_append_of_pos hall]
  simp

end Text

namespace Target

/-- Whether a text is all path, without a query and a fragment. -/
def isPath (text : String) : Bool := text.toList.all fun c => c ≠ '?' && c ≠ '#'

theorem afterAuthority_of_absolute {s : List Char} (h : Text.startsWith ['/'] s = true) :
    afterAuthority s = s := by
  obtain ⟨rest, rfl⟩ := List.isPrefixOf_iff_prefix.mp h
  rfl

/-- The path of an absolute target ends at the first question mark or hash sign. -/
theorem path_ofText {text : String} (h : Text.startsWith ['/'] text.toList = true) :
    (ofText text).path.toList = text.toList.takeWhile fun c => c ≠ '?' && c ≠ '#' := by
  have hs : Text.startsWith ['/'] (text.toList.takeWhile (· ≠ '#')) = true := by
    obtain ⟨rest, hr⟩ := List.isPrefixOf_iff_prefix.mp h
    simp [← hr, Text.startsWith]
  have hboth : text.toList.takeWhile (fun c => c ≠ '?' && c ≠ '#') =
      (text.toList.takeWhile (· ≠ '#')).takeWhile (· ≠ '?') := by
    rw [List.takeWhile_takeWhile]
    simp
  unfold ofText
  rw [afterAuthority_of_absolute hs, hboth]
  dsimp only
  cases hq : Text.splitFirst '?' (text.toList.takeWhile (· ≠ '#')) with
  | none =>
    have hall : ∀ c ∈ text.toList.takeWhile (· ≠ '#'), decide (c ≠ '?') = true := by
      intro c hc
      exact decide_eq_true fun he => Text.splitFirst_eq_none_iff.mp hq (he ▸ hc)
    rw [List.takeWhile_eq_self_iff.mpr hall]
    exact String.toList_ofList
  | some parts =>
    rw [Text.takeWhile_of_splitFirst hq]
    exact String.toList_ofList

/-- A path is the path of the target that it is. -/
theorem ofText_of_isPath {text : String} (h : Text.startsWith ['/'] text.toList = true)
    (hp : isPath text = true) : ofText text = ⟨text, none⟩ := by
  simp only [isPath, List.all_eq_true, Bool.and_eq_true, decide_eq_true_eq] at hp
  have hfragment : text.toList.takeWhile (· ≠ '#') = text.toList :=
    List.takeWhile_eq_self_iff.mpr fun c hc => by simpa using (hp c hc).2
  have hquery : Text.splitFirst '?' text.toList = none :=
    Text.splitFirst_eq_none_iff.mpr fun hm => (hp '?' hm).1 rfl
  rw [ofText, hfragment, afterAuthority_of_absolute h, hquery]
  dsimp only
  rw [String.ofList_toList]

theorem path_ofText_eq_iff {text : String} (h : Text.startsWith ['/'] text.toList = true) :
    (ofText text).path = text ↔ isPath text = true := by
  constructor
  · intro he
    have ht := path_ofText h
    rw [he] at ht
    exact List.all_eq_true.mpr (List.takeWhile_eq_self_iff.mp ht.symm)
  · intro hp
    rw [ofText_of_isPath h hp]

end Target

namespace Router

/-- What is relied on of a router: different plain texts are taken, each of them is found under itself, and
with no other routes beside them nothing else is found. -/
structure KeepsLiterals (router : Router) : Prop where
  takes {routes : List (String × Endpoint)}
    (habsolute : ∀ route ∈ routes, Text.startsWith ['/'] route.1.toList = true)
    (hliteral : ∀ route ∈ routes, isLiteral route.1 = true) (hd : (routes.map (·.1)).Nodup) :
    ∃ find?, router routes = some find?
  finds {routes : List (String × Endpoint)} {find? : String → Option Endpoint}
    (h : router routes = some find?) {path : String} {endpoint : Endpoint}
    (hm : (path, endpoint) ∈ routes) (hliteral : isLiteral path = true) :
    find? path = some endpoint
  only {routes : List (String × Endpoint)} {find? : String → Option Endpoint}
    (h : router routes = some find?) (hliteral : ∀ route ∈ routes, isLiteral route.1 = true)
    {path : String} (hpath : path ∉ routes.map (·.1)) : find? path = none

theorem keepsLiterals_ofLiterals : KeepsLiterals ofLiterals where
  takes habsolute hliteral hd :=
    ⟨_, if_pos ⟨fun route hm => ⟨habsolute route hm, hliteral route hm⟩, hd⟩⟩
  finds h path endpoint hm _ := by
    unfold ofLiterals at h
    split at h
    · rename_i hr
      obtain rfl := Option.some.inj h
      exact (KeyMap.lookup_eq_some_iff_mem hr.2).mpr hm
    · cases h
  only h _ path hpath := by
    unfold ofLiterals at h
    split at h
    · obtain rfl := Option.some.inj h
      rw [List.lookup_eq_none_iff]
      intro route hm
      have hne : path ≠ route.1 := fun he => hpath (he ▸ List.mem_map_of_mem hm)
      simpa using hne
    · cases h

end Router

def Config.hasLiteralPaths (c : Config) : Bool :=
  Router.isLiteral c.server.metricsPath && Router.isLiteral c.server.readyPath

namespace Server

def get (s : Server) (target : String) (nanos : Nat) : Server × Response :=
  s.answer ⟨"GET", .ofText target⟩ nanos

def found? (s : Server) (target : String) : Option Endpoint := s.find? (Target.ofText target).path

/-! ### Requests leave the routes as they are -/

theorem find?_answer (s : Server) (request : Request) (nanos : Nat) :
    (s.answer request nanos).1.find? = s.find? := by
  unfold answer
  split
  · rfl
  · dsimp only
    split_ifs <;> rfl

theorem find?_foldl_answer (s : Server) (requests : List (Request × Nat)) :
    (requests.foldl (fun s (request, nanos) => (s.answer request nanos).1) s).find? = s.find? := by
  induction requests generalizing s with
  | nil => rfl
  | cons request requests ih => exact (ih _).trans (find?_answer s request.1 request.2)

/-! ### Targets -/

theorem get_of_found? {s : Server} {target : String} {endpoint : Endpoint}
    (h : s.found? target = some endpoint) (nanos : Nat) :
    let result := s.service.enter endpoint (Target.ofText target).query nanos
    s.get target nanos = ({ s with service := result.1 }, result.2) := by
  rw [get, answer, show s.find? (Target.ofText target).path = some endpoint from h]
  rfl

/-- What is under a path is found with the path as the target. -/
theorem get_of_find? {s : Server} {path : String} (hs : Text.startsWith ['/'] path.toList = true)
    (hp : Target.isPath path = true) {endpoint : Endpoint} (h : s.find? path = some endpoint)
    (nanos : Nat) :
    let result := s.service.enter endpoint none nanos
    s.get path nanos = ({ s with service := result.1 }, result.2) := by
  have ht := Target.ofText_of_isPath hs hp
  have hfound : s.found? path = some endpoint := by rw [found?, ht, h]
  rw [get_of_found? hfound, ht]

/-! ### The routes of a configuration -/

variable {c : Config}

theorem isLiteral_of_mem_routes (h : c.hasLiteralPaths = true) :
    ∀ route ∈ c.routes, Router.isLiteral route.1 = true := by
  obtain ⟨hmetrics, hready⟩ := Bool.and_eq_true_iff.mp h
  simp only [Config.routes, List.forall_mem_cons]
  exact ⟨by decide, by decide, hmetrics, hready, List.forall_mem_nil _⟩

theorem absolute_of_mem_routes (hc : c.Valid) :
    ∀ route ∈ c.routes, Text.startsWith ['/'] route.1.toList = true := by
  simp only [Config.routes, List.forall_mem_cons]
  exact ⟨by decide, by decide, (Config.checkPath_eq_ok_iff.mp hc.metricsPath).1,
    (Config.checkPath_eq_ok_iff.mp hc.readyPath).1, List.forall_mem_nil _⟩

theorem nodup_routes (hc : c.Valid) : (c.routes.map (·.1)).Nodup := by
  obtain ⟨-, hmroot, hmhealth⟩ := Config.checkPath_eq_ok_iff.mp hc.metricsPath
  obtain ⟨-, hrroot, hrhealth⟩ := Config.checkPath_eq_ok_iff.mp hc.readyPath
  simp [Config.routes, hmroot.symm, hmhealth.symm, hrroot.symm, hrhealth.symm, hc.paths]

theorem start?_ofLiterals (hc : c.Valid) (hl : c.hasLiteralPaths = true) (source : Source)
    (t : Binary64) :
    start? .ofLiterals c source t =
      some ⟨fun path => c.routes.lookup path, .create c source t⟩ := by
  have hroutes : ∀ route ∈ c.routes,
      Text.startsWith ['/'] route.1.toList = true ∧ Router.isLiteral route.1 = true := fun route hm =>
    ⟨absolute_of_mem_routes hc route hm, isLiteral_of_mem_routes hl route hm⟩
  rw [start?, Router.ofLiterals, if_pos ⟨hroutes, nodup_routes hc⟩]
  rfl

variable {router : Router} (hr : router.KeepsLiterals) {find? : String → Option Endpoint}
  (h : router c.routes = some find?)

include hr h

theorem find?_eq_some_iff (hl : c.hasLiteralPaths = true) {path : String} {endpoint : Endpoint} :
    find? path = some endpoint ↔ (path, endpoint) ∈ c.routes := by
  have hfinds {endpoint : Endpoint} (hm : (path, endpoint) ∈ c.routes) :
      find? path = some endpoint := hr.finds h hm (isLiteral_of_mem_routes hl _ hm)
  constructor
  · intro hf
    by_cases hpath : path ∈ c.routes.map (·.1)
    · obtain ⟨⟨_, endpoint'⟩, hm, rfl⟩ := List.mem_map.mp hpath
      obtain rfl := Option.some.inj ((hfinds hm).symm.trans hf)
      exact hm
    · rw [hr.only h (isLiteral_of_mem_routes hl) hpath] at hf
      cases hf
  · exact hfinds

theorem find?_metricsPath_iff (hc : c.Valid) (hl : c.hasLiteralPaths = true) :
    find? (Target.ofText c.server.metricsPath).path = some .metrics ↔
      Target.isPath c.server.metricsPath = true ∨ (Target.ofText c.server.metricsPath).path = "/" := by
  obtain ⟨hs, hroot, hhealth⟩ := Config.checkPath_eq_ok_iff.mp hc.metricsPath
  rw [find?_eq_some_iff hr h hl, ← Target.path_ofText_eq_iff hs]
  simp [Config.routes, or_comm]


theorem find?_readyPath_iff (hc : c.Valid) (hl : c.hasLiteralPaths = true) :
    find? (Target.ofText c.server.readyPath).path = some .ready ↔
      Target.isPath c.server.readyPath = true := by
  obtain ⟨hs, hroot, hhealth⟩ := Config.checkPath_eq_ok_iff.mp hc.readyPath
  rw [find?_eq_some_iff hr h hl, ← Target.path_ofText_eq_iff hs]
  simp [Config.routes]

omit hr h

/-- The endpoints of a valid configuration. If the router takes its routes, as it does if the configured
paths are plain texts, then after whatever requests the fixed paths are found, and so is a configured path
that is a plain text and a path as a whole. If both are plain texts, one with a query or a fragment in it
is not found, but for metrics that are asked for under the root. -/
theorem get_of_validate (hr : router.KeepsLiterals) (hc : c.validate = .ok ()) (source : Source)
    (t : Binary64) :
    (c.hasLiteralPaths = true → (start? router c source t).isSome = true) ∧
    ∀ started, start? router c source t = some started → ∀ requests : List (Request × Nat),
      let s := requests.foldl (fun s (request, nanos) => (s.answer request nanos).1) started
      let behind (result : Service × Response) : Server × Response :=
        ({ s with service := result.1 }, result.2)
      (∀ nanos, s.get "/" nanos = behind (s.service.metrics none nanos) ∧
        s.get "/health" nanos = (s, Service.health)) ∧
      (Router.isLiteral c.server.metricsPath = true → Target.isPath c.server.metricsPath = true →
        ∀ nanos, s.get c.server.metricsPath nanos = behind (s.service.metrics none nanos)) ∧
      (Router.isLiteral c.server.readyPath = true → Target.isPath c.server.readyPath = true →
        ∀ nanos, s.get c.server.readyPath nanos = behind (s.service.ready nanos)) ∧
      (c.hasLiteralPaths = true →
        (s.found? c.server.metricsPath = some .metrics ↔
          Target.isPath c.server.metricsPath = true ∨
            (Target.ofText c.server.metricsPath).path = "/") ∧
        (s.found? c.server.readyPath = some .ready ↔ Target.isPath c.server.readyPath = true)) := by
  have hv := Config.Valid.of_validate hc
  have hmslash := (Config.checkPath_eq_ok_iff.mp hv.metricsPath).1
  have hrslash := (Config.checkPath_eq_ok_iff.mp hv.readyPath).1
  constructor
  · intro hl
    obtain ⟨find?, h⟩ :=
      hr.takes (absolute_of_mem_routes hv) (isLiteral_of_mem_routes hl) (nodup_routes hv)
    rw [start?, h]
    rfl
  · intro started hstarted requests s behind
    obtain ⟨find?, h, hserver⟩ := Option.map_eq_some_iff.mp hstarted
    have hfind : s.find? = find? := by
      rw [find?_foldl_answer started requests, ← hserver]
    have hfinds {path : String} {endpoint : Endpoint} (hm : (path, endpoint) ∈ c.routes)
        (hl : Router.isLiteral path = true) : s.find? path = some endpoint := by
      rw [hfind]
      exact hr.finds h hm hl
    have hroot : s.find? "/" = some .metrics := hfinds (by simp [Config.routes]) (by decide)
    have hhealth : s.find? "/health" = some .health := hfinds (by simp [Config.routes]) (by decide)
    refine ⟨fun nanos => ⟨?_, ?_⟩, fun hl hp => ?_, fun hl hp => ?_, fun hl => ?_⟩
    · exact get_of_find? (by decide) (by decide) hroot nanos
    · exact get_of_find? (by decide) (by decide) hhealth nanos
    · have hmetrics : s.find? c.server.metricsPath = some .metrics :=
        hfinds (by simp [Config.routes]) hl
      exact get_of_find? hmslash hp hmetrics
    · have hready : s.find? c.server.readyPath = some .ready := hfinds (by simp [Config.routes]) hl
      exact get_of_find? hrslash hp hready
    · rw [found?, found?, hfind]
      exact ⟨find?_metricsPath_iff hr h hv hl, find?_readyPath_iff hr h hv hl⟩

def withPaths (metricsPath readyPath : String) : Config :=
  { Config.default with server := { ServerConfig.default with metricsPath, readyPath } }

theorem get_of_validate_readyz :
    let c := withPaths "/prometheus" "/readyz"
    Router.KeepsLiterals .ofLiterals ∧ c.validate = .ok () ∧ c.hasLiteralPaths = true ∧
      ∃ started, start? .ofLiterals c (.fixed .empty) .zero = some started ∧
        let s := (started.answer ⟨"GET", .ofText "/readyz"⟩ 1).1
        (s.get "/prometheus" 0).2 = (s.service.metrics none 0).2 ∧
          (s.get "/readyz" 0).2 = (s.service.ready 0).2 ∧ s.get "/health" 0 = (s, Service.health) := by
  intro c
  have hc : c.validate = .ok () := by decide +kernel
  have hl : c.hasLiteralPaths = true := by decide
  obtain ⟨hstarts, hgets⟩ := get_of_validate Router.keepsLiterals_ofLiterals hc (.fixed .empty) .zero
  obtain ⟨started, hs⟩ := Option.isSome_iff_exists.mp (hstarts hl)
  obtain ⟨hfixed, hmetrics, hready, -⟩ := hgets started hs [(⟨"GET", .ofText "/readyz"⟩, 1)]
  exact ⟨Router.keepsLiterals_ofLiterals, hc, hl, started, hs,
    congrArg Prod.snd (hmetrics (by decide) (by decide) 0),
    congrArg Prod.snd (hready (by decide) (by decide) 0), (hfixed 0).2⟩

/-- Two valid configurations with a query in a path. Metrics are not found under the first path, and
under the second there are metrics and not the status of the node. -/
theorem get_of_query_in_path :
    let c := withPaths "/metrics?x" "/ready"
    let c' := withPaths "/metrics" "/metrics?x"
    Router.KeepsLiterals .ofLiterals ∧ c.validate = .ok () ∧ c'.validate = .ok () ∧
      ∃ s s', start? .ofLiterals c (.fixed .empty) .zero = some s ∧
        start? .ofLiterals c' (.fixed .empty) .zero = some s' ∧
        (s.get c.server.metricsPath 0).2 = .bare 404 ∧
        (s.service.metrics (some "x") 0).2.status = 200 ∧
        (s'.get c'.server.readyPath 0).2 = (s'.service.metrics (some "x") 0).2 ∧
        (s'.service.metrics (some "x") 0).2.status = 200 ∧ (s'.service.ready 0).2.status = 501 := by
  intro c c'
  let s' : Server := ⟨fun path => c'.routes.lookup path, .create c' (.fixed .empty) .zero⟩
  have hc : c.validate = .ok () := by decide +kernel
  have hc' : c'.validate = .ok () := by decide +kernel
  have hfound : s'.found? c'.server.readyPath = some .metrics := by decide +kernel
  have hquery : (Target.ofText c'.server.readyPath).query = some "x" := by decide +kernel
  have hs := start?_ofLiterals (.of_validate hc) (by decide) (.fixed .empty) .zero
  have hs' := start?_ofLiterals (.of_validate hc') (by decide) (.fixed .empty) .zero
  refine ⟨Router.keepsLiterals_ofLiterals, hc, hc', _, s', hs, hs', by decide +kernel,
    by decide +kernel, ?_, by decide +kernel, by decide +kernel⟩
  rw [get_of_found? hfound, hquery]
  rfl

end Server
end BeanMetrics
