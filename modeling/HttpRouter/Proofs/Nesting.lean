import HttpRouter.Proofs.Attachments
import HttpRouter.Action

/-!
Requests that go through routers inside routers. A handler may hand its request to a further
router, straight or through a service for a peer, with what is attached to it or without. Each
router that was entered since nothing was attached is a layer, and what a handler reads is read off
the layers, the innermost first: the URI that the innermost router was entered with, the peer of
the innermost service, and for each name the value of the innermost layer that captured it.
-/

namespace HttpRouter

/-- A router as a request enters it: straight, or through a service for a peer. -/
structure Entrance (ν : Type) where
  router : Router ν
  service : Option Address

structure Layer where
  service : Option Address
  uri : Uri
  captured : Params

variable {ν : Type}

namespace Entrance

def run (entrance : Entrance ν) (request : Request) : Run ν :=
  match entrance.service with
  | none => entrance.router.dispatch request
  | some peer => entrance.router.serve peer request

def arrival (entrance : Entrance ν) (request : Request) : Request :=
  match entrance.service with
  | none => request
  | some peer => request.fromPeer peer

end Entrance

/-- The requests that a handler may be given, or may hand on, inside a nest of routers. -/
inductive Nested (ν : Type) : List Layer → Request → Prop where
  | outside (request : Request) (bare : request.attached = none) : Nested ν [] request
  | inside {layers : List Layer} {request : Request} (way : Nested ν layers request)
      (entrance : Entrance ν) (found : Match ν)
      (finds : entrance.router.find request.method request.uri.path = .ok (some found))
      (position : Nat) (call : Call ν)
      (called : (entrance.run request).calls[position]? = some call)
      (kept : KeptTo (entrance.run request).calls position) :
      Nested ν (⟨entrance.service, request.uri, found.params⟩ :: layers) call.request
  | handed {layers : List Layer} {given : Request} (way : Nested ν layers given)
      (request : Request) (kept : request.attached = given.attached) : Nested ν layers request
  | cleared {layers : List Layer} {given : Request} (way : Nested ν layers given)
      (request : Request) (bare : request.attached = none) : Nested ν [] request

structure Counted (layers : List Layer) (request : Request) : Prop where
  target : request.target = layers.head?.map fun layer => Target.ofUri layer.uri
  peer : request.peer = layers.findSome? Layer.service
  param : ∀ name, request.param name = layers.findSome? fun layer => layer.captured.get? name

namespace Counted

theorem bare (request : Request) (bare : request.attached = none) : Counted [] request := by
  constructor
  · simp [Request.target, bare]
  · simp [Request.peer, bare]
  · intro name
    simp [Request.param, Request.params, bare]

theorem attached {layers : List Layer} {request : Request} (counted : Counted layers request)
    (other : Request) (same : other.attached = request.attached) : Counted layers other := by
  constructor
  · rw [Request.target, same]
    exact counted.target
  · rw [Request.peer, same]
    exact counted.peer
  · intro name
    rw [Request.param, Request.params, same]
    exact counted.param name

end Counted

namespace Entrance

theorem run_arrival (entrance : Entrance ν) (request : Request) :
    entrance.run request = entrance.router.dispatch (entrance.arrival request) := by
  unfold run arrival
  cases entrance.service <;> rfl

theorem arrival_kept (entrance : Entrance ν) (request : Request) :
    (entrance.arrival request).method = request.method ∧
      (entrance.arrival request).uri = request.uri := by
  unfold arrival
  cases entrance.service <;> exact ⟨rfl, rfl⟩

theorem arrival_peer (entrance : Entrance ν) (request : Request) :
    (entrance.arrival request).peer = entrance.service.or request.peer := by
  unfold arrival
  cases entrance.service with
  | none => rfl
  | some peer => exact request.peer_fromPeer peer

theorem arrival_param (entrance : Entrance ν) (request : Request) (name : String) :
    (entrance.arrival request).param name = request.param name := by
  unfold arrival
  cases entrance.service with
  | none => rfl
  | some peer => exact request.param_fromPeer peer name

theorem ready_counted (entrance : Entrance ν) (captured : Params) {layers : List Layer}
    {request : Request} (counted : Counted layers request) :
    Counted (⟨entrance.service, request.uri, captured⟩ :: layers)
      (Router.ready (entrance.arrival request) captured) := by
  constructor
  · rw [Router.ready_target, (entrance.arrival_kept request).2]
    rfl
  · rw [Router.ready_peer, arrival_peer, counted.peer, List.findSome?_cons]
    cases entrance.service <;> rfl
  · intro name
    rw [Router.ready_param, arrival_param, counted.param name, List.findSome?_cons]
    cases captured.get? name <;> rfl

theorem run_matched (entrance : Entrance ν) (request : Request) (found : Match ν)
    (finds : entrance.router.find request.method request.uri.path = .ok (some found)) :
    entrance.run request = entrance.router.matchedRun (entrance.arrival request) found := by
  obtain ⟨method, uri⟩ := entrance.arrival_kept request
  rw [run_arrival, Router.dispatch_find, method, uri, finds]

theorem first_called (entrance : Entrance ν) (request : Request) (found : Match ν)
    (finds : entrance.router.find request.method request.uri.path = .ok (some found))
    (handled : found.route.handlers ≠ []) :
    ∃ call, (entrance.run request).calls[0]? = some call := by
  have called : (entrance.run request).calls ≠ [] := by
    rw [entrance.run_matched request found finds, Router.matchedRun, Router.conclude_calls]
    apply Handler.run_calls_some
    simp [Router.chain, handled]
  exact ⟨_, List.getElem?_eq_getElem (List.length_pos_iff.mpr called)⟩

theorem call_counted (entrance : Entrance ν) {layers : List Layer} {request : Request}
    (counted : Counted layers request) (found : Match ν)
    (finds : entrance.router.find request.method request.uri.path = .ok (some found))
    (position : Nat) (call : Call ν)
    (called : (entrance.run request).calls[position]? = some call)
    (kept : KeptTo (entrance.run request).calls position) :
    Counted (⟨entrance.service, request.uri, found.params⟩ :: layers) call.request := by
  rw [entrance.run_matched request found finds] at called kept
  have threaded := entrance.router.matchedRun_threaded (entrance.arrival request) found
  exact (entrance.ready_counted found.params counted).attached call.request
    (threaded.kept_attached position call called kept)

end Entrance

-- The induction is on the way of the request. Entering a router adds a layer; what is handed on
-- keeps them all or loses them all.
theorem Nested.counted {layers : List Layer} {request : Request}
    (nested : Nested ν layers request) : Counted layers request := by
  induction nested with
  | outside request bare => exact .bare request bare
  | inside way entrance found finds position call called kept ih =>
      exact entrance.call_counted ih found finds position call called kept
  | handed way request kept ih => exact ih.attached request kept
  | cleared way request bare ih => exact .bare request bare

namespace Nested

/-- What a handler reads inside any nest of routers. -/
theorem nest_reads (layers : List Layer) (request : Request) (nested : Nested ν layers request) :
    (∀ layer outer, layers = layer :: outer →
      request.path = layer.uri.path ∧
      request.query =
        (layer.uri.query.map fun raw => Params.ofList (Form.fields raw)).getD Params.empty ∧
      request.search = (layer.uri.query.map fun raw => "?" ++ raw).getD "") ∧
    request.peer = layers.findSome? Layer.service ∧
    (∀ name, request.param name = layers.findSome? fun layer => layer.captured.get? name) ∧
    ∀ name, request.param name = none ↔ ∀ layer ∈ layers, layer.captured.get? name = none := by
  have counted := nested.counted
  refine ⟨?_, counted.peer, counted.param, ?_⟩
  · rintro layer outer rfl
    have aimed : request.target = some (Target.ofUri layer.uri) := counted.target
    refine ⟨?_, ?_, ?_⟩
    · rw [request.path_aimed _ aimed, Router.target_path]
    · rw [Request.query, aimed, Target.ofUri]
      cases layer.uri.query <;> rfl
    · rw [Request.search, aimed, Target.ofUri]
      cases layer.uri.query <;> rfl
  · intro name
    rw [counted.param name, List.findSome?_eq_none_iff]

-- The outer router captures both names and was entered through a service. The inner one was not,
-- and captures one of the names again.
theorem inner_layer_shadows :
    let see : Handler Unit := ⟨fun request response => ⟨[], .complete (response.withBody
      (request.path ++ request.search ++ " " ++ (request.param "x").getD "-" ++ " " ++
        (request.param "y").getD "-"))⟩⟩
    let inner : Router Unit := ⟨⟨[(.get, [.ofText "/c/:x" [see]])], []⟩, [], [], .fallback⟩
    let enter : Handler Unit := .ofActions
      [.onRequest fun request => { request with uri := ⟨none, none, "/c/d", some "q"⟩ },
        .dispatch inner]
    let outer : Router Unit := ⟨⟨[], [.ofText "/a/:x/:y" [enter]]⟩, [], [], .fallback⟩
    let peer : Address := ⟨.v4 10 0 0 1, 4000⟩
    let request : Request := { (default : Request) with uri := ⟨none, none, "/a/1/2", none⟩ }
    ∃ layers given, Nested Unit layers given ∧ layers.length = 2 ∧
      given.path = "/c/d" ∧ given.search = "?q" ∧ given.peer = some peer ∧
      given.param "x" = some "d" ∧ given.param "y" = some "2" ∧
      (outer.serve peer request).answer = .response ⟨⟨200⟩, Headers.empty, "/c/d?q d 2"⟩ := by
  intro see inner enter outer peer request
  have start : Nested Unit [] request := .outside request rfl
  let found : Match Unit :=
    ⟨.ofText "/a/:x/:y" [enter], (Pattern.ofText "/a/:x/:y").extract (Path.splitDecoded "/a/1/2")⟩
  have finds : outer.find .get "/a/1/2" = .ok (some found) := by rfl
  obtain ⟨call, called⟩ :=
    Entrance.first_called ⟨outer, some peer⟩ request found finds (List.cons_ne_nil _ _)
  have entered := start.inside ⟨outer, some peer⟩ found finds 0 call called (by simp [KeptTo])
  let passed : Request :=
    { call.request with method := .get, uri := ⟨none, none, "/c/d", some "q"⟩ }
  let innerFound : Match Unit :=
    ⟨.ofText "/c/:x" [see], (Pattern.ofText "/c/:x").extract (Path.splitDecoded "/c/d")⟩
  have innerFinds : inner.find .get "/c/d" = .ok (some innerFound) := by rfl
  obtain ⟨innerCall, innerCalled⟩ :=
    Entrance.first_called ⟨inner, none⟩ passed innerFound innerFinds (List.cons_ne_nil _ _)
  have given := (entered.handed passed rfl).inside ⟨inner, none⟩ innerFound innerFinds 0
    innerCall innerCalled (by simp [KeptTo])
  obtain ⟨aimed, sent, captured, _⟩ := nest_reads _ _ given
  obtain ⟨path, _, search⟩ := aimed _ _ rfl
  have own : innerFound.params.get? "x" = some "d" := by decide
  have absent : innerFound.params.get? "y" = none := by decide
  have outermost : found.params.get? "y" = some "2" := by decide
  refine ⟨_, _, given, rfl, path, search, sent, ?_, ?_, by decide⟩
  · simp only [captured, List.findSome?_cons, own]
  · simp only [captured, List.findSome?_cons, absent, outermost]

end Nested
end HttpRouter
