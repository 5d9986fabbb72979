import HttpRouter.Proofs.Decision

/-!
The composition of chains. What stands in a chain is read off the registrations: all global
middleware, the scoped middleware that applies to the path, the handlers of the route, each group
in the order in which it was registered. A chain in which nothing fails is answered with the last
response that one of its entries gave.
-/

namespace HttpRouter
variable {ν : Type}

namespace Middleware

theorem within_global (path : String) (handler : Handler ν) :
    (within path handler).isGlobal = true ↔ Path.clean path = Path.root := by
  by_cases atRoot : Path.clean path = Path.root <;>
    simp [within, everywhere, isGlobal, atRoot]

end Middleware

namespace Router

theorem chain_composed (router : Router ν) (registrations : List (Registration ν))
    (holds : router.Holds registrations) (pieces : List String) (route : Route ν) :
    let middleware := registrations.filterMap Registration.middleware?
    router.chain pieces route =
      (middleware.filter Middleware.isGlobal).map Middleware.handler ++
        (middleware.filter fun scope => !scope.isGlobal && scope.appliesTo pieces).map
          Middleware.handler ++ route.handlers := by
  have applying : router.applicable pieces =
      (registrations.filterMap Registration.middleware?).filter fun scope =>
        !scope.isGlobal && scope.appliesTo pieces := by
    rw [applicable, holds.scopedOnes, List.filter_filter]
    apply List.filter_congr
    intro scope _
    exact Bool.and_comm _ _
  simp only [chain, applying, holds.globalOnes, List.map_append]

theorem chain_some (router : Router ν) (registrations : List (Registration ν))
    (holds : router.Holds registrations) (method : Method) (path : String) (route : Route ν)
    (claims : route ∈ claimants registrations method path) (pieces : List String) :
    router.chain pieces route ≠ [] := by
  obtain ⟨entry, listed, same⟩ := List.mem_map.mp claims
  have handled := holds.handled entry (List.mem_filter.mp listed).1
  rw [same] at handled
  simp [chain, handled]

theorem matchedRun_unfailed (router : Router ν) (request : Request) (found : Match ν)
    (someEntry : router.chain (Path.splitDecoded request.uri.path) found.route ≠ [])
    (unfailed : ∀ call ∈ (router.matchedRun request found).calls,
      call.reply.outcome.failure? = none) :
    (router.matchedRun request found).rescue = none ∧
      ∃ last response, (router.matchedRun request found).calls.getLast? = some last ∧
        (last.reply.outcome = .complete response ∨
          ∃ onward, last.reply.outcome = .proceed onward response) ∧
        (router.matchedRun request found).answer = .response response := by
  have called : (router.matchedRun request found).calls ≠ [] := by
    rw [matchedRun, conclude_calls]
    exact Handler.run_calls_some _ _ _ someEntry
  obtain ⟨last, isLast⟩ := Option.ne_none_iff_exists'.mp
    (fun none => called (List.getLast?_eq_none_iff.mp none))
  have safe := unfailed last (List.mem_of_getLast? isLast)
  have signal := Handler.run_next
    (router.chain (Path.splitDecoded request.uri.path) found.route)
    (ready request found.params) .blank
  simp only [matchedRun, conclude_calls] at isLast
  rw [isLast] at signal
  simp only [matchedRun, conclude_calls, isLast]
  -- A last call that does not fail hands on past the end of the chain, or completes.
  cases given : last.reply.outcome with
  | proceed onward response =>
      simp only [Call.next, given, Outcome.next] at signal
      simp [conclude, signal, given]
  | complete response =>
      simp only [Call.next, given, Outcome.next] at signal
      simp [conclude, signal, given]
  | abort fault => simp [given, Outcome.failure?] at safe
  | fail fault => simp [given, Outcome.failure?] at safe
  | panic moment payload => cases payload <;> simp [given, Outcome.failure?] at safe

/-- A request with a single claimant runs the chain that its registrations compose, from an empty
response, and without a failure is answered with the last response given. -/
theorem dispatch_composes (registrations : List (Registration ν)) (router : Router ν)
    (built : ofRegistrations registrations = .ok router) (request : Request)
    (single : (claimants registrations request.method request.uri.path).length = 1) :
    let pieces := Path.splitDecoded request.uri.path
    let middleware := registrations.filterMap Registration.middleware?
    let run := router.dispatch request
    ∃ found, router.find request.method request.uri.path = .ok (some found) ∧
      Threaded
        ((middleware.filter Middleware.isGlobal).map Middleware.handler ++
          (middleware.filter fun scope => !scope.isGlobal && scope.appliesTo pieces).map
            Middleware.handler ++ found.route.handlers)
        (ready request found.params) ⟨⟨200⟩, Headers.empty, ""⟩ run.calls ∧
      ((∀ call ∈ run.calls, call.reply.outcome.failure? = none) →
        run.rescue = none ∧
          ∃ last response, run.calls.getLast? = some last ∧
            (last.reply.outcome = .complete response ∨
              ∃ onward, last.reply.outcome = .proceed onward response) ∧
            run.answer = .response response) ∧
      ∀ path handler, .middleware (.within path handler) ∈ registrations →
        Path.clean path = Path.root →
          Middleware.within path handler ∈ middleware.filter Middleware.isGlobal := by
  have holds := built_holds registrations router built
  obtain ⟨route, only, finds⟩ :=
    find_single router registrations request.method request.uri.path holds single
  have dispatched := dispatch_find router request
  simp only [finds] at dispatched
  have claims : route ∈ claimants registrations request.method request.uri.path := by
    simp [only]
  dsimp only
  rw [dispatched]
  refine ⟨_, finds, ?_, ?_, ?_⟩
  · have composed := chain_composed router registrations holds
      (Path.splitDecoded request.uri.path) route
    have threaded := matchedRun_threaded router request
      ⟨route, route.pattern.extract (Path.splitDecoded request.uri.path)⟩
    rw [composed] at threaded
    exact threaded
  · exact matchedRun_unfailed router request _
      (chain_some router registrations holds _ _ route claims _)
  · intro path handler registered atRoot
    apply List.mem_filter.mpr
    exact ⟨List.mem_filterMap.mpr ⟨_, registered, rfl⟩,
      (Middleware.within_global path handler).mpr atRoot⟩

-- The scope is registered first and still comes after the global middleware.
theorem composed_two_groups :
    let guard : Handler Unit := ⟨fun request response => ⟨[], .proceed request response⟩⟩
    let finish : Handler Unit := ⟨fun _ response => ⟨[], .complete (response.withBody "done")⟩⟩
    let registrations : List (Registration Unit) :=
      [.middleware (.within "/a" guard), .middleware (.within "//" guard),
        .add (.only .get) "/a/:x" [guard, finish, guard]]
    let request : Request := { (default : Request) with uri := ⟨none, none, "/a/b", none⟩ }
    ∃ router, ofRegistrations registrations = .ok router ∧
      (claimants registrations request.method request.uri.path).length = 1 ∧
      (router.dispatch request).calls.length = 4 ∧
      ∃ last response, (router.dispatch request).calls.getLast? = some last ∧
        (last.reply.outcome = .complete response ∨
          ∃ onward, last.reply.outcome = .proceed onward response) ∧
        (router.dispatch request).answer = .response response := by
  intro guard finish registrations request
  have single : (claimants registrations request.method request.uri.path).length = 1 := by decide
  obtain ⟨_, _, _, answered, _⟩ := dispatch_composes registrations _ rfl request single
  obtain ⟨_, last, response, isLast, given, answer⟩ := answered (by decide)
  exact ⟨_, rfl, single, by decide, last, response, isLast, given, answer⟩

end Router
end HttpRouter
