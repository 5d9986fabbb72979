import HttpRouter.Proofs.Decision
import Mathlib.Data.List.Forall2

/-!
Handlers that cannot be told apart. Two handlers are alike when every call of them leaves the same
trace and steers the chain the same way. Registrations that differ in alike handlers alone build
routers that answer every request alike, call the error handler alike and leave the same trace.
Apart from the handlers, two routers whose claimants have the same patterns decide every request
alike, and a chain counts for no more than the signal that it ends with.
-/

namespace HttpRouter
variable {ν : Type}

namespace Outcome

/-- A fault may be returned as an abort in the place of a failure. -/
inductive Softens : Outcome → Outcome → Prop where
  | same (outcome : Outcome) : Softens outcome outcome
  | failure (fault : Fault) : Softens (.fail fault) (.abort fault)

end Outcome

namespace Handler

/-- Calls leave the same trace, and now and then an abort in the place of a failure. -/
def Softens (handler softened : Handler ν) : Prop :=
  ∀ request response,
    (softened.call request response).trace = (handler.call request response).trace ∧
      (handler.call request response).outcome.Softens (softened.call request response).outcome

def Alike (handler other : Handler ν) : Prop :=
  ∀ request response,
    (other.call request response).trace = (handler.call request response).trace ∧
      (other.call request response).outcome.next = (handler.call request response).outcome.next

theorem softened_alike (handler softened : Handler ν) (soft : handler.Softens softened) :
    handler.Alike softened := by
  intro request response
  obtain ⟨traces, outcomes⟩ := soft request response
  refine ⟨traces, ?_⟩
  generalize (handler.call request response).outcome = left at outcomes ⊢
  generalize (softened.call request response).outcome = right at outcomes ⊢
  cases outcomes with
  | same => rfl
  | failure fault => rfl

theorem run_alike (chain others : List (Handler ν)) (each : List.Forall₂ Alike chain others)
    (request : Request) (response : Response) :
    (run others request response).next = (run chain request response).next ∧
      (run others request response).calls.flatMap Call.trace =
        (run chain request response).calls.flatMap Call.trace := by
  induction each generalizing request response with
  | nil => exact ⟨rfl, rfl⟩
  | @cons handler other rest others alike _ ih =>
      obtain ⟨traces, signals⟩ := alike request response
      rcases (handler.call request response).outcome.onward_or_stopped with
        ⟨nextRequest, nextResponse, given⟩ | stopped
      · have otherGiven : (other.call request response).outcome =
            .proceed nextRequest nextResponse := by
          rw [← Outcome.next_proceed, signals, Outcome.next_proceed]
          exact given
        -- Both hand on the same, so the rests of the two chains start from the same.
        obtain ⟨nexts, tails⟩ := ih nextRequest nextResponse
        rw [run_onward handler rest request nextRequest response nextResponse given,
          run_onward other others request nextRequest response nextResponse otherGiven]
        refine ⟨nexts, ?_⟩
        simp only [List.flatMap_cons, tails]
        exact congrArg (· ++ _) traces
      · have otherStopped : ∀ nextRequest nextResponse,
            (other.call request response).outcome ≠ .proceed nextRequest nextResponse := by
          intro nextRequest nextResponse otherGiven
          rw [← Outcome.next_proceed, signals, Outcome.next_proceed] at otherGiven
          exact stopped nextRequest nextResponse otherGiven
        rw [run_stopped handler rest request response stopped,
          run_stopped other others request response otherStopped]
        refine ⟨signals, ?_⟩
        simp only [List.flatMap_cons, List.flatMap_nil, List.append_nil]
        exact traces

end Handler

/-! ### Routes of the same patterns -/

section Related
variable {related : Route ν → Route ν → Prop} {registrations others : List (Registration ν)}
  (patterns : ∀ route other, related route other → other.pattern = route.pattern)
include patterns

theorem related_claimants
    (entries : List.Forall₂ (fun left right => right.1 = left.1 ∧ related left.2 right.2)
      (registrations.filterMap Registration.route?) (others.filterMap Registration.route?))
    (method : Method) (path : String) :
    List.Forall₂ related (claimants registrations method path) (claimants others method path) := by
  have serving := List.rel_filter (p := fun entry : RouteMethod × Route ν =>
      entry.1.serves method && entry.2.pattern.fits (Path.splitDecoded path))
    (q := fun entry : RouteMethod × Route ν =>
      entry.1.serves method && entry.2.pattern.fits (Path.splitDecoded path))
    (fun left right same => by simp only [same.1, patterns _ _ same.2]) entries
  exact List.rel_map (fun _ _ same => same.2) serving

theorem related_find {router otherRouter : Router ν} (holds : router.Holds registrations)
    (otherHolds : otherRouter.Holds others) (method : Method) (path : String)
    (claiming : List.Forall₂ related (claimants registrations method path)
      (claimants others method path)) :
    (otherRouter.find method path = router.find method path ∧
      ∀ found, router.find method path ≠ .ok (some found)) ∨
    ∃ found other, router.find method path = .ok (some found) ∧
      otherRouter.find method path = .ok (some other) ∧ other.params = found.params ∧
      related found.route other.route := by
  rw [Router.find_verdict router registrations method path holds,
    Router.find_verdict otherRouter others method path otherHolds]
  generalize claimants registrations method path = routes at claiming ⊢
  generalize claimants others method path = otherRoutes at claiming ⊢
  cases claiming with
  | nil => exact Or.inl ⟨rfl, by rintro _ ⟨⟩⟩
  | cons first rest =>
      cases rest with
      | nil => exact Or.inr ⟨_, _, rfl, rfl, by rw [patterns _ _ first], first⟩
      | cons second rest =>
          refine Or.inl ⟨?_, by rintro _ ⟨⟩⟩
          simp only [Router.verdict, List.length_cons, rest.length_eq]

theorem related_dispatch {router otherRouter : Router ν} (holds : router.Holds registrations)
    (otherHolds : otherRouter.Holds others) (request : Request)
    (claiming : List.Forall₂ related (claimants registrations request.method request.uri.path)
      (claimants others request.method request.uri.path)) :
    (otherRouter.dispatch request = router.dispatch request ∧
      (router.dispatch request).calls = []) ∨
    ∃ found other, router.dispatch request = router.matchedRun request found ∧
      otherRouter.dispatch request = otherRouter.matchedRun request other ∧
      other.params = found.params ∧ related found.route other.route := by
  rw [Router.dispatch_find, Router.dispatch_find]
  rcases related_find patterns holds otherHolds _ _ claiming with
    ⟨same, unfound⟩ | ⟨found, other, finds, otherFinds, captured, routes⟩
  · rw [same]
    cases decided : router.find request.method request.uri.path with
    | error fault => exact Or.inl ⟨rfl, rfl⟩
    | ok decision =>
        cases decision with
        | none => exact Or.inl ⟨rfl, rfl⟩
        | some found => exact absurd decided (unfound found)
  · rw [finds, otherFinds]
    exact Or.inr ⟨found, other, rfl, rfl, captured, routes⟩

end Related

namespace Router

theorem matchedRun_signal (router other : Router ν) (recovery : other.recovery = router.recovery)
    (request : Request) (found otherFound : Match ν) (captured : otherFound.params = found.params)
    (pattern : otherFound.route.pattern = found.route.pattern)
    (signal : (Handler.run (other.chain (Path.splitDecoded request.uri.path) otherFound.route)
        (ready request found.params) .blank).next =
      (Handler.run (router.chain (Path.splitDecoded request.uri.path) found.route)
        (ready request found.params) .blank).next) :
    let run := router.matchedRun request found
    let otherRun := other.matchedRun request otherFound
    otherRun.decision = run.decision ∧ otherRun.answer = run.answer ∧
      otherRun.rescue = run.rescue := by
  simp only [matchedRun, conclude, snapshot, captured, pattern, recovery, signal]
  split <;> exact ⟨rfl, rfl, rfl⟩

end Router

/-! ### Registrations that differ in their handlers -/

/-- Two registrations that differ in their handlers alone, related one by one. -/
inductive Registration.Pointwise (relate : Handler ν → Handler ν → Prop) :
    Registration ν → Registration ν → Prop where
  | add (method : RouteMethod) (pattern : String) {handlers others : List (Handler ν)}
      (each : List.Forall₂ relate handlers others) :
      Pointwise relate (.add method pattern handlers) (.add method pattern others)
  | named (name pattern : String) {handler other : Handler ν} (each : relate handler other) :
      Pointwise relate (.named name pattern handler) (.named name pattern other)
  | middleware (scope : Option Pattern) {handler other : Handler ν} (each : relate handler other) :
      Pointwise relate (.middleware ⟨scope, handler⟩) (.middleware ⟨scope, other⟩)
  | recover (recovery : Recovery ν) : Pointwise relate (.recover recovery) (.recover recovery)

theorem Registration.Pointwise.imp {relate weaker : Handler ν → Handler ν → Prop}
    {registration other : Registration ν} (each : Registration.Pointwise relate registration other)
    (implies : ∀ handler other, relate handler other → weaker handler other) :
    Registration.Pointwise weaker registration other := by
  cases each with
  | add method pattern each => exact .add method pattern (each.imp implies)
  | named name pattern each => exact .named name pattern (implies _ _ each)
  | middleware scope each => exact .middleware scope (implies _ _ each)
  | recover recovery => exact .recover recovery

structure Route.Pointwise (relate : Handler ν → Handler ν → Prop) (route other : Route ν) :
    Prop where
  pattern : other.pattern = route.pattern
  handlers : List.Forall₂ relate route.handlers other.handlers

structure Middleware.Pointwise (relate : Handler ν → Handler ν → Prop)
    (middleware other : Middleware ν) : Prop where
  scope : other.scope = middleware.scope
  handler : relate middleware.handler other.handler

section Pointwise
variable {relate : Handler ν → Handler ν → Prop} {registrations others : List (Registration ν)}

namespace Registration

theorem pointwise_refusal {registration other : Registration ν}
    (each : Pointwise relate registration other) : other.refusal = registration.refusal := by
  cases each with
  | add method pattern each =>
      cases each <;> rfl
  | named name pattern each => rfl
  | middleware scope each => rfl
  | recover recovery => rfl

theorem pointwise_route {registration other : Registration ν}
    (each : Pointwise relate registration other) :
    Option.Rel (fun left right => right.1 = left.1 ∧ Route.Pointwise relate left.2 right.2)
      registration.route? other.route? := by
  cases each with
  | add method pattern each => exact .some ⟨rfl, rfl, each⟩
  | named name pattern each =>
      simp only [route?]
      cases RouteMethod.parse? name with
      | none => exact .none
      | some method => exact .some ⟨rfl, rfl, .cons each .nil⟩
  | middleware scope each => exact .none
  | recover recovery => exact .none

theorem pointwise_middleware {registration other : Registration ν}
    (each : Pointwise relate registration other) :
    Option.Rel (Middleware.Pointwise relate) registration.middleware? other.middleware? := by
  cases each with
  | add method pattern each => exact .none
  | named name pattern each => exact .none
  | middleware scope each => exact .some ⟨rfl, each⟩
  | recover recovery => exact .none

theorem pointwise_recovery {registration other : Registration ν}
    (each : Pointwise relate registration other) : other.recovery? = registration.recovery? := by
  cases each <;> rfl

end Registration

theorem pointwise_first_refusal
    (each : List.Forall₂ (Registration.Pointwise relate) registrations others) :
    others.findSome? Registration.refusal = registrations.findSome? Registration.refusal := by
  induction each with
  | nil => rfl
  | cons head _ ih => simp only [List.findSome?_cons, Registration.pointwise_refusal head, ih]

theorem pointwise_recoveries
    (each : List.Forall₂ (Registration.Pointwise relate) registrations others) :
    others.filterMap Registration.recovery? = registrations.filterMap Registration.recovery? := by
  induction each with
  | nil => rfl
  | cons head _ ih => simp only [List.filterMap_cons, Registration.pointwise_recovery head, ih]

theorem pointwise_claimants
    (each : List.Forall₂ (Registration.Pointwise relate) registrations others) (method : Method)
    (path : String) :
    List.Forall₂ (Route.Pointwise relate) (claimants registrations method path)
      (claimants others method path) :=
  related_claimants (fun _ _ routes => routes.pattern)
    (List.rel_filterMap (fun _ _ => Registration.pointwise_route) each) method path

theorem pointwise_chain {router otherRouter : Router ν} {route other : Route ν}
    (each : List.Forall₂ (Registration.Pointwise relate) registrations others)
    (holds : router.Holds registrations) (otherHolds : otherRouter.Holds others)
    (routes : Route.Pointwise relate route other) (pieces : List String) :
    List.Forall₂ relate (router.chain pieces route) (otherRouter.chain pieces other) := by
  have middleware := List.rel_filterMap (fun _ _ => Registration.pointwise_middleware) each
  have globalOnes := List.rel_filter (p := Middleware.isGlobal) (q := Middleware.isGlobal)
    (fun left right same => by simp only [Middleware.isGlobal, same.scope]) middleware
  have scopedOnes := List.rel_filter (p := fun scope : Middleware ν => !scope.isGlobal)
    (q := fun scope : Middleware ν => !scope.isGlobal)
    (fun left right same => by simp only [Middleware.isGlobal, same.scope]) middleware
  have applying := List.rel_filter (p := fun scope : Middleware ν => scope.appliesTo pieces)
    (q := fun scope : Middleware ν => scope.appliesTo pieces)
    (fun left right same => by simp only [Middleware.appliesTo, same.scope]) scopedOnes
  simp only [Router.chain, Router.applicable, holds.globalOnes, holds.scopedOnes,
    otherHolds.globalOnes, otherHolds.scopedOnes]
  exact List.rel_append
    (List.rel_map (fun _ _ same => same.handler) (List.rel_append globalOnes applying))
    routes.handlers

theorem pointwise_find {router otherRouter : Router ν}
    (each : List.Forall₂ (Registration.Pointwise relate) registrations others)
    (holds : router.Holds registrations) (otherHolds : otherRouter.Holds others) (method : Method)
    (path : String) (found : Match ν) (finds : router.find method path = .ok (some found)) :
    ∃ other, otherRouter.find method path = .ok (some other) ∧ other.params = found.params ∧
      Route.Pointwise relate found.route other.route := by
  rcases related_find (fun _ _ routes => routes.pattern) holds otherHolds method path
      (pointwise_claimants each method path) with
    ⟨_, unfound⟩ | ⟨own, other, ownFinds, otherFinds, captured, routes⟩
  · exact absurd finds (unfound found)
  · cases ownFinds.symm.trans finds
    exact ⟨other, otherFinds, captured, routes⟩

theorem pointwise_built {router : Router ν}
    (each : List.Forall₂ (Registration.Pointwise relate) registrations others)
    (built : Router.ofRegistrations registrations = .ok router) :
    ∃ other, Router.ofRegistrations others = .ok other := by
  rw [Router.registrations_build] at built ⊢
  rw [pointwise_first_refusal each]
  cases refused : registrations.findSome? Registration.refusal with
  | some refusal => simp [refused] at built
  | none => exact ⟨_, rfl⟩

end Pointwise

namespace Router

/-- Registrations that are alike one by one: every request is answered alike, the error handler is
called alike, and the same trace is left. -/
theorem dispatch_alike (registrations others : List (Registration ν)) (router other : Router ν)
    (each : List.Forall₂ (Registration.Pointwise Handler.Alike) registrations others)
    (holds : router.Holds registrations) (otherHolds : other.Holds others) (request : Request) :
    (other.dispatch request).answer = (router.dispatch request).answer ∧
      (other.dispatch request).rescue = (router.dispatch request).rescue ∧
      (other.dispatch request).trace = (router.dispatch request).trace := by
  have recovery : other.recovery = router.recovery := by
    rw [otherHolds.recovery, holds.recovery, pointwise_recoveries each]
  rcases related_dispatch (fun _ _ routes => routes.pattern) holds otherHolds request
      (pointwise_claimants each request.method request.uri.path) with
    ⟨same, _⟩ | ⟨found, otherFound, matched, otherMatched, captured, routes⟩
  · rw [same]
    exact ⟨rfl, rfl, rfl⟩
  · obtain ⟨signal, traces⟩ := Handler.run_alike _ _
      (pointwise_chain each holds otherHolds routes (Path.splitDecoded request.uri.path))
      (ready request found.params) .blank
    obtain ⟨decisions, answers, rescues⟩ := router.matchedRun_signal other recovery request found
      otherFound captured routes.pattern signal
    rw [matched, otherMatched]
    refine ⟨answers, rescues, ?_⟩
    simp only [Run.trace, decisions, rescues]
    simp only [matchedRun, conclude_calls, captured, traces]

end Router
end HttpRouter
