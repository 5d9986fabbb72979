import HttpRouter.Proofs.Likeness

/-!
Entries that pass through. Middleware and handlers that hand on what they are given, put anywhere
among registrations, leave every dispatch as it was: the same decision, the same calls of everybody
else with the same requests and responses, the same call of the error handler, the same answer. A
lone handler is called directly and the same handler behind such an entry in a chain, so the two
ways of calling it come to the same.
-/

namespace HttpRouter
variable {ν : Type}

/-- Two lists that are related one by one, with further items anywhere in the second. -/
inductive Interspersed {α β : Type} (relate : α → β → Prop) (further : β → Prop) :
    List α → List β → Prop where
  | nil : Interspersed relate further [] []
  | own {item : α} {other : β} {items : List α} {others : List β} (head : relate item other)
      (tail : Interspersed relate further items others) :
      Interspersed relate further (item :: items) (other :: others)
  | more {other : β} {items : List α} {others : List β} (head : further other)
      (tail : Interspersed relate further items others) :
      Interspersed relate further items (other :: others)

namespace Interspersed
variable {α β γ δ : Type} {relate : α → β → Prop} {further : β → Prop} {items : List α}
  {others : List β}

theorem rel_same (item other : Option α) (same : other = item) : Option.Rel Eq item other := by
  subst same
  cases other with
  | none => exact .none
  | some item => exact .some rfl

theorem append {moreItems : List α} {moreOthers : List β}
    (front : Interspersed relate further items others)
    (back : Interspersed relate further moreItems moreOthers) :
    Interspersed relate further (items ++ moreItems) (others ++ moreOthers) := by
  induction front with
  | nil => exact back
  | own head _ ih => exact .own head ih
  | more head _ ih => exact .more head ih

theorem filterMap {mapped : γ → δ → Prop} {kept : δ → Prop} (left : α → Option γ)
    (right : β → Option δ)
    (own : ∀ item other, relate item other → Option.Rel mapped (left item) (right other))
    (more : ∀ other, further other → ∀ image, right other = some image → kept image)
    (each : Interspersed relate further items others) :
    Interspersed mapped kept (items.filterMap left) (others.filterMap right) := by
  induction each with
  | nil => exact .nil
  | @own item other _ _ head _ ih =>
      have images := own item other head
      rw [List.filterMap_cons, List.filterMap_cons]
      generalize left item = image at images
      generalize right other = otherImage at images
      cases images with
      | none => exact ih
      | some related => exact .own related ih
  | @more other _ _ head _ ih =>
      rw [List.filterMap_cons]
      cases found : right other with
      | none => exact ih
      | some image => exact .more (more other head image found) ih

theorem filter {further : α → Prop} {items others : List α} (chosen : α → Bool)
    (each : Interspersed Eq further items others) :
    Interspersed Eq further (items.filter chosen) (others.filter chosen) := by
  rw [← List.filterMap_eq_filter]
  apply each.filterMap
  · rintro item _ rfl
    exact rel_same _ _ rfl
  · intro other head image found
    obtain ⟨rfl, _⟩ := Option.guard_eq_some_iff.mp found
    exact head

theorem map {further : α → Prop} {kept : γ → Prop} {items others : List α} (image : α → γ)
    (more : ∀ other, further other → kept (image other))
    (each : Interspersed Eq further items others) :
    Interspersed Eq kept (items.map image) (others.map image) := by
  rw [← List.filterMap_eq_map]
  apply each.filterMap
  · rintro item _ rfl
    exact .some rfl
  · rintro other head _ ⟨⟩
    exact more other head

theorem forall₂ (each : Interspersed relate (fun _ => False) items others) :
    List.Forall₂ relate items others := by
  induction each with
  | nil => exact .nil
  | own head _ ih => exact .cons head ih
  | more head _ _ => exact head.elim

theorem forall₂_filterMap {mapped : γ → δ → Prop} (left : α → Option γ) (right : β → Option δ)
    (own : ∀ item other, relate item other → Option.Rel mapped (left item) (right other))
    (imageless : ∀ other, further other → right other = none)
    (each : Interspersed relate further items others) :
    List.Forall₂ mapped (items.filterMap left) (others.filterMap right) := by
  have images : Interspersed mapped (fun _ => False) (items.filterMap left)
      (others.filterMap right) := by
    apply each.filterMap left right own
    intro other head image found
    rw [imageless other head] at found
    cases found
  exact images.forall₂

theorem of_eq {further : α → Prop} (items : List α) : Interspersed Eq further items items := by
  induction items with
  | nil => exact .nil
  | cons item rest ih => exact .own rfl ih

theorem some_item (each : Interspersed relate further items others) (present : items ≠ []) :
    others ≠ [] := by
  cases each with
  | nil => exact absurd rfl present
  | own head tail => exact List.cons_ne_nil _ _
  | more head tail => exact List.cons_ne_nil _ _

end Interspersed

namespace Handler

/-- Every call hands on the request and the response that it was given. -/
def PassesThrough (handler : Handler ν) : Prop :=
  ∀ request response, (handler.call request response).outcome = .proceed request response

theorem run_interspersed (chain padded : List (Handler ν))
    (each : Interspersed Eq PassesThrough chain padded) (request : Request) (response : Response) :
    (run padded request response).next = (run chain request response).next ∧
      Interspersed Eq (fun call => call.handler.PassesThrough)
        (run chain request response).calls (run padded request response).calls := by
  induction each generalizing request response with
  | nil => exact ⟨rfl, .nil⟩
  | @own handler _ rest others head _ ih =>
      subst head
      rcases (handler.call request response).outcome.onward_or_stopped with
        ⟨nextRequest, nextResponse, given⟩ | stopped
      · obtain ⟨nexts, calls⟩ := ih nextRequest nextResponse
        rw [run_onward handler rest request nextRequest response nextResponse given,
          run_onward handler others request nextRequest response nextResponse given]
        exact ⟨nexts, .own rfl calls⟩
      · rw [run_stopped handler rest request response stopped,
          run_stopped handler others request response stopped]
        exact ⟨rfl, .own rfl .nil⟩
  | @more handler _ others head _ ih =>
      -- The rest of the padded chain starts from what the whole chain starts from.
      obtain ⟨nexts, calls⟩ := ih request response
      rw [run_onward handler others request request response response (head request response)]
      exact ⟨nexts, .more head calls⟩

end Handler

/-! ### Registrations with entries put in -/

namespace Registration

/-- The same registration, with further handlers that pass through if it is that of a route. -/
inductive Widens : Registration ν → Registration ν → Prop where
  | same (registration : Registration ν) : Widens registration registration
  | add (method : RouteMethod) (pattern : String) {handlers padded : List (Handler ν)}
      (each : Interspersed Eq Handler.PassesThrough handlers padded) :
      Widens (.add method pattern handlers) (.add method pattern padded)
  | named {name : String} {method : RouteMethod} (parsed : RouteMethod.parse? name = some method)
      (pattern : String) {handler : Handler ν} {padded : List (Handler ν)}
      (each : Interspersed Eq Handler.PassesThrough [handler] padded) :
      Widens (.named name pattern handler) (.add method pattern padded)

inductive PassesThrough : Registration ν → Prop where
  | middleware (scope : Option Pattern) {handler : Handler ν} (passes : handler.PassesThrough) :
      PassesThrough (.middleware ⟨scope, handler⟩)

end Registration

structure Route.Widens (route other : Route ν) : Prop where
  pattern : other.pattern = route.pattern
  handlers : Interspersed Eq Handler.PassesThrough route.handlers other.handlers

namespace Registration

theorem widens_accepted {registration other : Registration ν} (each : Widens registration other)
    (accepted : registration.refusal = none) : other.refusal = none := by
  cases each with
  | same => exact accepted
  | add method pattern each =>
      have handled := each.some_item (by simpa [refusal] using accepted)
      simpa [refusal] using handled
  | named parsed pattern each =>
      have handled := each.some_item (List.cons_ne_nil _ _)
      simpa [refusal] using handled

theorem widens_route {registration other : Registration ν} (each : Widens registration other) :
    Option.Rel (fun left right => right.1 = left.1 ∧ Route.Widens left.2 right.2)
      registration.route? other.route? := by
  cases each with
  | same =>
      cases registration.route? with
      | none => exact .none
      | some entry => exact .some ⟨rfl, rfl, .of_eq _⟩
  | add method pattern each => exact .some ⟨rfl, rfl, each⟩
  | named parsed pattern each =>
      simp only [route?, parsed]
      exact .some ⟨rfl, rfl, each⟩

theorem widens_middleware {registration other : Registration ν}
    (each : Widens registration other) : other.middleware? = registration.middleware? := by
  cases each <;> rfl

theorem widens_recovery {registration other : Registration ν} (each : Widens registration other) :
    other.recovery? = registration.recovery? := by
  cases each <;> rfl

end Registration

section Widened
variable {registrations padded : List (Registration ν)}
  (each : Interspersed Registration.Widens Registration.PassesThrough registrations padded)
include each

theorem widened_accepted
    (accepted : ∀ registration ∈ registrations, registration.refusal = none) :
    ∀ registration ∈ padded, registration.refusal = none := by
  induction each with
  | nil => exact accepted
  | own head _ ih =>
      rintro registration member
      rcases List.mem_cons.mp member with rfl | later
      · exact Registration.widens_accepted head (accepted _ List.mem_cons_self)
      · exact ih (fun _ own => accepted _ (List.mem_cons_of_mem _ own)) registration later
  | more head _ ih =>
      rintro registration member
      rcases List.mem_cons.mp member with rfl | later
      · cases head
        rfl
      · exact ih accepted registration later

theorem widened_claimants (method : Method) (path : String) :
    List.Forall₂ Route.Widens (claimants registrations method path)
      (claimants padded method path) := by
  apply related_claimants fun _ _ routes => routes.pattern
  apply each.forall₂_filterMap Registration.route? Registration.route?
  · exact fun _ _ => Registration.widens_route
  · rintro _ ⟨_⟩
    rfl

theorem widened_recoveries :
    padded.filterMap Registration.recovery? = registrations.filterMap Registration.recovery? := by
  have recoveries := each.forall₂_filterMap Registration.recovery? Registration.recovery?
    (fun _ _ head => Interspersed.rel_same _ _ (Registration.widens_recovery head)) (by
      rintro _ ⟨_⟩
      rfl)
  rw [List.forall₂_eq_eq_eq] at recoveries
  exact recoveries.symm

theorem widened_middleware :
    Interspersed Eq (fun middleware => middleware.handler.PassesThrough)
      (registrations.filterMap Registration.middleware?)
      (padded.filterMap Registration.middleware?) :=
  each.filterMap Registration.middleware? Registration.middleware?
    (fun _ _ head => Interspersed.rel_same _ _ (Registration.widens_middleware head)) (by
      rintro _ ⟨_, passes⟩ _ ⟨⟩
      exact passes)

theorem widened_chain {router other : Router ν} {route otherRoute : Route ν}
    (holds : router.Holds registrations) (otherHolds : other.Holds padded)
    (routes : Route.Widens route otherRoute) (pieces : List String) :
    Interspersed Eq Handler.PassesThrough (router.chain pieces route)
      (other.chain pieces otherRoute) := by
  have middleware := widened_middleware each
  have globalOnes := middleware.filter Middleware.isGlobal
  have scopedOnes := middleware.filter fun scope => !scope.isGlobal
  have applying := scopedOnes.filter fun scope => scope.appliesTo pieces
  simp only [Router.chain, Router.applicable, holds.globalOnes, holds.scopedOnes,
    otherHolds.globalOnes, otherHolds.scopedOnes]
  exact ((globalOnes.append applying).map Middleware.handler fun _ passes => passes).append
    routes.handlers

end Widened

namespace Router

theorem dispatch_widened (registrations padded : List (Registration ν)) (router other : Router ν)
    (each : Interspersed Registration.Widens Registration.PassesThrough registrations padded)
    (holds : router.Holds registrations) (otherHolds : other.Holds padded) (request : Request) :
    let run := router.dispatch request
    let otherRun := other.dispatch request
    otherRun.decision = run.decision ∧ otherRun.answer = run.answer ∧
      otherRun.rescue = run.rescue ∧
      Interspersed Eq (fun call => call.handler.PassesThrough) run.calls otherRun.calls := by
  have recovery : other.recovery = router.recovery := by
    rw [otherHolds.recovery, holds.recovery, widened_recoveries each]
  dsimp only
  rcases related_dispatch (fun _ _ routes => routes.pattern) holds otherHolds request
      (widened_claimants each request.method request.uri.path) with
    ⟨same, uncalled⟩ | ⟨found, otherFound, matched, otherMatched, captured, routes⟩
  · rw [same, uncalled]
    exact ⟨rfl, rfl, rfl, .nil⟩
  · obtain ⟨signal, calls⟩ := Handler.run_interspersed _ _
      (widened_chain each holds otherHolds routes (Path.splitDecoded request.uri.path))
      (ready request found.params) .blank
    obtain ⟨decisions, answers, rescues⟩ := router.matchedRun_signal other recovery request found
      otherFound captured routes.pattern signal
    rw [matched, otherMatched]
    refine ⟨decisions, answers, rescues, ?_⟩
    simpa only [matchedRun, conclude_calls, captured] using calls

/-- Entries that pass through, put anywhere among the registrations and among the handlers of their
routes, change nothing but that they are called. And a chain of one handler comes to what the
handler comes to that is called directly. -/
theorem pass_through_neutral (registrations padded : List (Registration ν)) (router : Router ν)
    (built : ofRegistrations registrations = .ok router)
    (each : Interspersed Registration.Widens Registration.PassesThrough registrations padded) :
    (∃ other, ofRegistrations padded = .ok other ∧ ∀ request,
      let run := router.dispatch request
      let otherRun := other.dispatch request
      otherRun.decision = run.decision ∧ otherRun.answer = run.answer ∧
        otherRun.rescue = run.rescue ∧
        Interspersed Eq (fun call => call.handler.PassesThrough) run.calls otherRun.calls) ∧
    ∀ pieces route request,
      router.runChain pieces route request =
        Handler.run (router.chain pieces route) request .blank := by
  obtain ⟨other, otherBuilt⟩ :=
    valid_build padded (widened_accepted each (accepted_build registrations router built))
  refine ⟨⟨other, otherBuilt, ?_⟩, router.runChain_run⟩
  intro request
  exact dispatch_widened registrations padded router other each
    (built_holds registrations router built) (built_holds padded other otherBuilt) request

-- The handler that panics is called directly by one router, and behind three others by the other.
theorem lone_handler_behind_others :
    let pass : Handler Unit := ⟨fun request response => ⟨[], .proceed request response⟩⟩
    let blow : Handler Unit := ⟨fun _ _ => ⟨[], .panic .called (.text "boom")⟩⟩
    let registrations : List (Registration Unit) := [.named "get" "/a/:x" blow]
    let padded : List (Registration Unit) :=
      [.middleware ⟨some (.ofText "/a"), pass⟩, .add (.only .get) "/a/:x" [pass, blow, pass],
        .middleware ⟨none, pass⟩]
    let request : Request := { (default : Request) with uri := ⟨none, none, "/a/b", none⟩ }
    ∃ router other, ofRegistrations registrations = .ok router ∧
      Interspersed Registration.Widens Registration.PassesThrough registrations padded ∧
      ofRegistrations padded = .ok other ∧
      (∀ request, (other.dispatch request).answer = (router.dispatch request).answer) ∧
      (router.dispatch request).calls.length = 1 ∧ (other.dispatch request).calls.length = 4 := by
  intro pass blow registrations padded request
  have passes : pass.PassesThrough := fun _ _ => rfl
  have handlers : Interspersed Eq Handler.PassesThrough [blow] [pass, blow, pass] :=
    .more passes (.own rfl (.more passes .nil))
  have parsed : RouteMethod.parse? "get" = some (.only .get) := by decide
  have each : Interspersed Registration.Widens Registration.PassesThrough registrations padded :=
    .more (.middleware _ passes)
      (.own (.named parsed "/a/:x" handlers) (.more (.middleware none passes) .nil))
  obtain ⟨router, built⟩ : ∃ router, ofRegistrations registrations = .ok router := ⟨_, rfl⟩
  obtain ⟨⟨other, otherBuilt, dispatched⟩, _⟩ :=
    pass_through_neutral registrations padded router built each
  refine ⟨router, other, built, each, otherBuilt, fun request => (dispatched request).2.1, ?_, ?_⟩
  · cases built
    decide
  · cases otherBuilt
    decide

end Router
end HttpRouter
