import HttpRouter.Builder
import HttpRouter.Proofs.NamedValues

/-!
What a sequence of registrations builds. A builder is read as the list of its registrations: each
one is refused on its own or stands for a route, a middleware or an error handler. The first
refusal decides; without one the router holds exactly what the registrations stand for, and the
table gives a method its own routes in order and then those of every method.
-/

namespace HttpRouter
variable {ν : Type}

namespace RouteMethod

def serves (registered : RouteMethod) (method : Method) : Bool :=
  match registered with
  | .any => true
  | .only own => decide (own = method)

end RouteMethod

namespace Registration

def refusal : Registration ν → Option BuildError
  | .add _ pattern handlers => if handlers.isEmpty then some (.noHandler pattern) else none
  | .named name _ _ => if (RouteMethod.parse? name).isSome then none else some (.methodName name)
  | .middleware _ => none
  | .recover _ => none

def route? : Registration ν → Option (RouteMethod × Route ν)
  | .add method pattern handlers => some (method, .ofText pattern handlers)
  | .named name pattern handler =>
      (RouteMethod.parse? name).map fun method => (method, .ofText pattern [handler])
  | .middleware _ => none
  | .recover _ => none

def middleware? : Registration ν → Option (Middleware ν)
  | .middleware added => some added
  | _ => none

def recovery? : Registration ν → Option (Recovery ν)
  | .recover added => some added
  | _ => none

theorem accepted_route_handlers (registration : Registration ν) (entry : RouteMethod × Route ν)
    (accepted : registration.refusal = none) (stands : registration.route? = some entry) :
    entry.2.handlers ≠ [] := by
  cases registration with
  | add method pattern handlers =>
      have someHandler : handlers ≠ [] := by simpa [refusal] using accepted
      have same : (method, Route.ofText pattern handlers) = entry := by simpa [route?] using stands
      subst same
      exact someHandler
  | named name pattern handler =>
      obtain ⟨method, _, same⟩ := Option.map_eq_some_iff.mp stands
      subst same
      simp [Route.ofText]
  | middleware middleware => simp [route?] at stands
  | recover recovery => simp [route?] at stands

end Registration

namespace Draft

/-- A draft after accepted registrations: routes and middleware at the end, the last error handler
in the place of any other. -/
def collect (draft : Draft ν) (registrations : List (Registration ν)) : Draft ν where
  routes := draft.routes ++ registrations.filterMap Registration.route?
  middleware := draft.middleware ++ registrations.filterMap Registration.middleware?
  recovery := (registrations.filterMap Registration.recovery?).getLast?.or draft.recovery

theorem collect_nil (draft : Draft ν) : draft.collect [] = draft := by
  simp [collect]

theorem collect_cons (draft : Draft ν) (registration : Registration ν)
    (rest : List (Registration ν)) :
    draft.collect (registration :: rest) = (draft.collect [registration]).collect rest := by
  simp only [collect, mk.injEq]
  refine ⟨?_, ?_, ?_⟩
  · cases given : registration.route? <;> simp [given]
  · cases given : registration.middleware? <;> simp [given]
  · simp only [last_given_cons, List.filterMap_nil, List.getLast?_nil, Option.none_or,
      Option.or_assoc]

end Draft

namespace Builder

theorem register_after_refusal (refusal : BuildError) (registration : Registration ν) :
    register (⟨.error refusal⟩ : Builder ν) registration = ⟨.error refusal⟩ := by
  cases registration with
  | add method pattern handlers => rfl
  | named name pattern handler =>
      simp only [register, route]
      cases RouteMethod.parse? name <;> rfl
  | middleware middleware => rfl
  | recover recovery => rfl

theorem register_collects (draft : Draft ν) (registration : Registration ν) :
    (register ⟨.ok draft⟩ registration).state =
      match registration.refusal with
      | some refusal => .error refusal
      | none => .ok (draft.collect [registration]) := by
  cases registration with
  | add method pattern handlers =>
      by_cases empty : handlers.isEmpty = true
      · simp [register, add, amend, Registration.refusal, empty]
      · simp [register, add, amend, Registration.refusal, empty, Draft.collect,
          Registration.route?, Registration.middleware?, Registration.recovery?]
  | named name pattern handler =>
      cases parsed : RouteMethod.parse? name with
      | none => simp [register, route, amend, Registration.refusal, parsed]
      | some method =>
          simp [register, route, add, amend, Registration.refusal, parsed, Draft.collect,
            Registration.route?, Registration.middleware?, Registration.recovery?]
  | middleware middleware =>
      simp [register, Builder.middleware, amend, Registration.refusal, Draft.collect,
        Registration.route?, Registration.middleware?, Registration.recovery?]
  | recover recovery =>
      simp [register, Builder.recover, amend, Registration.refusal, Draft.collect,
        Registration.route?, Registration.middleware?, Registration.recovery?]

theorem run_after_refusal (refusal : BuildError) (registrations : List (Registration ν)) :
    run (⟨.error refusal⟩ : Builder ν) registrations = ⟨.error refusal⟩ := by
  induction registrations with
  | nil => rfl
  | cons registration rest ih => rw [run, register_after_refusal, ih]

-- The induction is on the registrations for every draft, since each accepted one leaves a longer
-- draft to the rest.
theorem run_collects (draft : Draft ν) (registrations : List (Registration ν)) :
    (run ⟨.ok draft⟩ registrations).state =
      match registrations.findSome? Registration.refusal with
      | some refusal => .error refusal
      | none => .ok (draft.collect registrations) := by
  induction registrations generalizing draft with
  | nil => simp [run, Draft.collect_nil]
  | cons registration rest ih =>
      have step := register_collects draft registration
      cases refused : registration.refusal with
      | some refusal =>
          have stuck : register ⟨.ok draft⟩ registration = ⟨.error refusal⟩ := by
            cases after : register ⟨.ok draft⟩ registration
            simpa [after, refused] using step
          simp [run, stuck, run_after_refusal, refused]
      | none =>
          have onward : register ⟨.ok draft⟩ registration =
              ⟨.ok (draft.collect [registration])⟩ := by
            cases after : register ⟨.ok draft⟩ registration
            simpa [after, refused] using step
          rw [run, onward, ih, Draft.collect_cons draft registration rest]
          simp [refused]

end Builder

/-! ### The table -/

namespace Table

def registeredAs (registered : RouteMethod) (entries : List (RouteMethod × Route ν)) :
    List (Route ν) :=
  (entries.filter fun entry => decide (entry.1 = registered)).map Prod.snd

theorem bucket_insertInto (method own : Method) (route : Route ν)
    (buckets : List (Method × List (Route ν))) :
    bucket method (insertInto own route buckets) =
      if own = method then bucket method buckets ++ [route] else bucket method buckets := by
  induction buckets with
  | nil =>
      by_cases same : own = method <;> simp [insertInto, bucket, same]
  | cons entry rest ih =>
      obtain ⟨other, routes⟩ := entry
      -- Of three methods, the inserted one is compared with the bucket first, as insertion does.
      by_cases here : other = own
      · subst here
        by_cases same : other = method <;> simp [insertInto, bucket, same]
      · by_cases found : other = method
        · subst found
          simp [insertInto, bucket, here, Ne.symm here]
        · simp [insertInto, bucket, here, found, ih]

theorem lookup_after (method : Method) (entries : List (RouteMethod × Route ν)) (table : Table ν) :
    let after := entries.foldl (fun table entry => table.register entry.1 entry.2) table
    bucket method after.byMethod =
        bucket method table.byMethod ++ registeredAs (.only method) entries ∧
      after.anyMethod = table.anyMethod ++ registeredAs .any entries := by
  induction entries generalizing table with
  | nil => simp [registeredAs]
  | cons entry rest ih =>
      obtain ⟨registered, route⟩ := entry
      have tail := ih (table.register registered route)
      cases registered with
      | any => simpa [register, registeredAs] using tail
      | only own =>
          by_cases same : own = method
          · simpa [register, registeredAs, bucket_insertInto, same] using tail
          · simpa [register, registeredAs, bucket_insertInto, same] using tail

/-- A method's own routes in order, then those of every method in order. -/
theorem lookup_ofList (entries : List (RouteMethod × Route ν)) (method : Method) :
    (ofList entries).lookup method =
      registeredAs (.only method) entries ++ registeredAs .any entries := by
  have filled := lookup_after method entries empty
  simp only [lookup, ofList]
  rw [filled.1, filled.2]
  simp [empty, bucket]

theorem lookup_serves (entries : List (RouteMethod × Route ν)) (method : Method) :
    ((ofList entries).lookup method).Perm
      ((entries.filter fun entry => entry.1.serves method).map Prod.snd) := by
  let serving := entries.filter fun entry => entry.1.serves method
  have own : serving.filter (fun entry => decide (entry.1 = .only method)) =
      entries.filter fun entry => decide (entry.1 = .only method) := by
    rw [List.filter_filter]
    apply List.filter_congr
    intro entry _
    cases entry.1 <;> simp [RouteMethod.serves]
  have rest : serving.filter (fun entry => !decide (entry.1 = .only method)) =
      entries.filter fun entry => decide (entry.1 = .any) := by
    rw [List.filter_filter]
    apply List.filter_congr
    intro entry _
    cases entry.1 <;> simp [RouteMethod.serves]
  have parted := List.filter_append_perm (fun entry => decide (entry.1 = .only method)) serving
  rw [own, rest] at parted
  rw [lookup_ofList, registeredAs, registeredAs, ← List.map_append]
  exact parted.map Prod.snd

end Table

/-! ### The router -/

namespace Router

/-- What a list of registrations stands for, once none of them is refused. -/
structure Holds (router : Router ν) (registrations : List (Registration ν)) : Prop where
  table : router.table = Table.ofList (registrations.filterMap Registration.route?)
  handled : ∀ entry ∈ registrations.filterMap Registration.route?, entry.2.handlers ≠ []
  globalOnes : router.globalMiddleware =
    (registrations.filterMap Registration.middleware?).filter Middleware.isGlobal
  scopedOnes : router.scopedMiddleware =
    (registrations.filterMap Registration.middleware?).filter fun middleware => !middleware.isGlobal
  recovery : router.recovery =
    (registrations.filterMap Registration.recovery?).getLast?.getD .fallback

theorem Holds.last_recovery {router : Router ν} {registrations : List (Registration ν)}
    (holds : router.Holds registrations) (recovery : Recovery ν)
    (last : (registrations.filterMap Registration.recovery?).getLast? = some recovery) :
    router.recovery = recovery := by
  rw [holds.recovery, last, Option.getD_some]

theorem Holds.no_recovery {router : Router ν} {registrations : List (Registration ν)}
    (holds : router.Holds registrations)
    (unregistered : registrations.filterMap Registration.recovery? = []) :
    router.recovery = .fallback := by
  rw [holds.recovery, unregistered, List.getLast?_nil, Option.getD_none]

theorem registrations_build (registrations : List (Registration ν)) :
    ofRegistrations registrations =
      match registrations.findSome? Registration.refusal with
      | some refusal => .error refusal
      | none => .ok (Draft.empty.collect registrations).router := by
  have ran := Builder.run_collects Draft.empty registrations
  simp only [ofRegistrations, Builder.build, Builder.empty, ran]
  cases registrations.findSome? Registration.refusal <;> rfl

theorem valid_build (registrations : List (Registration ν))
    (valid : ∀ registration ∈ registrations, registration.refusal = none) :
    ∃ router, ofRegistrations registrations = .ok router := by
  rw [registrations_build, List.findSome?_eq_none_iff.mpr valid]
  exact ⟨_, rfl⟩

theorem accepted_build (registrations : List (Registration ν)) (router : Router ν)
    (built : ofRegistrations registrations = .ok router) :
    ∀ registration ∈ registrations, registration.refusal = none := by
  rw [registrations_build] at built
  cases refused : registrations.findSome? Registration.refusal with
  | some refusal => simp [refused] at built
  | none => exact List.findSome?_eq_none_iff.mp refused

theorem built_holds (registrations : List (Registration ν)) (router : Router ν)
    (built : ofRegistrations registrations = .ok router) : router.Holds registrations := by
  rw [registrations_build] at built
  cases refused : registrations.findSome? Registration.refusal with
  | some refusal => simp [refused] at built
  | none =>
      have same : (Draft.empty.collect registrations).router = router := by
        simpa [refused] using built
      subst same
      refine ⟨?_, ?_, ?_, ?_, ?_⟩
      · simp [Draft.router, Draft.collect, Draft.empty]
      · intro entry member
        obtain ⟨registration, listed, stands⟩ := List.mem_filterMap.mp member
        exact registration.accepted_route_handlers entry
          (List.findSome?_eq_none_iff.mp refused registration listed) stands
      · simp [Draft.router, Draft.collect, Draft.empty]
      · simp [Draft.router, Draft.collect, Draft.empty]
      · simp [Draft.router, Draft.collect, Draft.empty]

end Router
end HttpRouter
