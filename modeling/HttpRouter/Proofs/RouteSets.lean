import HttpRouter.Proofs.Decision

/-!
The routes of a router as a set. In which order routes were registered, and what was registered
between them, has no influence on any dispatch. One route more changes nothing for the requests it
does not claim, and for the others it is counted in: it is found where nothing was found, and
refused with every route that was found before.
-/

namespace HttpRouter
variable {ν : Type}

/-- Two runs of registrations with the same routes in any order, and apart from them the same
middleware of either kind in order and the same last error handler. -/
structure Rearranged (left right : List (Registration ν)) : Prop where
  routes : (left.filterMap Registration.route?).Perm (right.filterMap Registration.route?)
  globalOnes : (left.filterMap Registration.middleware?).filter Middleware.isGlobal =
    (right.filterMap Registration.middleware?).filter Middleware.isGlobal
  scopedOnes : (left.filterMap Registration.middleware?).filter (fun scope => !scope.isGlobal) =
    (right.filterMap Registration.middleware?).filter fun scope => !scope.isGlobal
  recovery : (left.filterMap Registration.recovery?).getLast? =
    (right.filterMap Registration.recovery?).getLast?

theorem claimants_rearranged (left right : List (Registration ν)) (same : Rearranged left right)
    (method : Method) (path : String) :
    (claimants left method path).Perm (claimants right method path) :=
  (same.routes.filter _).map Prod.snd

namespace Router

theorem find_rearranged (left right : List (Registration ν)) (router other : Router ν)
    (same : Rearranged left right) (holds : router.Holds left) (otherHolds : other.Holds right)
    (method : Method) (path : String) : other.find method path = router.find method path := by
  rw [find_verdict router left method path holds, find_verdict other right method path otherHolds]
  exact (verdict_order method path _ _ (claimants_rearranged left right same method path)).symm

-- The table has done its part once a route is found.
theorem matchedRun_tableless (router other : Router ν)
    (globalOnes : other.globalMiddleware = router.globalMiddleware)
    (scopedOnes : other.scopedMiddleware = router.scopedMiddleware)
    (recovery : other.recovery = router.recovery) (request : Request) (found : Match ν) :
    other.matchedRun request found = router.matchedRun request found := by
  cases router
  cases other
  cases globalOnes
  cases scopedOnes
  cases recovery
  rfl

/-- Routes may be registered in any order, and among the other registrations in any way: every
request is decided alike, calls the same handlers with the same requests and responses, and is
answered alike. -/
theorem dispatch_rearranged (left right : List (Registration ν))
    (valid : ∀ registration ∈ left ++ right, registration.refusal = none)
    (same : Rearranged left right) :
    ∃ router other, ofRegistrations left = .ok router ∧ ofRegistrations right = .ok other ∧
      (∀ method path, other.find method path = router.find method path) ∧
      ∀ request, other.dispatch request = router.dispatch request := by
  obtain ⟨router, built⟩ := valid_build left fun registration member =>
    valid registration (List.mem_append_left right member)
  obtain ⟨other, otherBuilt⟩ := valid_build right fun registration member =>
    valid registration (List.mem_append_right left member)
  have holds := built_holds left router built
  have otherHolds := built_holds right other otherBuilt
  have finds := find_rearranged left right router other same holds otherHolds
  refine ⟨router, other, built, otherBuilt, finds, ?_⟩
  intro request
  have matched := matchedRun_tableless router other
    (by rw [holds.globalOnes, otherHolds.globalOnes, same.globalOnes])
    (by rw [holds.scopedOnes, otherHolds.scopedOnes, same.scopedOnes])
    (by rw [holds.recovery, otherHolds.recovery, same.recovery]) request
  simp only [dispatch_find, finds, matched]

theorem routes_around_middleware :
    let stay : Handler Unit := ⟨fun request response => ⟨[], .proceed request response⟩⟩
    let scope : Middleware Unit := .within "/a" stay
    let left : List (Registration Unit) :=
      [.add (.only .get) "/a/:x" [stay], .middleware scope, .named "*" "/a/b" stay,
        .recover .fallback]
    let right : List (Registration Unit) :=
      [.recover .fallback, .named "*" "/a/b" stay, .add (.only .get) "/a/:x" [stay],
        .middleware scope]
    ∃ router other, ofRegistrations left = .ok router ∧ ofRegistrations right = .ok other ∧
      ∀ request, other.dispatch request = router.dispatch request := by
  intro stay scope left right
  obtain ⟨router, other, built, otherBuilt, _, dispatched⟩ := dispatch_rearranged left right
    (by decide) ⟨List.Perm.swap _ _ _, rfl, rfl, rfl⟩
  exact ⟨router, other, built, otherBuilt, dispatched⟩

end Router

/-! ### One route more -/

theorem claimants_append (front back : List (Registration ν)) (method : Method) (path : String) :
    claimants (front ++ back) method path =
      claimants front method path ++ claimants back method path := by
  simp only [claimants, List.filterMap_append, List.filter_append, List.map_append]

def Claims (registered : RouteMethod) (pattern : String) (method : Method) (path : String) : Prop :=
  (registered = .any ∨ registered = .only method) ∧
    (Pattern.ofText pattern).fits (Path.splitDecoded path) = true

instance (registered : RouteMethod) (pattern : String) (method : Method) (path : String) :
    Decidable (Claims registered pattern method path) :=
  inferInstanceAs (Decidable (_ ∧ _))

theorem claims_iff (registered : RouteMethod) (pattern : String) (method : Method) (path : String) :
    Claims registered pattern method path ↔
      (registered.serves method &&
        (Pattern.ofText pattern).fits (Path.splitDecoded path)) = true := by
  cases registered <;> simp [Claims, RouteMethod.serves]

theorem claimants_added (registered : RouteMethod) (pattern : String) (handlers : List (Handler ν))
    (method : Method) (path : String) :
    (Claims registered pattern method path →
      claimants [.add registered pattern handlers] method path = [.ofText pattern handlers]) ∧
    (¬ Claims registered pattern method path →
      claimants [.add registered pattern handlers] method path = []) := by
  have listed : claimants [.add registered pattern handlers] method path =
      ([(registered, Route.ofText pattern handlers)].filter fun entry =>
        entry.1.serves method && entry.2.pattern.fits (Path.splitDecoded path)).map Prod.snd := rfl
  rw [claims_iff, listed]
  constructor
  · intro claims
    rw [List.filter_cons_of_pos]
    · rfl
    · exact claims
  · intro other
    rw [List.filter_cons_of_neg]
    · rfl
    · exact other

-- Where the route was inserted does not count: a decision reads its claimants in any order.
theorem claimants_inserted (before after : List (Registration ν)) (registered : RouteMethod)
    (pattern : String) (handlers : List (Handler ν)) (method : Method) (path : String) :
    (Claims registered pattern method path →
      (claimants (before ++ .add registered pattern handlers :: after) method path).Perm
        (.ofText pattern handlers :: claimants (before ++ after) method path)) ∧
    (¬ Claims registered pattern method path →
      claimants (before ++ .add registered pattern handlers :: after) method path =
        claimants (before ++ after) method path) := by
  have own := claimants_added registered pattern handlers method path
  rw [← List.singleton_append, claimants_append, claimants_append, claimants_append]
  constructor
  · intro claims
    rw [own.1 claims]
    exact List.perm_middle
  · intro other
    rw [own.2 other, List.nil_append]

namespace Router

structure Counted (method : Method) (path : String) (route : Route ν)
    (decided extended : Except Fault (Option (Match ν))) : Prop where
  fresh : decided = .ok none →
    extended = .ok (some ⟨route, route.pattern.extract (Path.splitDecoded path)⟩)
  second : ∀ found, decided = .ok (some found) →
    extended = .error (.ambiguousRoute method path 2)
  further : ∀ fault, decided = .error fault → ∃ count,
    fault = .ambiguousRoute method path count ∧
      extended = .error (.ambiguousRoute method path (count + 1))

theorem verdict_counted (method : Method) (path : String) (route : Route ν)
    (routes : List (Route ν)) :
    Counted method path route (verdict method path routes)
      (verdict method path (route :: routes)) := by
  match routes with
  | [] =>
      constructor
      · intro _
        rfl
      · rintro found ⟨⟩
      · rintro fault ⟨⟩
  | [old] =>
      constructor
      · rintro ⟨⟩
      · intro _ _
        rfl
      · rintro fault ⟨⟩
  | first :: second :: rest =>
      constructor
      · rintro ⟨⟩
      · rintro found ⟨⟩
      · rintro fault ⟨⟩
        exact ⟨_, rfl, rfl⟩

theorem find_unclaimed (before after : List (Registration ν)) (registered : RouteMethod)
    (pattern : String) (handlers : List (Handler ν)) (router extended : Router ν)
    (holds : router.Holds (before ++ after))
    (more : extended.Holds (before ++ .add registered pattern handlers :: after))
    (method : Method) (path : String) (other : ¬ Claims registered pattern method path) :
    extended.find method path = router.find method path := by
  rw [find_verdict router _ method path holds, find_verdict extended _ method path more,
    (claimants_inserted before after registered pattern handlers method path).2 other]

theorem find_counted (before after : List (Registration ν)) (registered : RouteMethod)
    (pattern : String) (handlers : List (Handler ν)) (router extended : Router ν)
    (holds : router.Holds (before ++ after))
    (more : extended.Holds (before ++ .add registered pattern handlers :: after))
    (method : Method) (path : String) (claims : Claims registered pattern method path) :
    Counted method path (.ofText pattern handlers) (router.find method path)
      (extended.find method path) := by
  have order := (claimants_inserted before after registered pattern handlers method path).1 claims
  rw [find_verdict router _ method path holds, find_verdict extended _ method path more,
    verdict_order method path _ _ order]
  exact verdict_counted method path _ _

theorem counted_found (method : Method) (path : String) (route : Route ν)
    (decided extended : Except Fault (Option (Match ν)))
    (counted : Counted method path route decided extended) (found : Match ν)
    (now : extended = .ok (some found)) : decided = .ok none ∧ found.route = route := by
  cases earlier : decided with
  | ok decision =>
      cases decision with
      | none =>
          have same := (counted.fresh earlier).symm.trans now
          cases same
          exact ⟨rfl, rfl⟩
      | some old =>
          have refused := (counted.second old earlier).symm.trans now
          cases refused
  | error fault =>
      obtain ⟨count, _, refused⟩ := counted.further fault earlier
      cases refused.symm.trans now

/-- A route more, at any place among accepted registrations. The requests it does not claim are
decided as before. Of those it claims, it is found for the ones that nothing was found for; what
was found is refused with two routes, and what was refused with one route more. So an old route is
found for no request that it was not found for before. -/
theorem find_extended (before after : List (Registration ν)) (registered : RouteMethod)
    (pattern : String) (handlers : List (Handler ν)) (router : Router ν)
    (built : ofRegistrations (before ++ after) = .ok router) (handled : handlers ≠ []) :
    ∃ extended,
      ofRegistrations (before ++ .add registered pattern handlers :: after) = .ok extended ∧
      ∀ method path,
        (¬ Claims registered pattern method path →
          extended.find method path = router.find method path) ∧
        (Claims registered pattern method path →
          Counted method path (.ofText pattern handlers) (router.find method path)
            (extended.find method path)) ∧
        ∀ found, extended.find method path = .ok (some found) →
          router.find method path = .ok (some found) ∨
            (router.find method path = .ok none ∧ Claims registered pattern method path ∧
              found.route = .ofText pattern handlers) := by
  have accepted := accepted_build (before ++ after) router built
  obtain ⟨extended, builtExtended⟩ := valid_build
    (before ++ .add registered pattern handlers :: after) (by
      intro registration member
      rcases List.mem_append.mp member with early | late
      · exact accepted registration (List.mem_append_left after early)
      · rcases List.mem_cons.mp late with same | late
        · subst same
          simpa [Registration.refusal] using handled
        · exact accepted registration (List.mem_append_right before late))
  have holds := built_holds _ router built
  have more := built_holds _ extended builtExtended
  refine ⟨extended, builtExtended, ?_⟩
  intro method path
  have unclaimed := find_unclaimed before after registered pattern handlers router extended holds
    more method path
  have counted := find_counted before after registered pattern handlers router extended holds more
    method path
  refine ⟨unclaimed, counted, ?_⟩
  intro found now
  by_cases claims : Claims registered pattern method path
  · obtain ⟨absent, own⟩ := counted_found method path _ _ _ (counted claims) found now
    exact Or.inr ⟨absent, claims, own⟩
  · exact Or.inl ((unclaimed claims).symm.trans now)

-- A route for every method that overlaps one of a single method, put between the two there were.
theorem overlap_inserted :
    let stay : Handler Unit := ⟨fun request response => ⟨[], .proceed request response⟩⟩
    let first : Registration Unit := .add (.only .get) "/a/:x" [stay]
    let last : Registration Unit := .named "*" "/c" stay
    ∃ router extended, ofRegistrations [first, last] = .ok router ∧
      ofRegistrations [first, .add .any "/a/b" [stay], last] = .ok extended ∧
      (∃ found, router.find .get "/a/b" = .ok (some found)) ∧
      extended.find .get "/a/b" = .error (.ambiguousRoute .get "/a/b" 2) ∧
      extended.find .get "/a/d" = router.find .get "/a/d" := by
  intro stay first last
  obtain ⟨extended, built, decided⟩ :=
    find_extended [first] [last] .any "/a/b" [stay] _ rfl (by simp)
  have claims : Claims .any "/a/b" .get "/a/b" := by decide
  have other : ¬ Claims .any "/a/b" .get "/a/d" := by decide
  refine ⟨_, extended, rfl, built, ⟨_, rfl⟩, ?_, ?_⟩
  · exact ((decided .get "/a/b").2.1 claims).second _ rfl
  · exact (decided .get "/a/d").1 other

end Router
end HttpRouter
