import HttpRouter.Proofs.Compilation
import HttpRouter.Proofs.Decision
import HttpRouter.Proofs.Positions

/-!
Scopes and the routes below them. A path that fits a route meets every segment of a scope above the
route, as far as the path goes. So the length alone decides whether the scope covers it. Only a
route that ends in an optional segment takes paths that are shorter than itself, and among those
are the paths that are too short for the scope.
-/

namespace HttpRouter
variable {ν : Type}

namespace Pattern

theorem accepts_prefix (segments more : List Segment) (pieces : List String)
    (accepted : ((segments ++ more).zip pieces).all (fun slot => slot.1.accepts slot.2) = true) :
    (segments.zip pieces).all (fun slot => slot.1.accepts slot.2) = true := by
  induction segments generalizing pieces with
  | nil => rfl
  | cons segment rest ih =>
      cases pieces with
      | nil => rfl
      | cons piece pieces =>
          simp only [List.cons_append, List.zip_cons_cons, List.all_cons, Bool.and_eq_true]
            at accepted ⊢
          exact ⟨accepted.1, ih pieces accepted.2⟩

theorem accepts_moved (pattern : String) (segments : List Segment) (pieces : List String) :
    ((segments.map (Segment.moved pattern)).zip pieces).all (fun slot => slot.1.accepts slot.2) =
      (segments.zip pieces).all fun slot => slot.1.accepts slot.2 := by
  simp only [List.zip_map_left, List.all_map, Function.comp_def, Prod.map_fst, Prod.map_snd,
    Segment.accepts_moved, id_eq]

/-- A path that fits a pattern is covered by a scope above it, unless it is too short for it. -/
theorem covers_above (scope : String) (pattern : Pattern) (nested : Path.clean scope ≠ Path.root)
    (below : Path.Below scope pattern.text) (pieces : List String)
    (fits : pattern.fits pieces = true) :
    (ofText scope).covers pieces = true ↔ (Segment.compile scope).length ≤ pieces.length := by
  have accepted : (ofText scope).acceptsPieces pieces = true := by
    obtain ⟨more, segments⟩ := Segment.compile_below scope pattern.text nested below
    rw [← pattern.compiled] at segments
    simp only [Pattern.fits, acceptsPieces, Bool.and_eq_true, ← segments] at fits
    have front := accepts_prefix _ _ _ fits.2
    rw [accepts_moved] at front
    rw [acceptsPieces, segments_ofText]
    exact front
  rw [covers, accepted, Bool.and_true, decide_eq_true_iff, segments_ofText]

theorem above_length (scope : String) (pattern : Pattern) (nested : Path.clean scope ≠ Path.root)
    (below : Path.Below scope pattern.text) :
    (Segment.compile scope).length ≤ pattern.segments.length := by
  have bound := (Segment.compile_below scope pattern.text nested below).length_le
  rw [List.length_map, ← pattern.compiled] at bound
  exact bound

end Pattern

namespace Middleware

theorem within_covers (scope : String) (handler : Handler ν)
    (nested : Path.clean scope ≠ Path.root) (pieces : List String) :
    (within scope handler).appliesTo pieces = (Pattern.ofText scope).covers pieces := by
  rw [within, if_neg nested]
  rfl

theorem within_handler (scope : String) (handler : Handler ν) :
    (within scope handler).handler = handler := by
  unfold within
  split <;> rfl

end Middleware

namespace Router

theorem applying_before (router : Router ν) (registrations : List (Registration ν))
    (holds : router.Holds registrations) (middleware : Middleware ν)
    (registered : .middleware middleware ∈ registrations) (pieces : List String)
    (applies : middleware.appliesTo pieces = true) (route : Route ν) :
    ∃ before between,
      router.chain pieces route = before ++ middleware.handler :: (between ++ route.handlers) := by
  have collected : middleware ∈ registrations.filterMap Registration.middleware? :=
    List.mem_filterMap.mpr ⟨_, registered, rfl⟩
  have ahead : middleware ∈ router.globalMiddleware ++ router.applicable pieces := by
    rw [List.mem_append, holds.globalOnes, applicable, holds.scopedOnes]
    by_cases everywhere : middleware.isGlobal = true
    · exact Or.inl (List.mem_filter.mpr ⟨collected, everywhere⟩)
    · exact Or.inr (List.mem_filter.mpr
        ⟨List.mem_filter.mpr ⟨collected, by simpa using everywhere⟩, applies⟩)
  obtain ⟨before, between, parted⟩ := List.append_of_mem ahead
  refine ⟨before.map Middleware.handler, between.map Middleware.handler, ?_⟩
  simp [chain, parted]

/-- A middleware with a scope, a route at or below it, and a path that fits the route: the
middleware applies exactly to the paths that have a piece for every segment of its scope. A path
falls short of that only if the route ends in an optional segment. Where the middleware applies,
the handlers of the route come after it. -/
theorem scope_precedes_route (registrations : List (Registration ν)) (router : Router ν)
    (built : ofRegistrations registrations = .ok router) (scope : String) (guard : Handler ν)
    (registered : .middleware (.within scope guard) ∈ registrations)
    (nested : Path.clean scope ≠ Path.root) (route : Route ν)
    (below : Path.Below scope route.pattern.text) (request : Request)
    (fits : route.pattern.fits (Path.splitDecoded request.uri.path) = true) :
    let pieces := Path.splitDecoded request.uri.path
    let applies := (Middleware.within scope guard).appliesTo pieces = true
    (applies ↔ (Segment.compile scope).length ≤ pieces.length) ∧
    (route.pattern.ending ≠ some .optional → applies) ∧
    (applies →
      ∃ before between,
        router.chain pieces route = before ++ guard :: (between ++ route.handlers) ∧
        ∀ params, router.find request.method request.uri.path = .ok (some ⟨route, params⟩) →
          Threaded (before ++ guard :: (between ++ route.handlers)) (ready request params) .blank
            (router.dispatch request).calls) := by
  have holds := built_holds registrations router built
  have covered := route.pattern.covers_above scope nested below _ fits
  rw [← Middleware.within_covers scope guard nested] at covered
  refine ⟨covered, ?_, ?_⟩
  · intro closed
    have bound := route.pattern.above_length scope nested below
    have reached := route.pattern.fits_length _ closed fits
    exact covered.mpr (Nat.le_trans bound reached)
  · intro applies
    obtain ⟨before, between, composed⟩ :=
      applying_before router registrations holds _ registered _ applies route
    rw [Middleware.within_handler] at composed
    refine ⟨before, between, composed, ?_⟩
    intro params finds
    have dispatched := dispatch_find router request
    simp only [finds] at dispatched
    rw [dispatched, ← composed]
    exact matchedRun_threaded router request ⟨route, params⟩

-- The optional segment is missing, but the path still has a piece for every segment of the scope.
theorem scope_before_missing_optional :
    let guard : Handler Unit := ⟨fun request response => ⟨[], .proceed request response⟩⟩
    let finish : Handler Unit := ⟨fun _ response => ⟨[], .complete (response.withBody "open")⟩⟩
    let registrations : List (Registration Unit) :=
      [.add (.only .get) "/x/y/:z?" [finish], .middleware (.within "/x/y/" guard)]
    let request : Request := { (default : Request) with uri := ⟨none, none, "/x/y", none⟩ }
    ∃ router, ofRegistrations registrations = .ok router ∧
      (Middleware.within "/x/y/" guard).appliesTo (Path.splitDecoded request.uri.path) = true ∧
      ∃ before between,
        router.chain (Path.splitDecoded request.uri.path) (.ofText "/x/y/:z?" [finish]) =
          before ++ guard :: (between ++ [finish]) := by
  intro guard finish registrations request
  obtain ⟨covered, _, precedes⟩ :=
    scope_precedes_route registrations _ rfl "/x/y/" guard (by simp [registrations]) (by decide)
      (.ofText "/x/y/:z?" [finish]) (Or.inr ⟨":z?", by decide⟩) request (by decide)
  have applies := covered.mpr (by decide)
  obtain ⟨before, between, composed, _⟩ := precedes applies
  exact ⟨_, rfl, applies, before, between, composed⟩

-- The path is shorter than the scope, and the optional end of the route still takes it: the handler
-- of the route is the only one that is called.
theorem short_path_leaves_scope :
    let guard : Handler Unit := ⟨fun request response => ⟨[], .proceed request response⟩⟩
    let finish : Handler Unit := ⟨fun _ response => ⟨[], .complete (response.withBody "open")⟩⟩
    let registrations : List (Registration Unit) :=
      [.middleware (.within "/x/y" guard), .add (.only .get) "/x/y/:z?" [finish]]
    let request : Request := { (default : Request) with uri := ⟨none, none, "/x", none⟩ }
    let route : Route Unit := .ofText "/x/y/:z?" [finish]
    ∃ router, ofRegistrations registrations = .ok router ∧
      Path.clean "/x/y" ≠ Path.root ∧ Path.Below "/x/y" route.pattern.text ∧
      route.pattern.fits (Path.splitDecoded request.uri.path) = true ∧
      (Middleware.within "/x/y" guard).appliesTo (Path.splitDecoded request.uri.path) = false ∧
      (router.dispatch request).calls.length = 1 ∧
      (router.dispatch request).answer = .response ⟨⟨200⟩, Headers.empty, "open"⟩ := by
  intro guard finish registrations request route
  refine ⟨_, rfl, by decide, Or.inr ⟨":z?", by decide⟩, by decide, by decide, by decide, by decide⟩

end Router
end HttpRouter
