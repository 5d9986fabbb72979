import HttpRouter.Proofs.Attachments
import HttpRouter.Proofs.Positions

/-!
What a match hands to its handlers. A name is collected exactly if a position fills it, and its
value is what the last such position met; a wildcard at the end takes the piece at its own position
and nothing of what it absorbs. A parameter that the path reaches is always collected. Only where
the pattern ends in an optional segment can a path end before one of the parameters.
-/

namespace HttpRouter
variable {ν : Type}

namespace Pattern

theorem extract_has (pattern : Pattern) (pieces : List String) (name : String) :
    (pattern.extract pieces).has name = true ↔
      ∃ position value, pattern.Fills pieces name position value := by
  rw [Params.has_iff, ← Option.ne_none_iff_exists', Ne, extract_none]
  simp only [Classical.not_forall, Classical.not_not]

theorem wildcard_met (pattern : Pattern) (pieces : List String) (wildcard : Segment)
    (ends : pattern.segments.getLast? = some wildcard) (kind : wildcard.kind = .wildcard)
    (fits : pattern.fits pieces = true) :
    ∃ piece, pieces[pattern.segments.length - 1]? = some piece ∧
      (piece ≠ "" → piece ≠ "/" → (pattern.extract pieces).get? wildcard.value = some piece) := by
  have closed : pattern.ending ≠ some .optional := by simp [ending, ends, kind]
  have long := pattern.fits_length pieces closed fits
  rw [List.getLast?_eq_getElem?] at ends
  have bound := (List.getElem?_eq_some_iff.mp ends).1
  have reached : pattern.segments.length - 1 < pieces.length := by omega
  refine ⟨_, List.getElem?_eq_getElem reached, fun someText noGap => ?_⟩
  refine (pattern.get?_extract _ _ _).mpr ⟨pattern.segments.length - 1, ?_, ?_⟩
  · exact ⟨⟨wildcard, ends, by simp [kind], rfl⟩, List.getElem?_eq_getElem reached, someText, noGap⟩
  · rintro later other behind ⟨⟨segment, listed, _⟩, _⟩
    have beyond := (List.getElem?_eq_some_iff.mp listed).1
    omega

theorem extract_absorbed (pattern : Pattern) (pieces further : List String)
    (long : pattern.segments.length ≤ pieces.length) :
    pattern.extract (pieces.take pattern.segments.length ++ further) = pattern.extract pieces := by
  have front : ∀ more, pattern.segments.zip (pieces.take pattern.segments.length ++ more) =
      pattern.segments.zip (pieces.take pattern.segments.length) := by
    intro more
    have even : pattern.segments.length = (pieces.take pattern.segments.length).length := by
      simp [long]
    have parted : (pattern.segments ++ []).zip (pieces.take pattern.segments.length ++ more) =
        pattern.segments.zip (pieces.take pattern.segments.length) ++ [].zip more :=
      List.zip_append even
    rwa [List.append_nil, List.zip_nil_left, List.append_nil] at parted
  have whole := front (pieces.drop pattern.segments.length)
  rw [List.take_append_drop] at whole
  rw [extract, extract, front further, whole]

/-- A name is collected exactly if a position fills it, with what the last such position met, and
nothing else is collected. A wildcard at the end takes the piece at its own position, whatever
follows that piece. -/
theorem extract_exact (pattern : Pattern) (path : String) :
    let pieces := Path.splitDecoded path
    let params := pattern.extract pieces
    (∀ name, params.has name = true ↔
      ∃ position value, pattern.Fills pieces name position value) ∧
    (∀ name value, params.get? name = some value ↔
      ∃ position, pattern.Fills pieces name position value ∧
        ∀ later other, position < later → ¬ pattern.Fills pieces name later other) ∧
    (∀ name value, (name, value) ∈ params.toList →
      ∃ position, pattern.Fills pieces name position value) ∧
    (pattern.fits pieces = true →
      ∀ wildcard, pattern.segments.getLast? = some wildcard → wildcard.kind = .wildcard →
        (∃ piece, pieces[pattern.segments.length - 1]? = some piece ∧
          (piece ≠ "" → piece ≠ "/" → params.get? wildcard.value = some piece)) ∧
        ∀ further, pattern.extract (pieces.take pattern.segments.length ++ further) = params) := by
  intro pieces params
  refine ⟨pattern.extract_has pieces, pattern.get?_extract pieces, ?_, ?_⟩
  · intro name value member
    obtain ⟨position, fills, _⟩ :=
      (pattern.get?_extract pieces name value).mp ((params.mem_toList name value).mp member)
    exact ⟨position, fills⟩
  · intro fits wildcard ends kind
    have closed : pattern.ending ≠ some .optional := by simp [ending, ends, kind]
    exact ⟨pattern.wildcard_met pieces wildcard ends kind fits, fun further =>
      pattern.extract_absorbed pieces further (pattern.fits_length pieces closed fits)⟩

theorem parameter_collected (pattern : Pattern) (pieces : List String)
    (fits : pattern.fits pieces = true) (position : Nat) (segment : Segment)
    (listed : pattern.segments[position]? = some segment) (required : segment.kind = .parameter)
    (reached : position < pieces.length) :
    ∃ value, (pattern.extract pieces).get? segment.value = some value ∧
      value ≠ "" ∧ value ≠ "/" := by
  have met : pieces[position]? = some pieces[position] := List.getElem?_eq_getElem reached
  have accepted := (pattern.acceptsPieces_iff pieces).mp ((pattern.fits_iff pieces).mp fits).2
    position segment _ listed met
  have filled : pieces[position] ≠ "" ∧ pieces[position] ≠ "/" := by
    rw [← not_or, ← Path.placeholder_iff]
    simpa [Segment.accepts, required] using accepted
  have collected : (pattern.extract pieces).get? segment.value ≠ none := by
    intro none
    refine (pattern.extract_none pieces segment.value).mp none position pieces[position] ?_
    exact ⟨⟨segment, listed, by simp [required], rfl⟩, met, filled.1, filled.2⟩
  -- The value is that of the last position with the name, which need not be this one.
  obtain ⟨value, held⟩ := Option.ne_none_iff_exists'.mp collected
  obtain ⟨_, fills, _⟩ := (pattern.get?_extract pieces _ value).mp held
  exact ⟨value, held, fills.someText, fills.noGap⟩

theorem unreached_optional (pattern : Pattern) (pieces : List String)
    (fits : pattern.fits pieces = true) (position : Nat) (segment : Segment)
    (listed : pattern.segments[position]? = some segment) (unreached : pieces.length ≤ position) :
    pieces.length < pattern.segments.length ∧ pattern.ending = some .optional := by
  have bound := (List.getElem?_eq_some_iff.mp listed).1
  have shorter : pieces.length < pattern.segments.length := by omega
  refine ⟨shorter, Classical.byContradiction fun closed => ?_⟩
  have long := pattern.fits_length pieces closed fits
  omega

end Pattern

namespace Router

/-- A parameter that the path of a match reaches is collected, and not as an empty text. Every
parameter is reached unless the route ends in an optional segment and the path has fewer pieces
than the route has segments. -/
theorem reached_parameters_collected (router : Router ν) (method : Method) (path : String)
    (found : Match ν) (finds : router.find method path = .ok (some found)) (position : Nat)
    (segment : Segment) (listed : found.route.pattern.segments[position]? = some segment)
    (required : segment.kind = .parameter) :
    let pieces := Path.splitDecoded path
    let pattern := found.route.pattern
    (position < pieces.length →
      ∃ value, found.params.get? segment.value = some value ∧ value ≠ "" ∧ value ≠ "/") ∧
    (pieces.length ≤ position →
      pieces.length < pattern.segments.length ∧ pattern.ending = some .optional) := by
  intro pieces pattern
  obtain ⟨_, fits, extracted⟩ := find_candidate router method path found finds
  constructor
  · intro reached
    rw [extracted]
    exact pattern.parameter_collected pieces fits position segment listed required reached
  · intro unreached
    exact pattern.unreached_optional pieces fits position segment listed unreached

-- The name stands twice, an inner optional segment meets a gap, and the last one meets nothing.
theorem repeated_parameter_collected :
    let stay : Handler Unit := ⟨fun request response => ⟨[], .proceed request response⟩⟩
    let registrations : List (Registration Unit) :=
      [.add (.only .get) "/:a/:b?/:a/:c?" [stay]]
    ∃ router found, ofRegistrations registrations = .ok router ∧
      router.find .get "/1//2" = .ok (some found) ∧
      found.route.pattern.segments[0]? = some ⟨"/:a/:b?/:a/:c?", .parameter, "a"⟩ ∧
      ∃ value, found.params.get? "a" = some value ∧ value ≠ "" ∧ value ≠ "/" := by
  intro stay registrations
  obtain ⟨router, found, built, finds, listed⟩ : ∃ router found,
      ofRegistrations registrations = .ok router ∧ router.find .get "/1//2" = .ok (some found) ∧
      found.route.pattern.segments[0]? = some ⟨"/:a/:b?/:a/:c?", .parameter, "a"⟩ :=
    ⟨_, _, rfl, rfl, by decide⟩
  obtain ⟨collected, _⟩ :=
    reached_parameters_collected router .get "/1//2" found finds 0 _ listed rfl
  exact ⟨router, found, built, finds, listed, collected (by decide)⟩

-- The path ends before the parameter, and the optional end of the route still takes it.
theorem short_path_lacks_parameter :
    let stay : Handler Unit := ⟨fun request response => ⟨[], .proceed request response⟩⟩
    let registrations : List (Registration Unit) := [.add (.only .get) "/x/:y/:z?" [stay]]
    ∃ router found, ofRegistrations registrations = .ok router ∧
      router.find .get "/x" = .ok (some found) ∧
      ⟨"/x/:y/:z?", .parameter, "y"⟩ ∈ found.route.pattern.segments ∧
      found.params.get? "y" = none := by
  intro stay registrations
  exact ⟨_, _, rfl, rfl, by decide, by decide⟩

end Router
end HttpRouter
