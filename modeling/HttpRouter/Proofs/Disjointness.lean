import HttpRouter.Apps.Orders
import HttpRouter.Apps.Shelves
import HttpRouter.Apps.Site
import HttpRouter.Proofs.Decision
import HttpRouter.Proofs.Positions

/-!
Routes that exclude each other. Two patterns with different static texts at one position share no
path, if one of them makes every path reach that position. Where all the routes of a table exclude
each other in this way, or by their methods, no request is claimed twice. The criterion is decided
on the segments alone, and the routers of the applications meet it.
-/

namespace HttpRouter
variable {ν : Type}

namespace Pattern

/-- Two patterns with different static texts at one position, of which at most one ends in an
optional segment. -/
def Apart (left right : Pattern) : Prop :=
  (∃ slot ∈ left.segments.zip right.segments,
    slot.1.kind = .static ∧ slot.2.kind = .static ∧ slot.1.value ≠ slot.2.value) ∧
  (left.ending ≠ some .optional ∨ right.ending ≠ some .optional)

instance (left right : Pattern) : Decidable (Apart left right) :=
  inferInstanceAs (Decidable (_ ∧ _))

theorem static_met (pattern : Pattern) (pieces : List String) (position : Nat) (segment : Segment)
    (listed : pattern.segments[position]? = some segment) (static : segment.kind = .static)
    (reached : position < pieces.length) (fits : pattern.fits pieces = true) :
    pieces[position]? = some segment.value := by
  have met := List.getElem?_eq_getElem reached
  have accepted := (pattern.acceptsPieces_iff pieces).mp ((pattern.fits_iff pieces).mp fits).2
    position segment _ listed met
  rw [Segment.accepts, static, beq_iff_eq] at accepted
  rw [met, accepted]

-- A pattern that does not end in an optional segment takes no path that stops in front of the
-- position where the two differ. A last wildcard only adds pieces behind it.
theorem apart_exclude (left right : Pattern) (apart : left.Apart right) (pieces : List String)
    (fits : left.fits pieces = true) : ¬ right.fits pieces = true := by
  intro fitsOther
  obtain ⟨⟨slot, member, static, staticOther, differ⟩, closed⟩ := apart
  obtain ⟨position, found⟩ := List.mem_iff_getElem?.mp member
  obtain ⟨listed, listedOther⟩ := List.getElem?_zip_eq_some.mp found
  have reached : position < pieces.length := by
    rcases closed with closedLeft | closedRight
    · obtain ⟨bound, _⟩ := List.getElem?_eq_some_iff.mp listed
      exact Nat.lt_of_lt_of_le bound (left.fits_length pieces closedLeft fits)
    · obtain ⟨bound, _⟩ := List.getElem?_eq_some_iff.mp listedOther
      exact Nat.lt_of_lt_of_le bound (right.fits_length pieces closedRight fitsOther)
  have met := left.static_met pieces position _ listed static reached fits
  have metOther := right.static_met pieces position _ listedOther staticOther reached fitsOther
  exact differ (Option.some.inj (met.symm.trans metOther))

-- Two optional endings: the path stops in front of the position where the texts differ.
example : (ofText "/x/a/:p?").fits ["x"] = true ∧ (ofText "/x/b/:q?").fits ["x"] = true := by
  decide

end Pattern

namespace Table

/-- Two routes that no request can take both: their patterns are apart, or each is registered for a
method of its own. -/
def Exclusive (first second : RouteMethod × Route ν) : Prop :=
  first.2.pattern.Apart second.2.pattern ∨
    (first.1 ≠ .any ∧ second.1 ≠ .any ∧ first.1 ≠ second.1)

instance (first second : RouteMethod × Route ν) : Decidable (Exclusive first second) :=
  inferInstanceAs (Decidable (_ ∨ _))

theorem bucket_sublist (method : Method) (buckets : List (Method × List (Route ν))) :
    ((bucket method buckets).map fun route => (RouteMethod.only method, route)).Sublist
      (buckets.flatMap fun (method, routes) => routes.map fun route => (.only method, route)) := by
  induction buckets with
  | nil => exact List.Sublist.refl []
  | cons entry rest ih =>
      obtain ⟨other, routes⟩ := entry
      rw [List.flatMap_cons, bucket]
      split
      · next same =>
          subst same
          exact List.sublist_append_left _ _
      · exact ih.trans (List.sublist_append_right _ _)

def serving (table : Table ν) (method : Method) : List (RouteMethod × Route ν) :=
  ((bucket method table.byMethod).map fun route => (.only method, route)) ++
    table.anyMethod.map fun route => (.any, route)

theorem serving_lookup (table : Table ν) (method : Method) :
    (table.serving method).map Prod.snd = table.lookup method := by
  simp [serving, lookup, Function.comp_def]

theorem serving_sublist (table : Table ν) (method : Method) :
    (table.serving method).Sublist table.entries :=
  (bucket_sublist method table.byMethod).append (List.Sublist.refl _)

theorem serving_method (table : Table ν) (method : Method) (entry : RouteMethod × Route ν)
    (member : entry ∈ table.serving method) : entry.1 = .any ∨ entry.1 = .only method := by
  rcases List.mem_append.mp member with own | every
  · obtain ⟨route, _, rfl⟩ := List.mem_map.mp own
    exact Or.inr rfl
  · obtain ⟨route, _, rfl⟩ := List.mem_map.mp every
    exact Or.inl rfl

-- Among the routes for one method, the methods exclude nothing, so the patterns must.
theorem serving_apart (table : Table ν) (exclusive : table.entries.Pairwise Exclusive)
    (method : Method) : (table.lookup method).Pairwise fun first second =>
      first.pattern.Apart second.pattern := by
  rw [← serving_lookup, List.pairwise_map]
  refine (exclusive.sublist (table.serving_sublist method)).imp_of_mem ?_
  intro first second member memberOther excluded
  rcases excluded with apart | ⟨single, singleOther, differ⟩
  · exact apart
  · have own := (table.serving_method method first member).resolve_left single
    have ownOther := (table.serving_method method second memberOther).resolve_left singleOther
    exact absurd (own.trans ownOther.symm) differ

theorem apart_alone (routes : List (Route ν)) (pieces : List String)
    (apart : routes.Pairwise fun first second => first.pattern.Apart second.pattern) :
    (routes.filter fun route => route.pattern.fits pieces).length ≤ 1 := by
  induction routes with
  | nil => exact Nat.zero_le 1
  | cons route rest ih =>
      obtain ⟨others, tail⟩ := List.pairwise_cons.mp apart
      by_cases fits : route.pattern.fits pieces = true
      · have alone : rest.filter (fun other => other.pattern.fits pieces) = [] := by
          rw [List.filter_eq_nil_iff]
          intro other member
          exact route.pattern.apart_exclude other.pattern (others other member) pieces fits
        rw [List.filter_cons, if_pos fits, alone]
        exact Nat.le_refl 1
      · rw [List.filter_cons, if_neg fits]
        exact ih tail

end Table

namespace Router

/-- No request is claimed by several routes: finding never fails, and no dispatch is refused. -/
def Unambiguous (router : Router ν) : Prop :=
  (∀ method path, ∃ found, router.find method path = .ok found) ∧
    ∀ request fault, (router.dispatch request).answer ≠ .refused fault

theorem verdict_alone (method : Method) (path : String) (routes : List (Route ν))
    (alone : routes.length ≤ 1) : ∃ found, verdict method path routes = .ok found := by
  match routes, alone with
  | [], _ => exact ⟨none, rfl⟩
  | [_], _ => exact ⟨some _, rfl⟩
  | _ :: _ :: _, several => simp at several

theorem found_unrefused (router : Router ν) (request : Request)
    (found : Option (Match ν)) (finds : router.find request.method request.uri.path = .ok found)
    (fault : Fault) : (router.dispatch request).answer ≠ .refused fault := by
  intro refused
  have dispatched := dispatch_find router request
  cases found with
  | none =>
      simp only [finds] at dispatched
      rw [dispatched] at refused
      cases refused
  | some found =>
      simp only [finds] at dispatched
      rw [dispatched] at refused
      rcases matchedRun_answer router request found with ⟨response, answer⟩ | ⟨_, _, _, _, answer⟩
      · cases answer.symm.trans refused
      · cases answer.symm.trans refused

theorem exclusive_unambiguous (router : Router ν)
    (exclusive : router.table.entries.Pairwise Table.Exclusive) : router.Unambiguous := by
  have finds : ∀ method path, ∃ found, router.find method path = .ok found := by
    intro method path
    have alone := Table.apart_alone (router.table.lookup method) (Path.splitDecoded path)
      (router.table.serving_apart exclusive method)
    rw [find_candidates]
    exact verdict_alone method path _ alone
  refine ⟨finds, ?_⟩
  intro request fault
  obtain ⟨found, decided⟩ := finds request.method request.uri.path
  exact found_unrefused router request found decided fault

/-- Patterns that are apart share no path, so a router whose routes all exclude each other finds at
most one of them for any request. The routers of the three applications are of this kind. -/
theorem apart_never_ambiguous :
    (∀ left right : Pattern, left.Apart right → ∀ path,
      ¬ (left.fits (Path.splitDecoded path) = true ∧
        right.fits (Path.splitDecoded path) = true)) ∧
    (∀ router : Router ν, router.table.entries.Pairwise Table.Exclusive → router.Unambiguous) ∧
    (∃ site, Apps.Site.router = .ok site ∧ site.Unambiguous) ∧
    (∃ shelves, Apps.Shelves.router = .ok shelves ∧ shelves.Unambiguous) ∧
    ∃ orders, Apps.Orders.router = .ok orders ∧ orders.Unambiguous := by
  refine ⟨?_, exclusive_unambiguous, ?_, ?_, ?_⟩
  · rintro left right apart path ⟨fits, fitsOther⟩
    exact left.apart_exclude right apart _ fits fitsOther
  · exact ⟨_, rfl, exclusive_unambiguous _ (by decide)⟩
  · exact ⟨_, rfl, exclusive_unambiguous _ (by decide)⟩
  · exact ⟨_, rfl, exclusive_unambiguous _ (by decide)⟩

-- Two patterns that overlap have a method each. The wildcard, for every method, is apart from both.
theorem overlap_by_method_unambiguous :
    let stay : Handler Unit := ⟨fun request response => ⟨[], .proceed request response⟩⟩
    let registrations : List (Registration Unit) :=
      [.add (.only .get) "/a/:x?" [stay], .named "*" "/b/*" stay,
        .add (.only .post) "/a/c/:y?" [stay]]
    ∃ router, ofRegistrations registrations = .ok router ∧
      router.table.entries.Pairwise Table.Exclusive ∧ router.Unambiguous := by
  intro stay registrations
  have exclusive : ((Draft.empty.collect registrations).router).table.entries.Pairwise
      Table.Exclusive := by decide
  obtain ⟨_, unambiguous, _⟩ := @apart_never_ambiguous Unit
  exact ⟨_, rfl, exclusive, unambiguous _ exclusive⟩

end Router
end HttpRouter
