import HttpRouter.Proofs.Attachments
import HttpRouter.Proofs.Likeness

/-!
The decision of a dispatch is taken once. Which entry of a chain is offered the request next is
settled by the method and the path that the dispatch started with. What an earlier entry wrote into
the request it handed on has no part in it, and as long as the attachment is handed on, it has no
part in what the later entries read either.
-/

namespace HttpRouter
variable {ν : Type}

/-- Everybody before a position hands on. -/
def PassedTo (calls : List (Call ν)) (position : Nat) : Prop :=
  ∀ before, before < position → ∃ call, calls[before]? = some call ∧ call.HandsOn

theorem related_positions {α β : Type} {relate : α → β → Prop} {left : List α} {right : List β}
    (each : List.Forall₂ relate left right) (position : Nat) :
    Option.Rel relate left[position]? right[position]? := by
  induction each generalizing position with
  | nil => exact .none
  | cons head _ ih =>
      cases position with
      | zero => exact .some head
      | succ position => simpa using ih position

theorem related_mapped {α β γ δ : Type} {relate : γ → δ → Prop} (left : α → γ) (right : β → δ)
    {first : Option α} {second : Option β}
    (related : Option.Rel relate (first.map left) (second.map right)) :
    Option.Rel (fun one other => relate (left one) (right other)) first second := by
  cases first with
  | none =>
      cases second with
      | none => exact .none
      | some other => cases related
  | some one =>
      cases second with
      | none => cases related
      | some other =>
          cases related with
          | some related => exact .some related

namespace Threaded
variable {chain : List (Handler ν)} {request : Request} {response : Response}
  {calls : List (Call ν)}

theorem offered (threaded : Threaded chain request response calls) (position : Nat)
    (passed : PassedTo calls position) :
    calls[position]?.map Call.handler = chain[position]? := by
  obtain ⟨uncalled, whole⟩ := threaded.inOrder
  by_cases bound : position < chain.length
  · have called := (threaded.reached position bound).mpr passed
    rw [← whole, List.getElem?_append_left (by simpa using called), List.getElem?_map]
  · have beyond : calls.length ≤ position := by
      have lengths := congrArg List.length whole
      rw [List.length_append, List.length_map] at lengths
      omega
    rw [List.getElem?_eq_none beyond, List.getElem?_eq_none (Nat.le_of_not_lt bound),
      Option.map_none]

theorem offered_related {relate : Handler ν → Handler ν → Prop} {others : List (Handler ν)}
    {otherRequest : Request} {otherResponse : Response} {otherCalls : List (Call ν)}
    (threaded : Threaded chain request response calls)
    (otherThreaded : Threaded others otherRequest otherResponse otherCalls)
    (each : List.Forall₂ relate chain others) (position : Nat)
    (passed : PassedTo calls position) (otherPassed : PassedTo otherCalls position) :
    Option.Rel (fun call otherCall => relate call.handler otherCall.handler)
      calls[position]? otherCalls[position]? := by
  have entries := related_positions each position
  rw [← threaded.offered position passed, ← otherThreaded.offered position otherPassed] at entries
  exact related_mapped Call.handler Call.handler entries

theorem kept_reads (threaded : Threaded chain request response calls) (target : Target)
    (aimed : request.target = some target) (position : Nat) (first later : Call ν)
    (opening : calls[0]? = some first) (found : calls[position]? = some later)
    (kept : KeptTo calls position) : first.request.ReadsAlike later.request := by
  rw [(threaded.opening first opening).1]
  exact Request.attached_reads request later.request target aimed
    (threaded.kept_attached position later found kept)

end Threaded

namespace Router

/-- A request with a single claimant is offered to the entries of one chain, which the method and
the path of the request settle. So with whatever handlers in the same places, two requests of one
method and path are offered to the same places, whatever the handlers wrote. And as long as what
is attached is handed on, everybody reads the same. -/
theorem decision_taken_once (registrations : List (Registration ν)) (router : Router ν)
    (built : ofRegistrations registrations = .ok router) (request : Request)
    (single : (claimants registrations request.method request.uri.path).length = 1) :
    let run := router.dispatch request
    (∃ found, router.find request.method request.uri.path = .ok (some found) ∧
      ∀ position, PassedTo run.calls position →
        run.calls[position]?.map Call.handler =
          (router.chain (Path.splitDecoded request.uri.path) found.route)[position]?) ∧
    (∀ relate : Handler ν → Handler ν → Prop, ∀ others,
      List.Forall₂ (Registration.Pointwise relate) registrations others →
      ∃ other, ofRegistrations others = .ok other ∧
        ∀ otherRequest, otherRequest.method = request.method →
          otherRequest.uri.path = request.uri.path →
          let otherRun := other.dispatch otherRequest
          ∀ position, PassedTo run.calls position → PassedTo otherRun.calls position →
            Option.Rel (fun call otherCall : Call ν => relate call.handler otherCall.handler)
              run.calls[position]? otherRun.calls[position]?) ∧
    ∀ position, ∀ first later : Call ν, run.calls[0]? = some first →
      run.calls[position]? = some later →
      KeptTo run.calls position → first.request.ReadsAlike later.request := by
  have holds := built_holds registrations router built
  obtain ⟨route, _, finds⟩ :=
    find_single router registrations request.method request.uri.path holds single
  have dispatched := dispatch_find router request
  simp only [finds] at dispatched
  have threaded := router.matchedRun_threaded request
    ⟨route, route.pattern.extract (Path.splitDecoded request.uri.path)⟩
  dsimp only
  rw [dispatched]
  refine ⟨⟨_, finds, ?_⟩, ?_, ?_⟩
  · intro position passed
    exact threaded.offered position passed
  · intro relate others each
    obtain ⟨other, otherBuilt⟩ := pointwise_built each built
    have otherHolds := built_holds others other otherBuilt
    obtain ⟨otherFound, otherFinds, _, routes⟩ := pointwise_find each holds otherHolds _ _ _ finds
    refine ⟨other, otherBuilt, ?_⟩
    intro otherRequest method path position passed otherPassed
    have otherDispatched := dispatch_find other otherRequest
    rw [method, path] at otherDispatched
    simp only [otherFinds] at otherDispatched
    rw [otherDispatched] at otherPassed ⊢
    have otherThreaded := other.matchedRun_threaded otherRequest otherFound
    rw [path] at otherThreaded
    exact threaded.offered_related otherThreaded
      (pointwise_chain each holds otherHolds routes _) position passed otherPassed
  · exact threaded.kept_reads _ (ready_target request _)

-- The first entry writes a URI into the request that another route claims and a scope covers. The
-- next entry is still the handler of the route that was found, and reads the path it was found by.
theorem rewritten_uri_unread :
    let rewrite : Handler Unit := ⟨fun request response =>
      ⟨[], .proceed { request with uri := ⟨none, none, "/b/d", none⟩ } response⟩⟩
    let stop : Handler Unit := ⟨fun _ response => ⟨[], .complete (response.withBody "b")⟩⟩
    let last : Handler Unit := ⟨fun _ response => ⟨[], .complete (response.withBody "a")⟩⟩
    let registrations : List (Registration Unit) :=
      [.middleware (.within "/b" stop), .middleware (.everywhere rewrite),
        .add .any "/a/:x" [last], .add .any "/b/:x" [stop]]
    let request : Request := { (default : Request) with uri := ⟨none, none, "/a/c", none⟩ }
    ∃ router first later, ofRegistrations registrations = .ok router ∧
      (claimants registrations request.method request.uri.path).length = 1 ∧
      (router.dispatch request).calls = [first, later] ∧ first.handler = rewrite ∧
      later.request.uri.path = "/b/d" ∧ later.request.path = "/a/c" ∧
      first.request.ReadsAlike later.request := by
  intro rewrite stop last registrations request
  have single : (claimants registrations request.method request.uri.path).length = 1 := by decide
  obtain ⟨router, built⟩ : ∃ router, ofRegistrations registrations = .ok router := ⟨_, rfl⟩
  obtain ⟨⟨found, _, offered⟩, _, reads⟩ :=
    decision_taken_once registrations router built request single
  have paths : (router.dispatch request).calls.map (fun call =>
      (call.request.uri.path, call.request.path)) = [("/a/c", "/a/c"), ("/b/d", "/a/c")] := by
    cases built
    decide
  obtain ⟨first, later, calls⟩ := List.length_eq_two.mp (by simpa using congrArg List.length paths)
  rw [calls] at paths offered reads
  have entry : first.handler = rewrite := by
    have opening := offered 0 (by simp [PassedTo])
    cases built
    exact Option.some.inj opening
  have kept : KeptTo [first, later] 1 := by
    rintro before call below called nextRequest nextResponse onward
    obtain rfl : before = 0 := by omega
    cases called
    rw [first.replied, entry] at onward
    cases onward
    rfl
  simp only [List.map_cons, List.map_nil, List.cons.injEq, Prod.mk.injEq, and_true] at paths
  exact ⟨router, first, later, built, single, calls, entry, paths.2.1, paths.2.2,
    reads 1 first later rfl rfl kept⟩

end Router
end HttpRouter
