import HttpRouter.Proofs.Attachments
import HttpRouter.Proofs.Funnel

/-!
What an error handler is told about the request that failed. The snapshot is taken between the
match and the first call of the chain. So it tells of the request as it was dispatched, with what
the match captured merged over the parameters it carried, and no handler has a say in it.
-/

namespace HttpRouter
variable {ν : Type}

namespace RequestInfo

/-- An info tells of a request as it was dispatched, and of what was captured from its path. -/
structure Tells (info : RequestInfo) (request : Request) (captured : Params) : Prop where
  method : info.method = request.method
  uri : info.uri = request.uri
  version : info.version = request.version
  headers : info.headers = request.headers
  params : ∀ name, info.params.get? name = (captured.get? name).or (request.param name)
  peer : info.peer = request.peer

theorem ready_tells (request : Request) (captured : Params) :
    (ofRequest (Router.ready request captured)).Tells request captured := by
  constructor
  · rfl
  · rfl
  · rfl
  · rfl
  · intro name
    exact Router.ready_param request captured name
  · exact Router.ready_peer request captured

theorem Tells.unique {info other : RequestInfo} {request : Request} {captured : Params}
    (tells : info.Tells request captured) (otherTells : other.Tells request captured) :
    other = info := by
  have params : other.params = info.params :=
    Params.ext_get? fun name => (otherTells.params name).trans (tells.params name).symm
  cases info with
  | mk method uri version headers infoParams peer =>
    cases other with
    | mk otherMethod otherUri otherVersion otherHeaders otherParams otherPeer =>
      simp only [mk.injEq]
      exact ⟨otherTells.method.trans tells.method.symm, otherTells.uri.trans tells.uri.symm,
        otherTells.version.trans tells.version.symm, otherTells.headers.trans tells.headers.symm,
        params, otherTells.peer.trans tells.peer.symm⟩

end RequestInfo

namespace Router

theorem dispatch_rescued (router : Router ν) (request : Request) (rescue : Rescue ν)
    (called : (router.dispatch request).rescue = some rescue) :
    ∃ found, router.find request.method request.uri.path = .ok (some found) ∧
      (router.matchedRun request found).rescue = some rescue := by
  rw [dispatch_find] at called
  cases decided : router.find request.method request.uri.path with
  | error fault =>
      rw [decided] at called
      cases called
  | ok decision =>
      cases decision with
      | none =>
          rw [decided] at called
          cases called
      | some found =>
          rw [decided] at called
          exact ⟨found, rfl, called⟩

theorem dispatch_informed (router : Router ν) (respond : Fault → RequestInfo → RecoveryReply ν)
    (informed : router.recovery = .informed respond) (request : Request) (rescue : Rescue ν)
    (called : (router.dispatch request).rescue = some rescue) :
    ∃ found info, router.find request.method request.uri.path = .ok (some found) ∧
      rescue.info = some info ∧ rescue.reply = respond rescue.fault info ∧
      info.Tells request found.params := by
  obtain ⟨found, finds, rescued⟩ := dispatch_rescued router request rescue called
  obtain ⟨given, replied⟩ :=
    matchedRun_informed router respond informed request found rescue rescued
  exact ⟨found, _, finds, given, replied, RequestInfo.ready_tells request found.params⟩

/-- An error handler that asks for a snapshot is called for every failure of a chain, always with
a snapshot, and the snapshot tells of the request as it was dispatched. Whatever other handlers
stand in the places of those of the router, the snapshot of the same request is the same. -/
theorem snapshot_untouched (registrations : List (Registration ν)) (router : Router ν)
    (built : ofRegistrations registrations = .ok router)
    (respond : Fault → RequestInfo → RecoveryReply ν)
    (informed : (registrations.filterMap Registration.recovery?).getLast? =
      some (.informed respond)) (request : Request) :
    let run := router.dispatch request
    (∀ rescue, run.rescue = some rescue →
      ∃ found info, router.find request.method request.uri.path = .ok (some found) ∧
        rescue.info = some info ∧ rescue.reply = respond rescue.fault info ∧
        info.Tells request found.params) ∧
    (∀ found outcome fault, router.find request.method request.uri.path = .ok (some found) →
      Handler.StopsAt (router.chain (Path.splitDecoded request.uri.path) found.route)
        (ready request found.params) .blank outcome →
      outcome.failure? = some fault →
        ∃ rescue, run.rescue = some rescue ∧ rescue.fault = fault) ∧
    ∀ others, List.Forall₂ (Registration.Pointwise fun _ _ => True) registrations others →
      ∃ other, ofRegistrations others = .ok other ∧
        ∀ rescue otherRescue, run.rescue = some rescue →
          (other.dispatch request).rescue = some otherRescue →
            otherRescue.info = rescue.info := by
  have holds := built_holds registrations router built
  have asking := holds.last_recovery _ informed
  dsimp only
  refine ⟨dispatch_informed router respond asking request, ?_, ?_⟩
  · intro found outcome fault finds stops fails
    rw [dispatch_find, finds]
    exact (matchedRun_rescue_iff router request found fault).mpr ⟨outcome, stops, fails⟩
  · intro others each
    obtain ⟨other, otherBuilt⟩ := pointwise_built each built
    have otherHolds := built_holds others other otherBuilt
    have otherAsking : other.recovery = .informed respond := by
      apply otherHolds.last_recovery
      rw [pointwise_recoveries each, informed]
    refine ⟨other, otherBuilt, ?_⟩
    intro rescue otherRescue called otherCalled
    obtain ⟨found, info, finds, given, _, tells⟩ :=
      dispatch_informed router respond asking request rescue called
    obtain ⟨otherFound, otherInfo, otherFinds, otherGiven, _, otherTells⟩ :=
      dispatch_informed other respond otherAsking request otherRescue otherCalled
    -- Both runs found the same captures, and those and the request are all that an info tells.
    obtain ⟨same, sameFinds, captured, _⟩ :=
      pointwise_find each holds otherHolds _ _ found finds
    rw [otherFinds] at sameFinds
    cases sameFinds
    rw [captured] at otherTells
    rw [given, otherGiven, tells.unique otherTells]

-- The first entry takes off what was attached and changes what it can, and the second panics.
theorem rewritten_before_panic :
    let rewrite : Handler Unit := ⟨fun request response =>
      ⟨[], .proceed { request.detach with method := .post, uri := .root } response⟩⟩
    let blow : Handler Unit := ⟨fun _ _ => ⟨[], .panic .called .other⟩⟩
    let respond : Fault → RequestInfo → RecoveryReply Unit := fun _ info =>
      ⟨[], .ok (Response.blank.withBody info.uri.path)⟩
    let registrations : List (Registration Unit) :=
      [.recover (.informed respond), .add (.only .get) "/a/:x" [rewrite, blow]]
    let request : Request :=
      { (default : Request) with
        uri := ⟨none, none, "/a/b", none⟩
        attached := some (Meta.ofParams (Params.ofList [("x", "old"), ("y", "kept")])) }
    ∃ router rescue info, ofRegistrations registrations = .ok router ∧
      (registrations.filterMap Registration.recovery?).getLast? = some (.informed respond) ∧
      (router.dispatch request).rescue = some rescue ∧
      rescue.info = some info ∧ info.method = .get ∧ info.uri = request.uri ∧
      info.params.get? "x" = some "b" ∧ info.params.get? "y" = some "kept" := by
  intro rewrite blow respond registrations request
  obtain ⟨router, built⟩ : ∃ router, ofRegistrations registrations = .ok router := ⟨_, rfl⟩
  obtain ⟨told, called, _⟩ := snapshot_untouched registrations router built respond rfl request
  have failed : (router.dispatch request).rescue.isSome = true := by
    cases built
    decide
  obtain ⟨rescue, rescued⟩ := Option.isSome_iff_exists.mp failed
  obtain ⟨found, info, finds, given, _, tells⟩ := told rescue rescued
  have captured : (router.find request.method request.uri.path).map
      (fun found => found.map fun found => (found.params.get? "x", found.params.get? "y")) =
        .ok (some (some "b", none)) := by
    cases built
    decide
  rw [finds] at captured
  have values : (found.params.get? "x", found.params.get? "y") = (some "b", none) :=
    Option.some.inj (Except.ok.inj captured)
  obtain ⟨first, second⟩ := Prod.mk.inj values
  refine ⟨router, rescue, info, built, rfl, rescued, given, tells.method, tells.uri, ?_, ?_⟩
  · rw [tells.params, first, Option.some_or]
  · rw [tells.params, second, Option.none_or]
    decide

end Router
end HttpRouter
