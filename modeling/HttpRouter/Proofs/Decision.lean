import HttpRouter.Router
import HttpRouter.Proofs.Registrations
import HttpRouter.Proofs.Threading

/-!
The decision of a dispatch. The routes that claim a request are counted over the registrations
themselves, without the table. No claimant is a request not found, several are a refusal, and in
neither case is anybody called; a single one is the match, whose chain runs. A handler has no say
in which of the three it is.
-/

namespace HttpRouter
variable {ν : Type}

/-- The registered routes that serve a method and fit a path, in the order of registration. -/
def claimants (registrations : List (Registration ν)) (method : Method) (path : String) :
    List (Route ν) :=
  ((registrations.filterMap Registration.route?).filter fun entry =>
    entry.1.serves method && entry.2.pattern.fits (Path.splitDecoded path)).map Prod.snd

namespace Router

def verdict (method : Method) (path : String) : List (Route ν) → Except Fault (Option (Match ν))
  | [] => .ok none
  | [route] => .ok (some ⟨route, route.pattern.extract (Path.splitDecoded path)⟩)
  | several => .error (.ambiguousRoute method path several.length)

theorem verdict_several (method : Method) (path : String) (routes : List (Route ν))
    (several : 2 ≤ routes.length) :
    verdict method path routes = .error (.ambiguousRoute method path routes.length) := by
  match routes, several with
  | _ :: _ :: _, _ => rfl

-- Only the number of routes and, of a single one, the route itself are read.
theorem verdict_order (method : Method) (path : String) (left right : List (Route ν))
    (order : left.Perm right) : verdict method path left = verdict method path right := by
  match left with
  | [] => rw [order.nil_eq]
  | [route] => rw [List.singleton_perm.mp order]
  | first :: second :: rest =>
      have many : 2 ≤ (first :: second :: rest).length := by simp
      rw [verdict_several method path _ many,
        verdict_several method path right (order.length_eq ▸ many), order.length_eq]

theorem find_candidates (router : Router ν) (method : Method) (path : String) :
    router.find method path = verdict method path
      ((router.table.lookup method).filter fun route =>
        route.pattern.fits (Path.splitDecoded path)) := by
  simp only [find, findAmong]
  cases (router.table.lookup method).filter fun route =>
      route.pattern.fits (Path.splitDecoded path) with
  | nil => rfl
  | cons first rest => cases rest <;> rfl

theorem verdict_found (method : Method) (path : String) (routes : List (Route ν)) (found : Match ν)
    (finds : verdict method path routes = .ok (some found)) :
    routes = [found.route] ∧
      found.params = found.route.pattern.extract (Path.splitDecoded path) := by
  match routes, finds with
  | [_], rfl => exact ⟨rfl, rfl⟩

theorem find_candidate (router : Router ν) (method : Method) (path : String) (found : Match ν)
    (finds : router.find method path = .ok (some found)) :
    found.route ∈ router.table.lookup method ∧
      found.route.pattern.fits (Path.splitDecoded path) = true ∧
      found.params = found.route.pattern.extract (Path.splitDecoded path) := by
  rw [find_candidates] at finds
  obtain ⟨single, captured⟩ := verdict_found method path _ found finds
  have member := List.mem_filter.mp (single ▸ List.mem_singleton_self found.route)
  exact ⟨member.1, member.2, captured⟩

theorem candidates_claimants (router : Router ν) (registrations : List (Registration ν))
    (method : Method) (path : String) (holds : router.Holds registrations) :
    ((router.table.lookup method).filter fun route =>
      route.pattern.fits (Path.splitDecoded path)).Perm (claimants registrations method path) := by
  have served := (Table.lookup_serves (registrations.filterMap Registration.route?) method).filter
    fun route => route.pattern.fits (Path.splitDecoded path)
  rw [holds.table]
  refine served.trans (List.Perm.of_eq ?_)
  rw [List.filter_map, List.filter_filter, claimants]
  apply congrArg (List.map Prod.snd)
  apply List.filter_congr
  intro entry _
  exact Bool.and_comm _ _

theorem find_verdict (router : Router ν) (registrations : List (Registration ν)) (method : Method)
    (path : String) (holds : router.Holds registrations) :
    router.find method path = verdict method path (claimants registrations method path) := by
  rw [find_candidates]
  exact verdict_order method path _ _
    (candidates_claimants router registrations method path holds)

theorem find_single (router : Router ν) (registrations : List (Registration ν)) (method : Method)
    (path : String) (holds : router.Holds registrations)
    (single : (claimants registrations method path).length = 1) :
    ∃ route, claimants registrations method path = [route] ∧
      router.find method path =
        .ok (some ⟨route, route.pattern.extract (Path.splitDecoded path)⟩) := by
  obtain ⟨route, only⟩ := List.length_eq_one_iff.mp single
  refine ⟨route, only, ?_⟩
  rw [find_verdict router registrations method path holds, only]
  rfl

/-! ### Dispatch by the decision -/

/-- The request that a chain starts from: as it came, with what is attached to it merged over what
it carried already. -/
def ready (request : Request) (params : Params) : Request :=
  { request with
    attached := some ((request.attached.getD Meta.empty).extend
      ⟨none, some params, some (Target.ofUri request.uri)⟩) }

theorem aim_captured (request : Request) (params : Params) :
    request.aim.captured params = ready request params := by
  cases carried : request.attached with
  | none =>
      simp [Request.aim, Request.captured, Request.attach, Meta.update, carried, ready,
        Meta.ofTarget, Meta.ofParams, Meta.extend, Meta.empty, Meta.mergeParams]
  | some earlier =>
      cases held : earlier.params <;>
        simp [Request.aim, Request.captured, Request.attach, Meta.update, carried, ready,
          Meta.ofTarget, Meta.ofParams, Meta.extend, Meta.empty, Meta.mergeParams, held]

theorem runChain_run (router : Router ν) (pieces : List String) (route : Route ν)
    (request : Request) :
    router.runChain pieces route request =
      Handler.run (router.chain pieces route) request .blank := by
  unfold runChain
  split
  · next handler noGlobal noScoped lone =>
      rw [chain, noGlobal, noScoped, lone]
      rcases (handler.call request .blank).outcome.onward_or_stopped with
        ⟨nextRequest, nextResponse, given⟩ | stopped
      · simp [Handler.invoke, Handler.run, Call.make, Call.next, given, Outcome.next]
      · simp [Handler.invoke, Handler.run_stopped handler [] request .blank stopped, Call.make,
          Call.next]
  · rfl

theorem target_path (uri : Uri) : (Target.ofUri uri).path = uri.path := by
  unfold Target.ofUri
  split <;> rfl

def matchedRun (router : Router ν) (request : Request) (found : Match ν) : Run ν :=
  router.conclude request.uri.path (router.snapshot (ready request found.params))
    (.matched request.method request.uri.path found.route.pattern.text)
    (Handler.run (router.chain (Path.splitDecoded request.uri.path) found.route)
      (ready request found.params) .blank)

theorem dispatch_find (router : Router ν) (request : Request) :
    router.dispatch request =
      match router.find request.method request.uri.path with
      | .ok none =>
          ⟨.unmatched request.method request.uri.path, [], none, .response .notFound⟩
      | .error fault => ⟨.ambiguous fault, [], none, .refused fault⟩
      | .ok (some found) => router.matchedRun request found := by
  have method : request.aim.method = request.method := rfl
  simp only [dispatch, process, target_path, method, find]
  cases router.findAmong request.method request.uri.path
      (Path.splitDecoded request.uri.path) with
  | error fault => rfl
  | ok decided =>
      cases decided with
      | none => rfl
      | some found => simp only [matchedRun, aim_captured, runChain_run]

theorem conclude_calls (router : Router ν) (path : String) (info : Option RequestInfo)
    (decision : Event) (passage : Passage ν) :
    (router.conclude path info decision passage).calls = passage.calls := by
  unfold conclude
  split <;> rfl

theorem matchedRun_threaded (router : Router ν) (request : Request) (found : Match ν) :
    Threaded (router.chain (Path.splitDecoded request.uri.path) found.route)
      (ready request found.params) .blank (router.matchedRun request found).calls := by
  rw [matchedRun, conclude_calls]
  exact Handler.run_threaded _ _ _

theorem matchedRun_answer (router : Router ν) (request : Request) (found : Match ν) :
    (∃ response, (router.matchedRun request found).answer = .response response) ∨
      ∃ rescue payload, (router.matchedRun request found).rescue = some rescue ∧
        rescue.reply.outcome = .error payload ∧
        (router.matchedRun request found).answer = .panicked payload := by
  unfold matchedRun conclude
  split
  · exact Or.inl ⟨_, rfl⟩
  · exact Or.inl ⟨_, rfl⟩
  · next fault _ =>
      let rescue := Rescue.make router.recovery fault request.uri.path
        (router.snapshot (ready request found.params))
      cases replied : rescue.reply.outcome with
      | ok response =>
          exact Or.inl ⟨response, by simp [RecoveryReply.answer, rescue, replied]⟩
      | error payload =>
          exact Or.inr ⟨rescue, payload, rfl, replied, by
            simp [RecoveryReply.answer, rescue, replied]⟩

/-- The number of claimants decides, whatever any handler does: none is not found, several are
refused with their number, and nobody is called for either. A single one is what is found, and its
chain is called with what was captured. -/
theorem dispatch_trichotomy (registrations : List (Registration ν)) (router : Router ν)
    (built : ofRegistrations registrations = .ok router) (request : Request) :
    let claiming := claimants registrations request.method request.uri.path
    let run := router.dispatch request
    (claiming.length = 0 →
      run.answer = .response ⟨⟨404⟩, Headers.empty, "Not Found"⟩ ∧
        run.calls = [] ∧ run.rescue = none) ∧
    (2 ≤ claiming.length →
      run.answer = .refused (.ambiguousRoute request.method request.uri.path claiming.length) ∧
        run.calls = [] ∧ run.rescue = none) ∧
    (claiming.length = 1 →
      ∃ found, router.find request.method request.uri.path = .ok (some found) ∧
        claiming = [found.route] ∧
        Threaded (router.chain (Path.splitDecoded request.uri.path) found.route)
          (ready request found.params) .blank run.calls ∧
        ((∃ response, run.answer = .response response) ∨
          ∃ rescue payload, run.rescue = some rescue ∧ rescue.reply.outcome = .error payload ∧
            run.answer = .panicked payload)) ∧
    ((∃ fault, run.answer = .refused fault) ↔ 2 ≤ claiming.length) := by
  have holds := built_holds registrations router built
  have decided := find_verdict router registrations request.method request.uri.path holds
  have dispatched := dispatch_find router request
  dsimp only
  -- The claimants are matched, not their number: the single one is needed itself.
  match claiming : claimants registrations request.method request.uri.path with
  | [] =>
      rw [claiming] at decided
      simp only [decided, verdict] at dispatched
      rw [dispatched]
      simp [Response.notFound, Response.ofText, Status.notFound]
  | [route] =>
      rw [claiming] at decided
      simp only [decided, verdict] at dispatched
      rw [dispatched]
      have answered := matchedRun_answer router request
        ⟨route, route.pattern.extract (Path.splitDecoded request.uri.path)⟩
      refine ⟨by simp, by simp, ?_, ?_⟩
      · intro _
        exact ⟨_, decided, rfl, matchedRun_threaded router request _, answered⟩
      · constructor
        · rintro ⟨fault, refused⟩
          rcases answered with ⟨response, given⟩ | ⟨rescue, payload, _, _, given⟩
          · rw [given] at refused
            cases refused
          · rw [given] at refused
            cases refused
        · intro many
          simp at many
  | first :: second :: rest =>
      have many : 2 ≤ (first :: second :: rest).length := by simp
      rw [claiming, verdict_several _ _ _ many] at decided
      simp only [decided] at dispatched
      rw [dispatched]
      refine ⟨by simp, fun _ => ⟨rfl, rfl, rfl⟩, by simp, ?_⟩
      exact ⟨fun _ => many, fun _ => ⟨_, rfl⟩⟩

-- The two claimants lie in different buckets of the table.
theorem overlap_across_buckets :
    let stay : Handler Unit := ⟨fun request response => ⟨[], .proceed request response⟩⟩
    let registrations : List (Registration Unit) :=
      [.add (.only .get) "/a/:x" [stay], .named "*" "/a/b" stay]
    let request : Request := { (default : Request) with uri := ⟨none, none, "/a/b", none⟩ }
    ∃ router, ofRegistrations registrations = .ok router ∧
      (claimants registrations request.method request.uri.path).length = 2 ∧
      (router.dispatch request).answer = .refused (.ambiguousRoute .get "/a/b" 2) := by
  intro stay registrations request
  have two : (claimants registrations request.method request.uri.path).length = 2 := by decide
  refine ⟨_, rfl, two, ?_⟩
  have refused := (dispatch_trichotomy registrations _ rfl request).2.1 (Nat.le_of_eq two.symm)
  rw [two] at refused
  exact refused.1

end Router
end HttpRouter
