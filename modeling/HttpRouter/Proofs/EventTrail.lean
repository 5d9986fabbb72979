import HttpRouter.Proofs.Funnel

/-!
The events of a dispatch. The decision is written down first, and a failed chain is written down
between the last handler and the error handler. A handler may dispatch to further routers, in turn
or side by side, and so may an error handler: whatever inner dispatches write down then stands among
what the handler wrote. So in the trace of a run, however deep its dispatches are nested, there are
as many aborts as calls of error handlers.
-/

namespace HttpRouter
variable {ν : Type}

namespace Observation

def isAbort : Observation ν → Bool
  | .event written => written.record.message == "handler chain aborted"
  | _ => false

def isRecovery : Observation ν → Bool
  | .recovering _ => true
  | _ => false

def Balanced (trace : List (Observation ν)) : Prop :=
  trace.countP isAbort = trace.countP isRecovery

theorem balanced_append {left right : List (Observation ν)} (first : Balanced left)
    (second : Balanced right) : Balanced (left ++ right) := by
  rw [Balanced, List.countP_append, List.countP_append, first, second]

theorem balanced_order {left right : List (Observation ν)} (order : left.Perm right)
    (balanced : Balanced left) : Balanced right := by
  rw [Balanced, ← order.countP_eq, ← order.countP_eq]
  exact balanced

theorem balanced_quiet {observation : Observation ν} {trace : List (Observation ν)}
    (noAbort : observation.isAbort = false) (noRecovery : observation.isRecovery = false)
    (balanced : Balanced trace) : Balanced (observation :: trace) := by
  rw [Balanced, List.countP_cons_of_neg (by simp [noAbort]),
    List.countP_cons_of_neg (by simp [noRecovery])]
  exact balanced

theorem balanced_flatMap {α : Type} (items : List α) (trace : α → List (Observation ν))
    (each : ∀ item ∈ items, Balanced (trace item)) : Balanced (items.flatMap trace) := by
  induction items with
  | nil => rfl
  | cons item rest ih =>
      rw [List.flatMap_cons]
      exact balanced_append (each item List.mem_cons_self)
        (ih fun later member => each later (List.mem_cons_of_mem item member))

end Observation

inductive Interleaved {α : Type} : List α → List α → List α → Prop where
  | nil : Interleaved [] [] []
  | left (item : α) {left right whole : List α} (rest : Interleaved left right whole) :
      Interleaved (item :: left) right (item :: whole)
  | right (item : α) {left right whole : List α} (rest : Interleaved left right whole) :
      Interleaved left (item :: right) (item :: whole)

namespace Interleaved
variable {α : Type} {left right whole : List α}

theorem alone (left : List α) : Interleaved left [] left := by
  induction left with
  | nil => exact .nil
  | cons item rest ih => exact ih.left item

theorem sublists (merged : Interleaved left right whole) :
    left.Sublist whole ∧ right.Sublist whole := by
  induction merged with
  | nil => exact ⟨List.Sublist.refl [], List.Sublist.refl []⟩
  | left item _ ih => exact ⟨ih.1.cons_cons item, ih.2.cons item⟩
  | right item _ ih => exact ⟨ih.1.cons item, ih.2.cons_cons item⟩

theorem order (merged : Interleaved left right whole) : (left ++ right).Perm whole := by
  induction merged with
  | nil => exact List.Perm.nil
  | left item _ ih => exact ih.cons item
  | right item _ ih => exact List.perm_middle.trans (ih.cons item)

end Interleaved

/-- The traces that a handler may leave that made some dispatches: notes of its own, and all that
was written down in those. -/
inductive Reports : List (Run ν) → List (Observation ν) → Prop where
  | silent : Reports [] []
  | note (note : ν) {runs : List (Run ν)} {trace : List (Observation ν)}
      (rest : Reports runs trace) : Reports runs (.note note :: trace)
  | run (run : Run ν) {runs : List (Run ν)} {trace whole : List (Observation ν)}
      (rest : Reports runs trace) (merged : Interleaved run.trace trace whole) :
      Reports (run :: runs) whole

namespace Reports
variable {runs : List (Run ν)} {trace : List (Observation ν)}

theorem member_sublist (reports : Reports runs trace) (run : Run ν) (member : run ∈ runs) :
    run.trace.Sublist trace := by
  induction reports with
  | silent => cases member
  | note note _ ih => exact (ih member).cons _
  | run first _ merged ih =>
      rcases List.mem_cons.mp member with rfl | later
      · exact merged.sublists.1
      · exact (ih later).trans merged.sublists.2

theorem balanced (reports : Reports runs trace)
    (each : ∀ run ∈ runs, Observation.Balanced run.trace) : Observation.Balanced trace := by
  induction reports with
  | silent => rfl
  | note note _ ih => exact Observation.balanced_quiet rfl rfl (ih each)
  | run first _ merged ih =>
      have rest := ih fun run member => each run (List.mem_cons_of_mem first member)
      exact Observation.balanced_order merged.order
        (Observation.balanced_append (each first List.mem_cons_self) rest)

end Reports

namespace Run

def aftermath (run : Run ν) : List (Observation ν) :=
  (run.rescue.map Rescue.trace).getD []

theorem trace_parted (run : Run ν) :
    run.trace = .event run.decision :: (run.calls.flatMap Call.trace ++ run.aftermath) := by
  cases called : run.rescue <;> simp [trace, aftermath, called]

/-- The handlers of a run and its error handler made dispatches of one kind alone. -/
structure Accounted (kind : Run ν → Prop) (run : Run ν) : Prop where
  called : ∀ call ∈ run.calls, ∃ runs, Reports runs call.trace ∧ ∀ inner ∈ runs, kind inner
  rescued : ∀ rescue, run.rescue = some rescue →
    ∃ runs, Reports runs rescue.reply.trace ∧ ∀ inner ∈ runs, kind inner

theorem Accounted.imp {kind other : Run ν → Prop} {run : Run ν} (accounted : run.Accounted kind)
    (each : ∀ inner, kind inner → other inner) : run.Accounted other := by
  constructor
  · intro call member
    obtain ⟨runs, reports, made⟩ := accounted.called call member
    exact ⟨runs, reports, fun inner listed => each inner (made inner listed)⟩
  · intro rescue called
    obtain ⟨runs, reports, made⟩ := accounted.rescued rescue called
    exact ⟨runs, reports, fun inner listed => each inner (made inner listed)⟩

theorem rescue_balanced (rescue : Rescue ν) (replied : Observation.Balanced rescue.reply.trace) :
    Observation.Balanced rescue.trace := by
  rw [Rescue.trace, Observation.Balanced, List.countP_cons_of_pos (by rfl),
    List.countP_cons_of_neg (by simp [Observation.isAbort]),
    List.countP_cons_of_neg (by simp [Observation.isRecovery]), List.countP_cons_of_pos (by rfl),
    replied]

theorem Accounted.balanced {run : Run ν}
    (accounted : run.Accounted fun inner => Observation.Balanced inner.trace)
    (decided : (Observation.event run.decision : Observation ν).isAbort = false) :
    Observation.Balanced run.trace := by
  have handled : Observation.Balanced (run.calls.flatMap Call.trace) := by
    apply Observation.balanced_flatMap
    intro call member
    obtain ⟨runs, reports, each⟩ := accounted.called call member
    exact reports.balanced each
  have ended : Observation.Balanced run.aftermath := by
    cases called : run.rescue with
    | none =>
        rw [aftermath, called]
        rfl
    | some rescue =>
        obtain ⟨runs, reports, each⟩ := accounted.rescued rescue called
        rw [aftermath, called]
        exact rescue_balanced rescue (reports.balanced each)
  rw [trace_parted]
  exact Observation.balanced_quiet decided rfl (Observation.balanced_append handled ended)

/-- A run that was made under another one: by one of its handlers, by its error handler, or under a
run that was made so. -/
inductive Under (inner : Run ν) : Run ν → Prop where
  | itself : Under inner inner
  | handler {middle outer : Run ν} (call : Call ν) (member : call ∈ outer.calls)
      {runs : List (Run ν)} (reports : Reports runs call.trace) (made : middle ∈ runs)
      (deeper : Under inner middle) : Under inner outer
  | recovery {middle outer : Run ν} (rescue : Rescue ν) (called : outer.rescue = some rescue)
      {runs : List (Run ν)} (reports : Reports runs rescue.reply.trace) (made : middle ∈ runs)
      (deeper : Under inner middle) : Under inner outer

theorem call_sublist (run : Run ν) (call : Call ν) (member : call ∈ run.calls) :
    call.trace.Sublist (run.calls.flatMap Call.trace) := by
  obtain ⟨front, back, parted⟩ := List.append_of_mem member
  rw [parted, List.flatMap_append, List.flatMap_cons]
  exact ((List.sublist_append_left _ _).trans (List.sublist_append_right _ _))

theorem rescue_sublist (run : Run ν) (rescue : Rescue ν) (called : run.rescue = some rescue) :
    rescue.reply.trace.Sublist run.trace := by
  have ended : rescue.reply.trace.Sublist run.aftermath := by
    rw [aftermath, called]
    exact ((List.Sublist.refl _).cons _).cons _
  rw [trace_parted]
  exact (ended.trans (List.sublist_append_right _ _)).cons _

theorem Under.sublist {inner outer : Run ν} (under : inner.Under outer) :
    inner.trace.Sublist outer.trace := by
  induction under with
  | itself => exact List.Sublist.refl _
  | @handler middle outer call member runs reports made _ ih =>
      have written := (reports.member_sublist middle made).trans (outer.call_sublist call member)
      rw [outer.trace_parted]
      exact ih.trans ((written.trans (List.sublist_append_left _ _)).cons _)
  | @recovery middle outer rescue called runs reports made _ ih =>
      exact ih.trans ((reports.member_sublist middle made).trans
        (outer.rescue_sublist rescue called))

end Run

/-- A dispatch under which every event was written down by a dispatch: those that its handlers and
its error handler made are of one kind, and all of the kind nest as well. -/
inductive Nest : Run ν → Prop where
  | dispatched (router : Router ν) (request : Request) (kind : Run ν → Prop)
      (made : ∀ run, kind run → Nest run)
      (accounted : (router.dispatch request).Accounted kind) : Nest (router.dispatch request)

namespace Router

theorem conclude_decision (router : Router ν) (path : String) (info : Option RequestInfo)
    (decision : Event) (passage : Passage ν) :
    (router.conclude path info decision passage).decision = decision := by
  unfold conclude
  split <;> rfl

theorem matchedRun_decision (router : Router ν) (request : Request) (found : Match ν) :
    (router.matchedRun request found).decision =
      .matched request.method request.uri.path found.route.pattern.text :=
  conclude_decision router _ _ _ _

theorem dispatch_decision (router : Router ν) (request : Request) :
    (Observation.event (router.dispatch request).decision : Observation ν).isAbort = false := by
  rw [dispatch_find]
  cases router.find request.method request.uri.path with
  | error fault => rfl
  | ok decided =>
      cases decided with
      | none => rfl
      | some found =>
          change (Observation.event (router.matchedRun request found).decision).isAbort = false
          rw [matchedRun_decision]
          rfl

end Router

-- The induction is on the nest. Inner dispatches are balanced, so what was written down under the
-- handlers is, and the dispatch itself adds an abort exactly where it calls its error handler.
theorem Nest.balanced {run : Run ν} (nest : Nest run) : Observation.Balanced run.trace := by
  induction nest with
  | dispatched router request kind made accounted ih =>
      exact (accounted.imp ih).balanced (router.dispatch_decision request)

namespace Router

def handlers (router : Router ν) (method : Method) : List (Handler ν) :=
  (router.globalMiddleware ++ router.scopedMiddleware).map Middleware.handler ++
    (router.table.lookup method).flatMap Route.handlers

theorem chain_handlers (router : Router ν) (method : Method) (pieces : List String)
    (route : Route ν) (listed : route ∈ router.table.lookup method) :
    router.chain pieces route ⊆ router.handlers method := by
  intro handler member
  rcases List.mem_append.mp member with inFront | own
  · have applies : router.applicable pieces ⊆ router.scopedMiddleware := List.filter_subset_self _
    refine List.mem_append_left _ (List.map_subset _ ?_ inFront)
    exact List.append_subset.mpr ⟨List.subset_append_left _ _,
      List.subset_append_of_subset_right _ applies⟩
  · exact List.mem_append_right _ (List.mem_flatMap.mpr ⟨route, listed, own⟩)

theorem dispatch_accounted (router : Router ν) (request : Request) (kind : Run ν → Prop)
    (handlers : ∀ handler ∈ router.handlers request.method, ∀ given response, ∃ runs,
      Reports runs (handler.call given response).trace ∧ ∀ inner ∈ runs, kind inner)
    (recovery : ∀ fault info, ∃ runs,
      Reports runs (router.recovery.respond fault info).trace ∧ ∀ inner ∈ runs, kind inner) :
    (router.dispatch request).Accounted kind := by
  rw [dispatch_find]
  cases finds : router.find request.method request.uri.path with
  | error fault => exact ⟨fun _ => nofun, fun _ => nofun⟩
  | ok decided =>
      cases decided with
      | none => exact ⟨fun _ => nofun, fun _ => nofun⟩
      | some found =>
          obtain ⟨listed, _⟩ := router.find_candidate _ _ found finds
          constructor
          · intro call member
            have inChain := (matchedRun_threaded router request found).inOrder.subset
              (List.mem_map_of_mem member)
            rw [Call.trace, call.replied]
            exact handlers call.handler (router.chain_handlers _ _ _ listed inChain)
              call.request call.response
          · intro rescue called
            rw [(matchedRun_rescued router request found rescue called).1]
            exact recovery rescue.fault rescue.info

/-- The events of a dispatch tell what became of it. The first is the decision, by the number of
routes that claim the request. An abort is written down exactly if the error handler is called,
behind all that the handlers wrote and in front of the error handler. Every dispatch under a
handler, however deep, lies among what the handlers wrote, and over a whole nest of dispatches there
are as many aborts as calls of error handlers. -/
theorem events_tell_outcome (registrations : List (Registration ν)) (router : Router ν)
    (built : ofRegistrations registrations = .ok router) (request : Request) :
    let claiming := claimants registrations request.method request.uri.path
    let run := router.dispatch request
    let handled := run.calls.flatMap Call.trace
    (claiming.length = 0 →
      run.trace = [.event run.decision] ∧ run.calls = [] ∧ run.rescue = none ∧
        run.decision.record = ⟨.debug, "no route matched",
          [("method", request.method.name), ("path", request.uri.path)]⟩) ∧
    (2 ≤ claiming.length →
      run.trace = [.event run.decision] ∧ run.calls = [] ∧ run.rescue = none ∧
        run.decision.record = ⟨.error, "ambiguous route table",
          [("error", (Fault.ambiguousRoute request.method request.uri.path
            claiming.length).message)]⟩) ∧
    (∀ route, claiming = [route] →
      run.decision.record = ⟨.debug, "route matched",
        [("method", request.method.name), ("path", request.uri.path),
          ("route", route.pattern.text)]⟩ ∧
      (run.rescue = none → run.trace = .event run.decision :: handled) ∧
      ∀ rescue, run.rescue = some rescue → ∃ aborted : Event,
        aborted.record = ⟨.debug, "handler chain aborted",
          [("error", rescue.fault.message), ("path", request.uri.path)]⟩ ∧
        run.trace = .event run.decision ::
          (handled ++ .event aborted :: .recovering rescue.fault :: rescue.reply.trace)) ∧
    (∀ call ∈ run.calls, ∀ runs, Reports runs call.trace → ∀ middle ∈ runs, ∀ inner : Run ν,
      inner.Under middle → inner.trace.Sublist handled) ∧
    (Nest run →
      run.trace.countP Observation.isAbort = run.trace.countP Observation.isRecovery) := by
  have holds := built_holds registrations router built
  have decided := find_verdict router registrations request.method request.uri.path holds
  have dispatched := dispatch_find router request
  refine ⟨?_, ?_, ?_, ?_, Nest.balanced⟩
  · intro none
    rw [decided, List.length_eq_zero_iff.mp none] at dispatched
    simp only [verdict] at dispatched
    rw [dispatched]
    exact ⟨rfl, rfl, rfl, rfl⟩
  · intro several
    rw [decided, verdict_several _ _ _ several] at dispatched
    simp only at dispatched
    rw [dispatched]
    exact ⟨rfl, rfl, rfl, rfl⟩
  · intro route single
    rw [decided, single] at dispatched
    simp only [verdict] at dispatched
    rw [dispatched]
    refine ⟨?_, ?_, ?_⟩
    · rw [matchedRun_decision]
      rfl
    · intro uncalled
      rw [Run.trace_parted, Run.aftermath, uncalled]
      simp
    · intro rescue called
      obtain ⟨_, trace, _⟩ := matchedRun_rescued router request _ rescue called
      exact ⟨.aborted rescue.fault request.uri.path, rfl, trace⟩
  · intro call member runs reports middle made inner under
    exact (under.sublist.trans (reports.member_sublist middle made)).trans
      ((router.dispatch request).call_sublist call member)

-- The inner handler panics and the outer one fails once the inner router has answered.
theorem nested_failures_counted :
    let blow : Handler Unit := ⟨fun _ _ => ⟨[.note ()], .panic .running .other⟩⟩
    let inner : Router Unit := ⟨⟨[], [.ofText "/:x" [blow]]⟩, [], [], .fallback⟩
    let enter : Handler Unit := ⟨fun request _ =>
      ⟨.note () :: (inner.dispatch request).trace, .fail (.plain "late")⟩⟩
    let registrations : List (Registration Unit) := [.add (.only .get) "/a" [enter]]
    let request : Request := { (default : Request) with uri := ⟨none, none, "/a", none⟩ }
    ∃ router, ofRegistrations registrations = .ok router ∧ Nest (router.dispatch request) ∧
      (router.dispatch request).trace.countP Observation.isAbort = 2 ∧
      (router.dispatch request).trace.countP Observation.isRecovery = 2 := by
  intro blow inner enter registrations request
  obtain ⟨router, built⟩ : ∃ router, ofRegistrations registrations = .ok router := ⟨_, rfl⟩
  have quiet : ∀ (fault : Fault) (info : Option RequestInfo) (kind : Run Unit → Prop), ∃ runs,
      Reports runs (Recovery.fallback.respond fault info).trace ∧ ∀ run ∈ runs, kind run :=
    fun _ _ _ => ⟨[], .silent, fun _ => nofun⟩
  have entered : ∀ given : Request, Nest (inner.dispatch given) := by
    intro given
    refine .dispatched inner given (fun _ => False) (fun _ => False.elim) ?_
    apply inner.dispatch_accounted
    · intro handler member
      rw [List.mem_singleton.mp member]
      exact fun _ _ => ⟨[], .note () .silent, fun _ => nofun⟩
    · exact fun fault info => quiet fault info _
  have nest : Nest (router.dispatch request) := by
    cases built
    refine .dispatched _ request Nest (fun _ => id) ?_
    apply dispatch_accounted
    · intro handler member
      rw [List.mem_singleton.mp member]
      intro given _
      have alone : Interleaved (inner.dispatch given).trace [] (inner.dispatch given).trace :=
        .alone _
      refine ⟨[inner.dispatch given], .note () (.run _ .silent alone), ?_⟩
      intro run made
      rw [List.mem_singleton.mp made]
      exact entered given
    · exact fun fault info => quiet fault info _
  obtain ⟨_, _, _, _, counted⟩ := events_tell_outcome registrations router built request
  have aborts : (router.dispatch request).trace.countP Observation.isAbort = 2 := by
    cases built
    decide
  exact ⟨router, built, nest, aborts, (counted nest).symm.trans aborts⟩

end Router
end HttpRouter
