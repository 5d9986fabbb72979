import HttpRouter.Proofs.Likeness

/-!
The one way out of a failed chain. The error handler is called exactly when the first entry that
hands nothing on fails, with the fault of that entry and after it, and its response is the answer.
Whether a fault was returned as a failure or as an abort, wherever in a chain, nobody can tell.
-/

namespace HttpRouter
variable {ν : Type}

namespace Router

theorem conclude_rescued (router : Router ν) (path : String) (info : Option RequestInfo)
    (decision : Event) (passage : Passage ν) (fault : Fault)
    (aborted : passage.next = .abort fault) :
    router.conclude path info decision passage =
      ⟨decision, passage.calls, some (Rescue.make router.recovery fault path info),
        (Rescue.make router.recovery fault path info).reply.answer⟩ := by
  simp only [conclude, aborted]

theorem conclude_unrescued (router : Router ν) (path : String) (info : Option RequestInfo)
    (decision : Event) (passage : Passage ν) (passed : ∀ fault, passage.next ≠ .abort fault) :
    (router.conclude path info decision passage).rescue = none ∧
      ∃ response, (router.conclude path info decision passage).answer = .response response := by
  cases signal : passage.next with
  | proceed request response => simp [conclude, signal]
  | complete response => simp [conclude, signal]
  | abort fault => exact absurd signal (passed fault)

theorem conclude_rescue_iff (router : Router ν) (path : String) (info : Option RequestInfo)
    (decision : Event) (passage : Passage ν) (fault : Fault) :
    (∃ rescue, (router.conclude path info decision passage).rescue = some rescue ∧
      rescue.fault = fault) ↔ passage.next = .abort fault := by
  constructor
  · rintro ⟨rescue, called, same⟩
    by_cases aborted : ∃ given, passage.next = .abort given
    · obtain ⟨given, aborted⟩ := aborted
      rw [conclude_rescued router path info decision passage given aborted] at called
      cases called
      exact aborted.trans (congrArg Next.abort same)
    · have passed : ∀ given, passage.next ≠ .abort given :=
        fun given signal => aborted ⟨given, signal⟩
      rw [(conclude_unrescued router path info decision passage passed).1] at called
      cases called
  · intro aborted
    rw [conclude_rescued router path info decision passage fault aborted]
    exact ⟨_, rfl, rfl⟩

/-- Whoever called the error handler, it was called with the fault, for the path, and with the
snapshot taken before the chain. -/
theorem conclude_rescue (router : Router ν) (path : String) (info : Option RequestInfo)
    (decision : Event) (passage : Passage ν) (rescue : Rescue ν)
    (called : (router.conclude path info decision passage).rescue = some rescue) :
    rescue = Rescue.make router.recovery rescue.fault path info ∧
      (router.conclude path info decision passage).answer = rescue.reply.answer := by
  have aborted := (conclude_rescue_iff router path info decision passage rescue.fault).mp
    ⟨rescue, called, rfl⟩
  rw [conclude_rescued router path info decision passage rescue.fault aborted] at called ⊢
  have made := Option.some.inj called
  exact ⟨made.symm, congrArg (fun rescue => rescue.reply.answer) made⟩

theorem matchedRun_rescue_iff (router : Router ν) (request : Request) (found : Match ν)
    (fault : Fault) :
    (∃ rescue, (router.matchedRun request found).rescue = some rescue ∧ rescue.fault = fault) ↔
      ∃ outcome, Handler.StopsAt
          (router.chain (Path.splitDecoded request.uri.path) found.route)
          (ready request found.params) .blank outcome ∧
        outcome.failure? = some fault := by
  rw [matchedRun, conclude_rescue_iff]
  exact Handler.run_aborts _ _ _ fault

theorem matchedRun_plain (router : Router ν) (respond : Fault → RecoveryReply ν)
    (plain : router.recovery = .plain respond) (request : Request) (found : Match ν)
    (rescue : Rescue ν) (called : (router.matchedRun request found).rescue = some rescue) :
    rescue.reply = respond rescue.fault := by
  obtain ⟨made, _⟩ := conclude_rescue router _ _ _ _ rescue called
  have replied := congrArg Rescue.reply made
  rw [plain] at replied
  exact replied

theorem snapshot_informed (router : Router ν) (respond : Fault → RequestInfo → RecoveryReply ν)
    (informed : router.recovery = .informed respond) (request : Request) :
    router.snapshot request = some (RequestInfo.ofRequest request) := by
  simp [snapshot, informed, Recovery.wantsInfo]

theorem matchedRun_informed (router : Router ν) (respond : Fault → RequestInfo → RecoveryReply ν)
    (informed : router.recovery = .informed respond) (request : Request) (found : Match ν)
    (rescue : Rescue ν) (called : (router.matchedRun request found).rescue = some rescue) :
    rescue.info = some (.ofRequest (ready request found.params)) ∧
      rescue.reply = respond rescue.fault (.ofRequest (ready request found.params)) := by
  obtain ⟨made, _⟩ := conclude_rescue router _ _ _ _ rescue called
  rw [snapshot_informed router respond informed] at made
  have replied := congrArg Rescue.reply made
  rw [informed] at replied
  exact ⟨congrArg Rescue.info made, replied⟩

theorem matchedRun_rescued (router : Router ν) (request : Request) (found : Match ν)
    (rescue : Rescue ν) (called : (router.matchedRun request found).rescue = some rescue) :
    let run := router.matchedRun request found
    rescue.reply = router.recovery.respond rescue.fault rescue.info ∧
      run.trace = .event run.decision :: (run.calls.flatMap Call.trace ++
        .event (.aborted rescue.fault request.uri.path) :: .recovering rescue.fault ::
          rescue.reply.trace) ∧
      run.answer = rescue.reply.answer := by
  obtain ⟨made, answered⟩ := conclude_rescue router _ _ _ _ rescue called
  refine ⟨?_, ?_, answered⟩
  · rw [made]
    rfl
  · rw [Run.trace, called]
    have path : rescue.path = request.uri.path := congrArg Rescue.path made
    simp [Rescue.trace, path]

/-- Every failure of a chain, and nothing else, reaches the error handler that was registered last.
It is given the fault, and the request as the chain got it if it asks, and its response is the
answer. Where none was registered the answer is a failure with the message of the fault. -/
theorem failures_reach_recovery (registrations : List (Registration ν)) (router : Router ν)
    (built : ofRegistrations registrations = .ok router) (request : Request)
    (single : (claimants registrations request.method request.uri.path).length = 1) :
    let run := router.dispatch request
    let recoveries := registrations.filterMap Registration.recovery?
    ∃ found, router.find request.method request.uri.path = .ok (some found) ∧
      (∀ fault,
        (∃ rescue, run.rescue = some rescue ∧ rescue.fault = fault) ↔
          ∃ outcome, Handler.StopsAt
              (router.chain (Path.splitDecoded request.uri.path) found.route)
              (ready request found.params) .blank outcome ∧
            outcome.failure? = some fault) ∧
      (∀ rescue, run.rescue = some rescue →
        (∀ respond, recoveries.getLast? = some (.plain respond) →
          rescue.reply = respond rescue.fault) ∧
        (∀ respond, recoveries.getLast? = some (.informed respond) →
          rescue.reply = respond rescue.fault (.ofRequest (ready request found.params))) ∧
        (recoveries = [] →
          rescue.reply = ⟨[], .ok ⟨⟨500⟩, Headers.empty, rescue.fault.message⟩⟩ ∧
            run.answer = .response ⟨⟨500⟩, Headers.empty, rescue.fault.message⟩) ∧
        run.trace = .event run.decision :: (run.calls.flatMap Call.trace ++
          .event (.aborted rescue.fault request.uri.path) :: .recovering rescue.fault ::
            rescue.reply.trace) ∧
        ∀ response, rescue.reply.outcome = .ok response → run.answer = .response response) ∧
      (∀ payload, run.answer = .panicked payload →
        ∃ rescue, run.rescue = some rescue ∧ rescue.reply.outcome = .error payload) ∧
      ∀ softened, List.Forall₂ (Registration.Pointwise Handler.Softens) registrations softened →
        ∃ other, ofRegistrations softened = .ok other ∧
          (other.dispatch request).answer = run.answer ∧
          (other.dispatch request).rescue = run.rescue ∧
          (other.dispatch request).trace = run.trace := by
  have holds := built_holds registrations router built
  obtain ⟨route, _, finds⟩ :=
    find_single router registrations request.method request.uri.path holds single
  have dispatched := dispatch_find router request
  simp only [finds] at dispatched
  dsimp only
  refine ⟨_, finds, ?_, ?_, ?_, ?_⟩
  · intro fault
    rw [dispatched]
    exact matchedRun_rescue_iff router request _ fault
  · intro rescue called
    rw [dispatched] at called ⊢
    obtain ⟨_, trace, answered⟩ := matchedRun_rescued router request _ rescue called
    have answers : ∀ response, rescue.reply.outcome = .ok response →
        rescue.reply.answer = .response response := by
      intro response replied
      rw [RecoveryReply.answer, replied]
    rw [answered]
    refine ⟨?_, ?_, ?_, trace, answers⟩
    · intro respond last
      have plain := holds.last_recovery _ last
      exact matchedRun_plain router respond plain request _ rescue called
    · intro respond last
      have informed := holds.last_recovery _ last
      exact (matchedRun_informed router respond informed request _ rescue called).2
    · intro unregistered
      have fallback := holds.no_recovery unregistered
      have replied := matchedRun_plain router _ fallback request _ rescue called
      exact ⟨replied, answers _ (congrArg RecoveryReply.outcome replied)⟩
  · intro payload panicked
    rw [dispatched] at panicked ⊢
    rcases matchedRun_answer router request
        ⟨route, route.pattern.extract (Path.splitDecoded request.uri.path)⟩ with
      ⟨response, given⟩ | ⟨rescue, own, called, replied, given⟩
    · rw [given] at panicked
      cases panicked
    · rw [given] at panicked
      cases panicked
      exact ⟨rescue, called, replied⟩
  · intro softened each
    -- A softened handler is alike, and alike handlers cannot be told apart.
    obtain ⟨other, otherBuilt⟩ := pointwise_built each built
    have alike := each.imp fun _ _ pair => pair.imp Handler.softened_alike
    exact ⟨other, otherBuilt, dispatch_alike registrations softened router other alike holds
      (built_holds softened other otherBuilt) request⟩

-- A panic behind a middleware that hands on, with an entry after it that is never reached. The last
-- error handler registered answers it, and the fixed page where none is.
theorem panic_reaches_recovery :
    let pass : Handler Unit := ⟨fun request response => ⟨[], .proceed request response⟩⟩
    let blow : Handler Unit := ⟨fun _ _ => ⟨[], .panic .running (.text "boom")⟩⟩
    let replaced : Recovery Unit := .plain fun _ => ⟨[], .error .other⟩
    let respond : Fault → RequestInfo → RecoveryReply Unit := fun fault info =>
      ⟨[], .ok ⟨⟨503⟩, Headers.empty, info.uri.path ++ ": " ++ fault.message⟩⟩
    let unrecovered : List (Registration Unit) :=
      [.add .any "/a" [blow, pass], .middleware (.within "/a" pass)]
    let recovered : List (Registration Unit) :=
      .recover replaced :: unrecovered ++ [.recover (.informed respond)]
    let request : Request := { (default : Request) with uri := ⟨none, none, "/a/", none⟩ }
    (∃ router rescue, ofRegistrations recovered = .ok router ∧
      (claimants recovered request.method request.uri.path).length = 1 ∧
      (router.dispatch request).rescue = some rescue ∧
      rescue.fault = .handlerPanicked "boom" ∧
      (router.dispatch request).answer =
        .response ⟨⟨503⟩, Headers.empty, "/a/: handler panicked: boom"⟩) ∧
    ∃ router rescue, ofRegistrations unrecovered = .ok router ∧
      (claimants unrecovered request.method request.uri.path).length = 1 ∧
      (router.dispatch request).rescue = some rescue ∧
      rescue.fault = .handlerPanicked "boom" ∧
      (router.dispatch request).answer =
        .response ⟨⟨500⟩, Headers.empty, "handler panicked: boom"⟩ := by
  intro pass blow replaced respond unrecovered recovered request
  constructor
  · have single : (claimants recovered request.method request.uri.path).length = 1 := by decide
    obtain ⟨router, built⟩ : ∃ router, ofRegistrations recovered = .ok router := ⟨_, rfl⟩
    obtain ⟨_, _, _, rescued, _, _⟩ :=
      failures_reach_recovery recovered router built request single
    have fault : (router.dispatch request).rescue.map Rescue.fault =
        some (.handlerPanicked "boom") := by
      cases built
      decide
    obtain ⟨rescue, called, carried⟩ := Option.map_eq_some_iff.mp fault
    obtain ⟨_, informed, _, _, answers⟩ := rescued rescue called
    have replied := congrArg RecoveryReply.outcome (informed respond rfl)
    rw [carried] at replied
    exact ⟨router, rescue, built, single, called, carried, answers _ replied⟩
  · have single : (claimants unrecovered request.method request.uri.path).length = 1 := by decide
    obtain ⟨router, built⟩ : ∃ router, ofRegistrations unrecovered = .ok router := ⟨_, rfl⟩
    obtain ⟨_, _, _, rescued, _, _⟩ :=
      failures_reach_recovery unrecovered router built request single
    have fault : (router.dispatch request).rescue.map Rescue.fault =
        some (.handlerPanicked "boom") := by
      cases built
      decide
    obtain ⟨rescue, called, carried⟩ := Option.map_eq_some_iff.mp fault
    obtain ⟨_, _, unregistered, _, _⟩ := rescued rescue called
    have answered := (unregistered rfl).2
    rw [carried] at answered
    exact ⟨router, rescue, built, single, called, carried, answered⟩

end Router
end HttpRouter
