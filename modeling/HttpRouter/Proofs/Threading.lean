import HttpRouter.Handler

/-!
Chains of handlers, run. `Threaded` says which calls a chain makes and with what: the entries in
order, each with what the one before it handed on, and none after one that handed nothing on.
`HandsThrough` says the same of a whole stretch of a chain that is passed. The signal that a chain
ends with is read off either of them.
-/

namespace HttpRouter
variable {ν : Type}

namespace Outcome

/-- The fault that a failed call leaves, whichever way it failed. -/
def failure? : Outcome → Option Fault
  | .proceed _ _ => none
  | .complete _ => none
  | .abort fault => some fault
  | .fail fault => some fault
  | .panic _ (.text text) => some (.handlerPanicked text)
  | .panic _ .other => some (.handlerPanicked "non-string panic payload")

theorem next_proceed (outcome : Outcome) (request : Request) (response : Response) :
    outcome.next = .proceed request response ↔ outcome = .proceed request response := by
  cases outcome <;> simp [next]

theorem onward_or_stopped (outcome : Outcome) :
    (∃ request response, outcome = .proceed request response) ∨
      ∀ request response, outcome ≠ .proceed request response := by
  cases outcome <;> simp

theorem next_abort (outcome : Outcome) (fault : Fault) :
    outcome.next = .abort fault ↔ outcome.failure? = some fault := by
  cases outcome with
  | proceed request response => simp [next, failure?]
  | complete response => simp [next, failure?]
  | abort given => simp [next, failure?]
  | fail given => simp [next, failure?]
  | panic moment payload => cases payload <;> simp [next, failure?, Fault.ofPayload]

end Outcome

namespace Handler

theorem run_onward (handler : Handler ν) (rest : List (Handler ν)) (request nextRequest : Request)
    (response nextResponse : Response)
    (onward : (handler.call request response).outcome = .proceed nextRequest nextResponse) :
    run (handler :: rest) request response =
      ⟨Call.make handler request response :: (run rest nextRequest nextResponse).calls,
        (run rest nextRequest nextResponse).next⟩ := by
  simp [run, Call.make, Call.next, onward, Outcome.next]

theorem run_stopped (handler : Handler ν) (rest : List (Handler ν)) (request : Request)
    (response : Response)
    (stopped : ∀ nextRequest nextResponse,
      (handler.call request response).outcome ≠ .proceed nextRequest nextResponse) :
    run (handler :: rest) request response =
      ⟨[Call.make handler request response], (handler.call request response).outcome.next⟩ := by
  cases given : (handler.call request response).outcome with
  | proceed nextRequest nextResponse => exact absurd given (stopped nextRequest nextResponse)
  | complete response => simp [run, Call.make, Call.next, given, Outcome.next]
  | abort fault => simp [run, Call.make, Call.next, given, Outcome.next]
  | fail fault => simp [run, Call.make, Call.next, given, Outcome.next]
  | panic moment payload => simp [run, Call.make, Call.next, given, Outcome.next]

theorem run_next (chain : List (Handler ν)) (request : Request) (response : Response) :
    (run chain request response).next =
      match (run chain request response).calls.getLast? with
      | some last => last.next
      | none => .proceed request response := by
  induction chain generalizing request response with
  | nil => rfl
  | cons handler rest ih =>
      rcases (handler.call request response).outcome.onward_or_stopped with
        ⟨nextRequest, nextResponse, given⟩ | stopped
      · rw [run_onward handler rest request nextRequest response nextResponse given]
        simp only [List.getLast?_cons, ih]
        cases (run rest nextRequest nextResponse).calls.getLast? with
        | none => simp [Call.make, Call.next, given, Outcome.next]
        | some last => simp
      · rw [run_stopped handler rest request response stopped]
        simp [Call.make, Call.next]

theorem run_calls_some (chain : List (Handler ν)) (request : Request) (response : Response)
    (someEntry : chain ≠ []) : (run chain request response).calls ≠ [] := by
  cases chain with
  | nil => exact absurd rfl someEntry
  | cons handler rest =>
      simp only [run]
      split <;> simp

end Handler

/-! ### The calls of a chain -/

namespace Call

def HandsOn (call : Call ν) : Prop :=
  ∃ nextRequest nextResponse, call.reply.outcome = .proceed nextRequest nextResponse

end Call

/-- The calls that a chain makes from a request and a response. Positions stand for entries, so an
entry is called at most once, in its own place. -/
structure Threaded (chain : List (Handler ν)) (request : Request) (response : Response)
    (calls : List (Call ν)) : Prop where
  inOrder : calls.map Call.handler <+: chain
  opening : ∀ first, calls[0]? = some first → first.request = request ∧ first.response = response
  handedOn : ∀ position earlier later, calls[position]? = some earlier →
    calls[position + 1]? = some later →
      earlier.reply.outcome = .proceed later.request later.response
  reached : ∀ position, position < chain.length →
    (position < calls.length ↔
      ∀ before, before < position → ∃ call, calls[before]? = some call ∧ call.HandsOn)

namespace Threaded

theorem stop (handler : Handler ν) (rest : List (Handler ν)) (request : Request)
    (response : Response)
    (stopped : ∀ nextRequest nextResponse,
      (handler.call request response).outcome ≠ .proceed nextRequest nextResponse) :
    Threaded (handler :: rest) request response [Call.make handler request response] := by
  refine ⟨?_, ?_, ?_, ?_⟩
  · exact ⟨rest, rfl⟩
  · intro first found
    cases found
    exact ⟨rfl, rfl⟩
  · intro position earlier later _ found
    simp at found
  · intro position _
    cases position with
    | zero => simp
    | succ position =>
        constructor
        · intro bound
          simp at bound
        · intro passed
          obtain ⟨call, found, nextRequest, nextResponse, given⟩ := passed 0 (Nat.succ_pos position)
          cases found
          exact absurd given (stopped nextRequest nextResponse)

theorem step (handler : Handler ν) (rest : List (Handler ν)) (request nextRequest : Request)
    (response nextResponse : Response) (calls : List (Call ν))
    (onward : (handler.call request response).outcome = .proceed nextRequest nextResponse)
    (tail : Threaded rest nextRequest nextResponse calls) :
    Threaded (handler :: rest) request response (Call.make handler request response :: calls) := by
  refine ⟨?_, ?_, ?_, ?_⟩
  · obtain ⟨uncalled, whole⟩ := tail.inOrder
    exact ⟨uncalled, congrArg (List.cons handler) whole⟩
  · intro first found
    cases found
    exact ⟨rfl, rfl⟩
  · intro position earlier later foundEarlier foundLater
    cases position with
    | zero =>
        cases foundEarlier
        obtain ⟨sameRequest, sameResponse⟩ := tail.opening later (by simpa using foundLater)
        rw [sameRequest, sameResponse]
        exact onward
    | succ position =>
        exact tail.handedOn position earlier later (by simpa using foundEarlier)
          (by simpa using foundLater)
  · intro position bound
    cases position with
    | zero => simp
    | succ position =>
        -- Behind the first entry, which hands on, the chain reaches what its tail reaches.
        have earlier := tail.reached position (by simpa using bound)
        constructor
        · intro called before _
          cases before with
          | zero => exact ⟨_, rfl, nextRequest, nextResponse, onward⟩
          | succ before =>
              simpa using earlier.mp (by simpa using called) before (by omega)
        · intro passed
          have below := earlier.mpr fun before bound => by
            simpa using passed (before + 1) (by omega)
          simpa using below

end Threaded

namespace Handler

theorem run_threaded (chain : List (Handler ν)) (request : Request) (response : Response) :
    Threaded chain request response (run chain request response).calls := by
  induction chain generalizing request response with
  | nil => exact ⟨List.nil_prefix, by simp [run], by simp [run], by simp⟩
  | cons handler rest ih =>
      rcases (handler.call request response).outcome.onward_or_stopped with
        ⟨nextRequest, nextResponse, given⟩ | stopped
      · rw [run_onward handler rest request nextRequest response nextResponse given]
        exact Threaded.step handler rest request nextRequest response nextResponse _ given
          (ih nextRequest nextResponse)
      · rw [run_stopped handler rest request response stopped]
        exact Threaded.stop handler rest request response stopped

/-! ### Stretches that are passed -/

inductive HandsThrough : List (Handler ν) → Request → Response → Request → Response → Prop where
  | nil (request : Request) (response : Response) :
      HandsThrough [] request response request response
  | cons {handler : Handler ν} {rest : List (Handler ν)} {request nextRequest lastRequest : Request}
      {response nextResponse lastResponse : Response}
      (onward : (handler.call request response).outcome = .proceed nextRequest nextResponse)
      (tail : HandsThrough rest nextRequest nextResponse lastRequest lastResponse) :
      HandsThrough (handler :: rest) request response lastRequest lastResponse

/-- The first entry that hands nothing on, with what it was given. -/
def StopsAt (chain : List (Handler ν)) (request : Request) (response : Response)
    (outcome : Outcome) : Prop :=
  ∃ passed handler unreached lastRequest lastResponse,
    chain = passed ++ handler :: unreached ∧
      HandsThrough passed request response lastRequest lastResponse ∧
      (handler.call lastRequest lastResponse).outcome = outcome ∧
      ∀ nextRequest nextResponse, outcome ≠ .proceed nextRequest nextResponse

theorem stops_cons_onward (handler : Handler ν) (rest : List (Handler ν))
    (request nextRequest : Request) (response nextResponse : Response) (outcome : Outcome)
    (onward : (handler.call request response).outcome = .proceed nextRequest nextResponse) :
    StopsAt (handler :: rest) request response outcome ↔
      StopsAt rest nextRequest nextResponse outcome := by
  constructor
  · rintro ⟨passed, last, unreached, lastRequest, lastResponse, whole, through, given, stopped⟩
    cases through with
    | nil =>
        obtain ⟨same, _⟩ := List.cons.inj whole
        subst same
        exact absurd (given.symm.trans onward) (stopped nextRequest nextResponse)
    | cons step tail =>
        obtain ⟨same, shorter⟩ := List.cons.inj whole
        subst same
        have handed := step.symm.trans onward
        cases handed
        exact ⟨_, last, unreached, lastRequest, lastResponse, shorter, tail, given, stopped⟩
  · rintro ⟨passed, last, unreached, lastRequest, lastResponse, whole, through, given, stopped⟩
    exact ⟨handler :: passed, last, unreached, lastRequest, lastResponse,
      congrArg (List.cons handler) whole, .cons onward through, given, stopped⟩

theorem stops_cons_stopped (handler : Handler ν) (rest : List (Handler ν)) (request : Request)
    (response : Response) (outcome : Outcome)
    (stopped : ∀ nextRequest nextResponse,
      (handler.call request response).outcome ≠ .proceed nextRequest nextResponse) :
    StopsAt (handler :: rest) request response outcome ↔
      (handler.call request response).outcome = outcome := by
  constructor
  · rintro ⟨passed, last, unreached, lastRequest, lastResponse, whole, through, given, _⟩
    cases through with
    | nil =>
        obtain ⟨same, _⟩ := List.cons.inj whole
        subst same
        exact given
    | cons step tail =>
        obtain ⟨same, _⟩ := List.cons.inj whole
        subst same
        exact absurd step (stopped _ _)
  · intro given
    exact ⟨[], handler, rest, request, response, rfl, .nil request response, given,
      given ▸ stopped⟩

theorem run_aborts (chain : List (Handler ν)) (request : Request) (response : Response)
    (fault : Fault) :
    (run chain request response).next = .abort fault ↔
      ∃ outcome, StopsAt chain request response outcome ∧ outcome.failure? = some fault := by
  induction chain generalizing request response with
  | nil => simp [run, StopsAt]
  | cons handler rest ih =>
      rcases (handler.call request response).outcome.onward_or_stopped with
        ⟨nextRequest, nextResponse, given⟩ | stopped
      · rw [run_onward handler rest request nextRequest response nextResponse given]
        simp only [ih,
          stops_cons_onward handler rest request nextRequest response nextResponse _ given]
      · rw [run_stopped handler rest request response stopped, Outcome.next_abort]
        simp only [stops_cons_stopped handler rest request response _ stopped]
        simp

end Handler
end HttpRouter
