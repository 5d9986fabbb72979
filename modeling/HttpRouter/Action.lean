import HttpRouter.Router

/-!
Handlers written as lists of actions. An action hands on a request and a response, changed or not,
or ends the handler. An inner router is reached by an action too: it ends the handler with what its
dispatch came to, and what it wrote down becomes part of the handler's own trace.
-/

namespace HttpRouter

inductive Progress (ν : Type) where
  | onward (trace : List (Observation ν)) (request : Request) (response : Response)
  | ended (reply : Reply ν)

namespace Progress
variable {ν : Type}

def after (earlier : List (Observation ν)) : Progress ν → Progress ν
  | .onward trace request response => .onward (earlier ++ trace) request response
  | .ended reply => .ended ⟨earlier ++ reply.trace, reply.outcome⟩

/-- A handler that is not ended by an action hands on what it has. -/
def reply : Progress ν → Reply ν
  | .onward trace request response => ⟨trace, .proceed request response⟩
  | .ended reply => reply

end Progress

structure Action (ν : Type) where
  act : Request → Response → Progress ν

namespace Action
variable {ν : Type}

def runAll : List (Action ν) → Request → Response → Progress ν
  | [], request, response => .onward [] request response
  | action :: rest, request, response =>
      match action.act request response with
      | .onward trace nextRequest nextResponse =>
          (runAll rest nextRequest nextResponse).after trace
      | .ended reply => .ended reply

def note (write : Request → Response → ν) : Action ν :=
  ⟨fun request response => .onward [.note (write request response)] request response⟩

def onRequest (change : Request → Request) : Action ν :=
  ⟨fun request response => .onward [] (change request) response⟩

def onResponse (change : Request → Response → Response) : Action ν :=
  ⟨fun request response => .onward [] request (change request response)⟩

/-- Lets other work run in between; nothing of it shows. -/
def pause : Action ν :=
  ⟨fun request response => .onward [] request response⟩

def whenever (holds : Request → Bool) (actions : List (Action ν)) : Action ν :=
  ⟨fun request response =>
    if holds request then runAll actions request response else .onward [] request response⟩

def finish (outcome : Request → Response → Outcome) : Action ν :=
  ⟨fun request response => .ended ⟨[], outcome request response⟩⟩

/-- How a handler ends that answers with the run of an inner router. A panic of the inner error
handler strikes while the outer handler runs. -/
def outcomeOf : Answer → Outcome
  | .response response => .complete response
  | .refused fault => .abort fault
  | .panicked payload => .panic .running payload

def ofRun (run : Run ν) : Progress ν :=
  .ended ⟨run.trace, outcomeOf run.answer⟩

def dispatch (router : Router ν) : Action ν :=
  ⟨fun request _ => ofRun (router.dispatch request)⟩

def serve (router : Router ν) (peer : Address) : Action ν :=
  ⟨fun request _ => ofRun (router.serve peer request)⟩

end Action

def Handler.ofActions {ν : Type} (actions : List (Action ν)) : Handler ν :=
  ⟨fun request response => (Action.runAll actions request response).reply⟩

end HttpRouter
