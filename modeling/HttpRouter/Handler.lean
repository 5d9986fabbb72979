import HttpRouter.Fault

/-!
Handlers. A handler is given a request and the response under construction. It may hand both on,
finish with a response, give up with a fault in its answer, fail with a fault of its own, or panic,
when it is called or while it runs. The signal that steers a chain knows three of these: all the
failures are one, and the one place where a failed chain gets its response is the error handler. It
may ask for a snapshot of the request, taken before the chain started. Nothing stands behind it, so
a panic of its own leaves the router.
-/

namespace HttpRouter

/-- When a handler panics: before there is anything to wait for, or while it runs. -/
inductive Moment where
  | called
  | running
  deriving DecidableEq, Repr

inductive Outcome where
  | proceed (request : Request) (response : Response)
  | complete (response : Response)
  | abort (fault : Fault)
  | fail (fault : Fault)
  | panic (moment : Moment) (payload : Payload)
  deriving DecidableEq

inductive Next where
  | proceed (request : Request) (response : Response)
  | complete (response : Response)
  | abort (fault : Fault)
  deriving DecidableEq

/-- Every failure becomes an abort. A panic is caught at either moment. -/
def Outcome.next : Outcome → Next
  | .proceed request response => .proceed request response
  | .complete response => .complete response
  | .abort fault => .abort fault
  | .fail fault => .abort fault
  | .panic _ payload => .abort (.ofPayload payload)

def Next.describe : Next → String
  | .proceed request response =>
      "Continue(" ++ request.method.name ++ " " ++ request.uri.render ++ ", " ++
        response.status.describe ++ ")"
  | .complete response => "Complete(" ++ response.status.describe ++ ")"
  | .abort fault => "Abort(" ++ fault.message ++ ")"

structure Reply (ν : Type) where
  trace : List (Observation ν)
  outcome : Outcome

structure Handler (ν : Type) where
  call : Request → Response → Reply ν

structure Call (ν : Type) where
  handler : Handler ν
  request : Request
  response : Response
  reply : Reply ν
  replied : reply = handler.call request response

namespace Call
variable {ν : Type}

def make (handler : Handler ν) (request : Request) (response : Response) : Call ν :=
  ⟨handler, request, response, handler.call request response, rfl⟩

def next (call : Call ν) : Next :=
  call.reply.outcome.next

def trace (call : Call ν) : List (Observation ν) :=
  call.reply.trace

end Call

structure Passage (ν : Type) where
  calls : List (Call ν)
  next : Next

namespace Handler
variable {ν : Type}

def invoke (handler : Handler ν) (request : Request) (response : Response) : Passage ν :=
  let call := Call.make handler request response
  ⟨[call], call.next⟩

/-- A chain of handlers: each gets what the one before it handed on, and the first that hands
nothing on ends the chain. -/
def run : List (Handler ν) → Request → Response → Passage ν
  | [], request, response => ⟨[], .proceed request response⟩
  | handler :: rest, request, response =>
      let call := Call.make handler request response
      match call.next with
      | .proceed nextRequest nextResponse =>
          let passage := run rest nextRequest nextResponse
          ⟨call :: passage.calls, passage.next⟩
      | done => ⟨[call], done⟩

end Handler

/-! ### Error handlers -/

structure RecoveryReply (ν : Type) where
  trace : List (Observation ν)
  outcome : Except Payload Response

inductive Recovery (ν : Type) where
  | plain (respond : Fault → RecoveryReply ν)
  | informed (respond : Fault → RequestInfo → RecoveryReply ν)

namespace Recovery
variable {ν : Type}

def wantsInfo : Recovery ν → Bool
  | .plain _ => false
  | .informed _ => true

def respond : Recovery ν → Fault → Option RequestInfo → RecoveryReply ν
  | .plain respond, fault, _ => respond fault
  | .informed respond, fault, info => respond fault (info.getD default)

def fallback : Recovery ν :=
  .plain fun fault => ⟨[], .ok (Response.ofText .internalServerError fault.message)⟩

end Recovery

structure Rescue (ν : Type) where
  recovery : Recovery ν
  fault : Fault
  path : String
  info : Option RequestInfo
  reply : RecoveryReply ν
  replied : reply = recovery.respond fault info

namespace Rescue
variable {ν : Type}

def make (recovery : Recovery ν) (fault : Fault) (path : String) (info : Option RequestInfo) :
    Rescue ν :=
  ⟨recovery, fault, path, info, recovery.respond fault info, rfl⟩

/-- The abort is written down before the error handler is called. -/
def trace (rescue : Rescue ν) : List (Observation ν) :=
  .event (.aborted rescue.fault rescue.path) :: .recovering rescue.fault :: rescue.reply.trace

end Rescue
end HttpRouter
