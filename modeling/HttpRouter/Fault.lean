import HttpRouter.Message

/-!
What can go wrong while a request is handled, and what is written down about it. The router raises
three faults itself: several routes claim one request, a handler panics, a listener cannot be bound.
Applications raise plain messages and errors of their own. The router's own events stand apart from
the notes that handlers make; a record is the form in which either reaches a log.
-/

namespace HttpRouter

/-- What a panic carries: a text, or a value that cannot be shown. -/
inductive Payload where
  | text (text : String)
  | other
  deriving DecidableEq, Repr

inductive Fault where
  | plain (text : String)
  | ambiguousRoute (method : Method) (path : String) (count : Nat)
  | handlerPanicked (text : String)
  | bind (address cause : String)
  | foreign (text : String)
  deriving DecidableEq

namespace Fault

def ofPayload : Payload → Fault
  | .text text => .handlerPanicked text
  | .other => .handlerPanicked "non-string panic payload"

def message : Fault → String
  | .plain text => text
  | .ambiguousRoute method path count =>
      toString count ++ " routes match " ++ method.name ++ " " ++ path ++
        ", route patterns must not overlap"
  | .handlerPanicked text => "handler panicked: " ++ text
  | .bind address cause => "could not listen on " ++ address ++ ": " ++ cause
  | .foreign text => text

def isAmbiguousRoute : Fault → Bool
  | .ambiguousRoute .. => true
  | _ => false

def cause : Fault → Option String
  | .bind _ cause => some cause
  | _ => none

def describe : Fault → String
  | .plain text => "Message(" ++ Text.quote text ++ ")"
  | .ambiguousRoute method path count =>
      "AmbiguousRoute \x7b method: " ++ method.name ++ ", path: " ++ Text.quote path ++
        ", count: " ++ toString count ++ " \x7d"
  | .handlerPanicked text => "HandlerPanicked(" ++ Text.quote text ++ ")"
  | .bind address cause =>
      "Bind \x7b addr: " ++ Text.quote address ++ ", source: " ++ cause ++ " \x7d"
  | .foreign text => Text.quote text

end Fault

/-! ### Events -/

inductive Level where
  | debug
  | info
  | error
  deriving DecidableEq, Repr

def Level.name : Level → String
  | .debug => "DEBUG"
  | .info => "INFO"
  | .error => "ERROR"

structure Record where
  level : Level
  message : String
  fields : List (String × String)
  deriving DecidableEq, Repr

inductive Event where
  | unmatched (method : Method) (path : String)
  | ambiguous (fault : Fault)
  | matched (method : Method) (path pattern : String)
  | aborted (fault : Fault) (path : String)
  deriving DecidableEq

def Event.record : Event → Record
  | .unmatched method path =>
      ⟨.debug, "no route matched", [("method", method.name), ("path", path)]⟩
  | .ambiguous fault => ⟨.error, "ambiguous route table", [("error", fault.message)]⟩
  | .matched method path pattern =>
      ⟨.debug, "route matched", [("method", method.name), ("path", path), ("route", pattern)]⟩
  | .aborted fault path =>
      ⟨.debug, "handler chain aborted", [("error", fault.message), ("path", path)]⟩

/-- One entry of the trace that a run leaves: an event of a router, the moment an error handler is
called, or a note that a handler made. -/
inductive Observation (ν : Type) where
  | event (event : Event)
  | recovering (fault : Fault)
  | note (note : ν)

end HttpRouter
