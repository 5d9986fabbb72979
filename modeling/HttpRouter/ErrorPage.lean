import HttpRouter.Action

/-!
Notes that handlers and error handlers make about what they see, and error pages: error handlers
that note the fault and answer with a fixed status and headers.
-/

namespace HttpRouter

inductive Note where
  | text (text : String)
  | request (request : Request)
  | response (response : Response)
  | param (name : String) (value : Option String)
  | queryParam (name : String) (value : Option String)
  | header (name : String) (value : Option String)
  | failure (fault : Fault) (info : Option RequestInfo)
  deriving DecidableEq

namespace Note

def log (text : String) : Action Note :=
  .note fun _ _ => .text text

def seeRequest : Action Note :=
  .note fun request _ => .request request

def seeResponse : Action Note :=
  .note fun _ response => .response response

def seeParam (name : String) : Action Note :=
  .note fun request _ => .param name (request.param name)

def seeQueryParam (name : String) : Action Note :=
  .note fun request _ => .queryParam name (request.queryParam name)

def seeHeader (name : String) : Action Note :=
  .note fun request _ => .header name (request.headers.get? name)

end Note

/-- An error page: a status, headers, and a text in front of the fault's message. It may panic
instead, once it has noted the fault. -/
structure ErrorPage where
  status : Status
  lead : String
  headers : List (String × String)
  panics : Option String
  deriving DecidableEq, Repr

namespace ErrorPage

def render (page : ErrorPage) (fault : Fault) : Except Payload Response :=
  match page.panics with
  | some text => .error (.text text)
  | none => .ok ⟨page.status, Headers.ofList page.headers, page.lead ++ fault.message⟩

def plain (page : ErrorPage) : Recovery Note :=
  .plain fun fault => ⟨[.note (.failure fault none)], page.render fault⟩

def informed (page : ErrorPage) : Recovery Note :=
  .informed fun fault info => ⟨[.note (.failure fault (some info))], page.render fault⟩

end ErrorPage
end HttpRouter
