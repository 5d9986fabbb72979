import HttpRouter.Handler
import HttpRouter.Pattern

/-!
Routes, routers, and one request through one router. A route has a pattern, which must fit the whole
path, and handlers of its own. A middleware has one handler, which runs before those of the route:
for every path, or for the paths that its scope covers.

The route is decided first and once, from the method and the path that the request arrived with. All
the routes that the method may take are tested: one that fits is the match, none is no match, and
several are a fault of the table, whatever their order. A request without a match is answered as not
found, one with several is refused, and in neither case is anybody called. Otherwise the middleware
that applies and the handlers of the route run as one chain, and a failed chain is answered by the
error handler.
-/

namespace HttpRouter

inductive RouteMethod where
  | any
  | only (method : Method)
  deriving DecidableEq

namespace RouteMethod

def parse? (name : String) : Option RouteMethod :=
  if name = "*" then some .any
  else (Method.ofName? (String.ofList (name.toList.map Char.toUpper))).map .only

def describe : RouteMethod → String
  | .any => "Any"
  | .only method => "Only(" ++ method.name ++ ")"

end RouteMethod

structure Route (ν : Type) where
  pattern : Pattern
  handlers : List (Handler ν)

namespace Route
variable {ν : Type}

def ofText (pattern : String) (handlers : List (Handler ν)) : Route ν :=
  ⟨Pattern.ofText pattern, handlers⟩

def describe (route : Route ν) : String :=
  "\x7b path: " ++ Text.quote route.pattern.text ++ ", segments: " ++ route.pattern.describe ++
    ", handlers: " ++ toString route.handlers.length ++ " \x7d"

end Route

structure Middleware (ν : Type) where
  scope : Option Pattern
  handler : Handler ν

namespace Middleware
variable {ν : Type}

def everywhere (handler : Handler ν) : Middleware ν := ⟨none, handler⟩

/-- The scope of the root path is every path. -/
def within (path : String) (handler : Handler ν) : Middleware ν :=
  if Path.clean path = Path.root then everywhere handler
  else ⟨some (Pattern.ofText path), handler⟩

def isGlobal (middleware : Middleware ν) : Bool :=
  middleware.scope.isNone

def appliesTo (middleware : Middleware ν) (pieces : List String) : Bool :=
  match middleware.scope with
  | none => true
  | some scope => scope.covers pieces

def describe (middleware : Middleware ν) : String :=
  "\x7b path: " ++ Text.quoteOption (middleware.scope.map Pattern.text) ++ ", scope: " ++
    (match middleware.scope with | none => "[]" | some scope => scope.describe) ++ " \x7d"

end Middleware

/-! ### The route table

The routes of each method in the order they were registered, and apart from them the routes
registered for every method, which are looked up after a method's own. -/

structure Table (ν : Type) where
  byMethod : List (Method × List (Route ν))
  anyMethod : List (Route ν)

namespace Table
variable {ν : Type}

def empty : Table ν := ⟨[], []⟩

def insertInto (method : Method) (route : Route ν) :
    List (Method × List (Route ν)) → List (Method × List (Route ν))
  | [] => [(method, [route])]
  | (other, routes) :: rest =>
      if other = method then (other, routes ++ [route]) :: rest
      else (other, routes) :: insertInto method route rest

def register (table : Table ν) (method : RouteMethod) (route : Route ν) : Table ν :=
  match method with
  | .any => { table with anyMethod := table.anyMethod ++ [route] }
  | .only method => { table with byMethod := insertInto method route table.byMethod }

def ofList (routes : List (RouteMethod × Route ν)) : Table ν :=
  routes.foldl (fun table entry => table.register entry.1 entry.2) empty

def bucket (method : Method) : List (Method × List (Route ν)) → List (Route ν)
  | [] => []
  | (other, routes) :: rest => if other = method then routes else bucket method rest

def lookup (table : Table ν) (method : Method) : List (Route ν) :=
  bucket method table.byMethod ++ table.anyMethod

def entries (table : Table ν) : List (RouteMethod × Route ν) :=
  (table.byMethod.flatMap fun (method, routes) => routes.map fun route => (.only method, route)) ++
    table.anyMethod.map fun route => (.any, route)

def size (table : Table ν) : Nat :=
  (table.byMethod.flatMap Prod.snd).length + table.anyMethod.length

def describeEntry (entry : RouteMethod × Route ν) : String :=
  "(" ++ entry.1.describe ++ ", " ++ entry.2.describe ++ ")"

end Table

/-! ### The decision -/

structure Router (ν : Type) where
  table : Table ν
  globalMiddleware : List (Middleware ν)
  scopedMiddleware : List (Middleware ν)
  recovery : Recovery ν

structure Match (ν : Type) where
  route : Route ν
  params : Params

def Match.describe {ν : Type} (found : Match ν) : String :=
  "\x7b route: " ++ found.route.describe ++ ", params: " ++ found.params.describe ++ " \x7d"

namespace Router
variable {ν : Type}

def findAmong (router : Router ν) (method : Method) (path : String) (pieces : List String) :
    Except Fault (Option (Match ν)) :=
  match (router.table.lookup method).filter fun route => route.pattern.fits pieces with
  | [] => .ok none
  | [route] => .ok (some ⟨route, route.pattern.extract pieces⟩)
  | several => .error (.ambiguousRoute method path several.length)

def find (router : Router ν) (method : Method) (path : String) :
    Except Fault (Option (Match ν)) :=
  router.findAmong method path (Path.splitDecoded path)

def routesCount (router : Router ν) : Nat :=
  router.table.size

def describe (router : Router ν) : String :=
  "\x7b Routes: " ++ Text.listing (router.table.entries.map Table.describeEntry) ++
    ", Middlewares: " ++ Text.listing (router.globalMiddleware.map Middleware.describe) ++
    ", Scoped Middlewares: " ++
    Text.listing (router.scopedMiddleware.map Middleware.describe) ++ " \x7d"

end Router

/-! ### Dispatch -/

/-- How a dispatch ends. A panic is that of the error handler. -/
inductive Answer where
  | response (response : Response)
  | refused (fault : Fault)
  | panicked (payload : Payload)
  deriving DecidableEq

def RecoveryReply.answer {ν : Type} (reply : RecoveryReply ν) : Answer :=
  match reply.outcome with
  | .ok response => .response response
  | .error payload => .panicked payload

/-- Everything that happened in one dispatch: the decision, the calls of the chain, the call of the
error handler if there was one, and the answer. -/
structure Run (ν : Type) where
  decision : Event
  calls : List (Call ν)
  rescue : Option (Rescue ν)
  answer : Answer

/-- What was written down, in order, runs of inner routers included. -/
def Run.trace {ν : Type} (run : Run ν) : List (Observation ν) :=
  .event run.decision :: run.calls.flatMap Call.trace ++
    match run.rescue with
    | some rescue => rescue.trace
    | none => []

namespace Router
variable {ν : Type}

def applicable (router : Router ν) (pieces : List String) : List (Middleware ν) :=
  router.scopedMiddleware.filter fun middleware => middleware.appliesTo pieces

def chain (router : Router ν) (pieces : List String) (route : Route ν) : List (Handler ν) :=
  (router.globalMiddleware ++ router.applicable pieces).map Middleware.handler ++ route.handlers

/-- Runs the chain. A lone handler is called directly. -/
def runChain (router : Router ν) (pieces : List String) (route : Route ν) (request : Request) :
    Passage ν :=
  match router.globalMiddleware, router.applicable pieces, route.handlers with
  | [], [], [handler] => handler.invoke request .blank
  | _, _, _ => Handler.run (router.chain pieces route) request .blank

def snapshot (router : Router ν) (request : Request) : Option RequestInfo :=
  if router.recovery.wantsInfo then some (.ofRequest request) else none

def conclude (router : Router ν) (path : String) (info : Option RequestInfo) (decision : Event)
    (passage : Passage ν) : Run ν :=
  match passage.next with
  | .proceed _ response => ⟨decision, passage.calls, none, .response response⟩
  | .complete response => ⟨decision, passage.calls, none, .response response⟩
  | .abort fault =>
      let rescue := Rescue.make router.recovery fault path info
      ⟨decision, passage.calls, some rescue, rescue.reply.answer⟩

def process (router : Router ν) (path : String) (request : Request) : Run ν :=
  let pieces := Path.splitDecoded path
  match router.findAmong request.method path pieces with
  | .ok none => ⟨.unmatched request.method path, [], none, .response .notFound⟩
  | .error fault => ⟨.ambiguous fault, [], none, .refused fault⟩
  | .ok (some found) =>
      let ready := request.captured found.params
      router.conclude path (router.snapshot ready)
        (.matched request.method path found.route.pattern.text)
        (router.runChain pieces found.route ready)

def dispatch (router : Router ν) (request : Request) : Run ν :=
  router.process (Target.ofUri request.uri).path request.aim

def serve (router : Router ν) (peer : Address) (request : Request) : Run ν :=
  router.dispatch (request.fromPeer peer)

end Router
end HttpRouter
