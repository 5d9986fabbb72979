import HttpRouter.Router

/-!
Building routers. A builder collects registrations. The first one that is refused decides: every
later one leaves the builder as it is, and `build` answers with that refusal. The order of routes,
middleware and error handlers among each other has no meaning.
-/

namespace HttpRouter

inductive BuildError where
  | methodName (name : String)
  | noHandler (pattern : String)
  deriving DecidableEq, Repr

def BuildError.message : BuildError → String
  | .methodName name => "Invalid HTTP method name: " ++ Text.quote name
  | .noHandler pattern => "The route " ++ Text.quote pattern ++ " has no handler"

structure Draft (ν : Type) where
  routes : List (RouteMethod × Route ν)
  middleware : List (Middleware ν)
  recovery : Option (Recovery ν)

namespace Draft
variable {ν : Type}

def empty : Draft ν := ⟨[], [], none⟩

def router (draft : Draft ν) : Router ν where
  table := Table.ofList draft.routes
  globalMiddleware := draft.middleware.filter Middleware.isGlobal
  scopedMiddleware := draft.middleware.filter fun middleware => !middleware.isGlobal
  recovery := draft.recovery.getD .fallback

end Draft

structure Builder (ν : Type) where
  state : Except BuildError (Draft ν)

inductive Registration (ν : Type) where
  | add (method : RouteMethod) (pattern : String) (handlers : List (Handler ν))
  | named (name pattern : String) (handler : Handler ν)
  | middleware (middleware : Middleware ν)
  | recover (recovery : Recovery ν)

namespace Builder
variable {ν : Type}

def empty : Builder ν := ⟨.ok .empty⟩

instance : Inhabited (Builder ν) := ⟨empty⟩

/-- Changes the draft unless something was refused before. -/
def amend (builder : Builder ν) (change : Draft ν → Except BuildError (Draft ν)) : Builder ν :=
  match builder.state with
  | .ok draft => ⟨change draft⟩
  | .error refusal => ⟨.error refusal⟩

def add (builder : Builder ν) (method : RouteMethod) (pattern : String)
    (handlers : List (Handler ν)) : Builder ν :=
  builder.amend fun draft =>
    if handlers.isEmpty then .error (.noHandler pattern)
    else .ok { draft with routes := draft.routes ++ [(method, .ofText pattern handlers)] }

def route (builder : Builder ν) (name pattern : String) (handler : Handler ν) : Builder ν :=
  match RouteMethod.parse? name with
  | some method => builder.add method pattern [handler]
  | none => builder.amend fun _ => .error (.methodName name)

def get (builder : Builder ν) (pattern : String) (handler : Handler ν) : Builder ν :=
  builder.add (.only .get) pattern [handler]

def post (builder : Builder ν) (pattern : String) (handler : Handler ν) : Builder ν :=
  builder.add (.only .post) pattern [handler]

def put (builder : Builder ν) (pattern : String) (handler : Handler ν) : Builder ν :=
  builder.add (.only .put) pattern [handler]

def delete (builder : Builder ν) (pattern : String) (handler : Handler ν) : Builder ν :=
  builder.add (.only .delete) pattern [handler]

def patch (builder : Builder ν) (pattern : String) (handler : Handler ν) : Builder ν :=
  builder.add (.only .patch) pattern [handler]

def head (builder : Builder ν) (pattern : String) (handler : Handler ν) : Builder ν :=
  builder.add (.only .head) pattern [handler]

def options (builder : Builder ν) (pattern : String) (handler : Handler ν) : Builder ν :=
  builder.add (.only .options) pattern [handler]

def trace (builder : Builder ν) (pattern : String) (handler : Handler ν) : Builder ν :=
  builder.add (.only .trace) pattern [handler]

def connect (builder : Builder ν) (pattern : String) (handler : Handler ν) : Builder ν :=
  builder.add (.only .connect) pattern [handler]

def anyMethod (builder : Builder ν) (pattern : String) (handler : Handler ν) : Builder ν :=
  builder.add .any pattern [handler]

def middleware (builder : Builder ν) (middleware : Middleware ν) : Builder ν :=
  builder.amend fun draft => .ok { draft with middleware := draft.middleware ++ [middleware] }

/-- Registers the error handler, in the place of any other. -/
def recover (builder : Builder ν) (recovery : Recovery ν) : Builder ν :=
  builder.amend fun draft => .ok { draft with recovery := some recovery }

def register (builder : Builder ν) : Registration ν → Builder ν
  | .add method pattern handlers => builder.add method pattern handlers
  | .named name pattern handler => builder.route name pattern handler
  | .middleware middleware => builder.middleware middleware
  | .recover recovery => builder.recover recovery

def run : Builder ν → List (Registration ν) → Builder ν
  | builder, [] => builder
  | builder, registration :: rest => (builder.register registration).run rest

def stages : Builder ν → List (Registration ν) → List (Builder ν)
  | _, [] => []
  | builder, registration :: rest =>
      builder.register registration :: (builder.register registration).stages rest

def build (builder : Builder ν) : Except BuildError (Router ν) :=
  builder.state.map Draft.router

def describe (builder : Builder ν) : String :=
  match builder.state with
  | .ok draft =>
      "\x7b routes: " ++ Text.listing (draft.routes.map Table.describeEntry) ++ ", middlewares: " ++
        Text.listing (draft.middleware.map Middleware.describe) ++ " \x7d"
  | .error refusal => "\x7b error: " ++ refusal.message ++ " \x7d"

end Builder

def Router.ofRegistrations {ν : Type} (registrations : List (Registration ν)) :
    Except BuildError (Router ν) :=
  (Builder.empty.run registrations).build

end HttpRouter
