import HttpRouter.Builder

/-!
Locked orders: every route fails, and the error handler answers from its snapshot of the request.
-/

namespace HttpRouter.Apps.Orders

def home : Handler Record :=
  ⟨fun _ _ => ⟨[], .fail (.foreign "Some errors")⟩⟩

def order : Handler Record :=
  ⟨fun request _ =>
    ⟨[], .abort (.foreign ("Order " ++ (request.param "id").getD "" ++ " is locked"))⟩⟩

def withCookie (info : RequestInfo) (headers : Headers) : Headers :=
  match info.headers.get? "cookie" with
  | some cookie => headers.insert "set-cookie" cookie
  | none => headers

/-- Names the order, unless its name cannot stand in a header. -/
def withOrder (info : RequestInfo) (headers : Headers) : Headers :=
  match info.params.get? "id" with
  | some id => if Headers.isValue id then headers.insert "x-order-id" id else headers
  | none => headers

def recovery : Recovery Record :=
  .informed fun fault info =>
    ⟨[], .ok ⟨.internalServerError, withOrder info (withCookie info Headers.empty),
      "Something went wrong: " ++ fault.message⟩⟩

def builder : Builder Record :=
  Builder.empty
    |>.get "/" home
    |>.get "/orders/:id" order
    |>.recover recovery

def router : Except BuildError (Router Record) :=
  builder.build

end HttpRouter.Apps.Orders
