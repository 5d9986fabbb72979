import HttpRouter.Builder

/-!
A small site: a home page, a greeting for every user, a search, and a health check that answers
every method. Every request that has a route is logged, and so is every failure.
-/

namespace HttpRouter.Apps.Site

def completing (page : Request → String) : Handler Record :=
  ⟨fun request response => ⟨[], .complete (response.withBody (page request))⟩⟩

def showPeer : Option Address → String
  | none => "None"
  | some peer => "Some(" ++ peer.render ++ ")"

def logger : Middleware Record :=
  .everywhere ⟨fun request response =>
    ⟨[.note ⟨.info, "Incoming request",
        [("method", request.method.name), ("path", request.path),
          ("remote_addr", showPeer request.peer)]⟩],
      .proceed request response⟩⟩

def home : Handler Record :=
  completing fun _ => "Home page"

def greeting : Handler Record :=
  completing fun request => "Hello " ++ (request.param "userId").getD ""

def search : Handler Record :=
  ⟨fun request response =>
    match request.queryParam "q" with
    | some term => ⟨[], .complete (response.withBody ("Results for " ++ term))⟩
    | none => ⟨[], .fail (.plain "missing query parameter `q`")⟩⟩

def health : Handler Record :=
  completing fun _ => "ok"

def recovery : Recovery Record :=
  .informed fun fault info =>
    ⟨[.note ⟨.error, "Request failed",
        [("error", fault.message), ("method", info.method.name), ("uri", info.uri.render)]⟩],
      .ok (.ofText .internalServerError ("Something went wrong: " ++ fault.message))⟩

def builder : Builder Record :=
  Builder.empty
    |>.middleware logger
    |>.get "/" home
    |>.get "/users/:userId" greeting
    |>.get "/search" search
    |>.anyMethod "/health" health
    |>.recover recovery

def router : Except BuildError (Router Record) :=
  builder.build

end HttpRouter.Apps.Site
