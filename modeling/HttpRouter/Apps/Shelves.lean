import HttpRouter.Builder

/-!
Shelves of books and files: a route with an optional parameter and one with a wildcard.
-/

namespace HttpRouter.Apps.Shelves

def book : Handler Record :=
  ⟨fun request response =>
    let user := (request.param "userName").getD ""
    let title := (request.param "bookName").getD "every book"
    ⟨[], .complete (response.withBody ("User: " ++ user ++ ", Book: " ++ title))⟩⟩

def file : Handler Record :=
  ⟨fun request response =>
    ⟨[], .complete (response.withBody ("File: " ++ (request.param "*").getD ""))⟩⟩

def builder : Builder Record :=
  Builder.empty
    |>.get "/users/:userName/books/:bookName?" book
    |>.get "/files/*" file

def router : Except BuildError (Router Record) :=
  builder.build

end HttpRouter.Apps.Shelves
