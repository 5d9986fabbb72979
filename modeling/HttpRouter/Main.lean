import HttpRouter.Apps.Site
import HttpRouter.Settings

/-!
The command line of the site. It reads its settings from the environment and answers requests given
one a line, a method and a target, as a peer on the configured address would get them.
-/

namespace HttpRouter

/-- One line of a console: a method and a target with a blank between them. -/
def RawRequest.ofLine (line : String) : RawRequest :=
  let chars := line.toList.filter fun char => char != '\r' && char != '\n'
  ⟨String.ofList (chars.takeWhile (· != ' ')),
    String.ofList ((chars.dropWhile (· != ' ')).drop 1), .http11, Headers.empty, .arriving⟩

def Router.console {ν : Type} (router : Router ν) (peer : Address) (line : String) : String :=
  match (RawRequest.ofLine line).read with
  | .error error => error.message
  | .ok request =>
      match (router.serve peer request).answer with
      | .response response => response.status.describe ++ "\n" ++ response.body
      | .refused fault => fault.message
      | .panicked _ => "the error handler panicked"

partial def answerLines (router : Router Record) (peer : Address) (input output : IO.FS.Stream) :
    IO Unit := do
  let line ← input.getLine
  if line.isEmpty then return
  output.putStrLn (router.console peer line)
  output.flush
  answerLines router peer input output

def start : IO UInt32 := do
  match Settings.read (← IO.getEnv "HOST") (← IO.getEnv "PORT") with
  | .error fault =>
      IO.eprint fault.report
      return 1
  | .ok settings =>
      match Apps.Site.router with
      | .error refusal =>
          IO.eprint (Fault.plain refusal.message).report
          return 1
      | .ok router =>
          answerLines router ⟨.v4 127 0 0 1, settings.port⟩ (← IO.getStdin) (← IO.getStdout)
          return 0

end HttpRouter

def main : IO UInt32 :=
  HttpRouter.start
