import HttpRouter.Router

/-!
One HTTP/1.1 connection: requests from one peer, answered in order. A request that asks to close the
connection is the last one answered, and so is one whose answer leaves the connection to another
use. A request that the router refuses ends the connection without an answer.
-/

namespace HttpRouter

namespace Text

/-! ### White space at the ends of a text

There are two notions of it: blanks, the space and the tab of a header line, and the white space of
Unicode, which readers of any text agree on. -/

def isBlank (char : Char) : Bool :=
  char == ' ' || char == '\t'

def whiteRanges : List (Nat × Nat) := [
  (0x9, 0xD), (0x20, 0x20), (0x85, 0x85), (0xA0, 0xA0), (0x1680, 0x1680), (0x2000, 0x200A),
  (0x2028, 0x2029), (0x202F, 0x202F), (0x205F, 0x205F), (0x3000, 0x3000)]

def isWhite (char : Char) : Bool :=
  whiteRanges.any fun range => range.1 ≤ char.toNat && char.toNat ≤ range.2

def trimChars (drops : Char → Bool) (text : List Char) : List Char :=
  ((text.dropWhile drops).reverse.dropWhile drops).reverse

def trim (drops : Char → Bool) (text : String) : String :=
  String.ofList (trimChars drops text.toList)

end Text

/-! ### Framing

Whether a body is sent, how its end is told, and what becomes of the headers that speak about the
connection itself. It depends on the method of the request, on the status, and on whether there is a
body to send. The head of a response is written name by name, in the order in which the names were
added: the first header that settles where the body ends excludes every later one that would settle
it again. -/

namespace Headers

def isPlainChar (char : Char) : Bool :=
  char == '\t' || (0x20 ≤ char.toNat && char.toNat < 0x7F)

/-- The words between commas, in lower case. A value beyond plain text has none. -/
def words (value : String) : List String :=
  if value.toList.all isPlainChar then
    (value.toList.splitOn ',').map fun word =>
      String.ofList ((Text.trimChars Text.isBlank word).map Char.toLower)
  else []

def asksToClose (headers : Headers) : Bool :=
  (headers.values "connection").any fun value => (words value).contains "close"

end Headers

inductive FramingError where
  | unexpectedHeader
  | interimStatus
  deriving DecidableEq, Repr

def FramingError.message : FramingError → String
  | .unexpectedHeader => "user sent unexpected header"
  | .interimStatus => "response has 1xx status code, not supported by server"

namespace Framing

def opensTunnel (method : Method) (status : Status) : Bool :=
  decide (method = .connect) && status.isSuccess

def admitsLength (method : Method) (status : Status) : Bool :=
  !(opensTunnel method status || status.isInformational || status.isBodiless)

/-- Whether a body may be sent. An answer to HEAD may tell of a body, and never has one. -/
def admitsBody (method : Method) (status : Status) : Bool :=
  decide (method ≠ .head) && admitsLength method status

def isFinal (method : Method) (response : Response) : Bool :=
  response.headers.asksToClose || opensTunnel method response.status || response.status.isSwitching

def closing (headers : Headers) : Headers :=
  if headers.asksToClose then headers else headers.append "connection" "close"

/-- A coded body ends with its last chunk: the last coding must be `chunked`. -/
def lacksChunks (codings : List String) : Bool :=
  match codings.getLast? with
  | some coding => decide ((Headers.words coding).getLast? ≠ some "chunked")
  | none => false

/-- The length of the body in bytes, where it may be told. An empty body says nothing about the
resource in answer to HEAD. -/
def ownLength (method : Method) (response : Response) : Option String :=
  if !admitsLength method response.status || decide (method = .head ∧ response.body = "") then none
  else some (toString response.body.utf8ByteSize)

inductive Role where
  | length
  | coding
  | connection
  | trailer
  | date
  | other
  deriving DecidableEq, Repr

def role : String → Role
  | "content-length" => .length
  | "transfer-encoding" => .coding
  | "connection" => .connection
  | "trailer" => .trailer
  | "date" => .date
  | _ => .other

end Framing

/-- The head of a response while it is written: the lines so far, whether the end of the body is
settled, and whether the coding of the body still lacks its `chunked`. -/
structure Head where
  lines : List (String × String)
  settled : Bool
  lacksChunks : Bool
  deriving DecidableEq, Repr

namespace Head

def start (method : Method) (response : Response) : Head :=
  ⟨[], Framing.opensTunnel method response.status, false⟩

def spread (head : Head) (name : String) (values : List String) : Head :=
  { head with lines := head.lines ++ values.map fun value => (name, value) }

/-- Writes values on one line, which ends in `chunked` as long as the coding lacks it. -/
def join (head : Head) (name : String) (values : List String) : Head :=
  head.spread name [", ".intercalate (values ++ if head.lacksChunks then ["chunked"] else [])]

/-- Lengths given by a handler. The first stands where there is a body. Without one a length is
dropped, but in answer to HEAD, where there may be only one. -/
def lengths (head : Head) (method : Method) (response : Response) (name : String)
    (values : List String) : Except FramingError Head :=
  if head.settled then .error .unexpectedHeader
  else if response.body ≠ "" then .ok { head.spread name (values.take 1) with settled := true }
  else if method ≠ .head then .ok head
  else if values.length ≤ 1 then .ok { head.spread name values with settled := true }
  else .error .unexpectedHeader

def codings (head : Head) (method : Method) (response : Response) (name : String)
    (values : List String) : Except FramingError Head :=
  if head.settled then .error .unexpectedHeader
  else if Framing.admitsBody method response.status then
    .ok (join ⟨head.lines, true, Framing.lacksChunks values⟩ name values)
  else .ok head

def write (method : Method) (response : Response) (head : Head) (group : String × List String) :
    Except FramingError Head :=
  match Framing.role group.1 with
  | .length => head.lengths method response group.1 group.2
  | .coding => head.codings method response group.1 group.2
  | .connection => .ok (head.join group.1 group.2)
  | .trailer =>
      .ok (if Framing.admitsBody method response.status then head.join group.1 group.2 else head)
  | .date => .ok head
  | .other => .ok (head.spread group.1 group.2)

def writeAll (method : Method) (response : Response) :
    List (String × List String) → Head → Except FramingError Head
  | [], head => .ok head
  | group :: rest, head =>
      match head.write method response group with
      | .ok next => writeAll method response rest next
      | .error error => .error error

def finish (method : Method) (response : Response) (head : Head) : Head :=
  if head.settled then head
  else { head.spread "content-length" (Framing.ownLength method response).toList with
    settled := true }

def headers (head : Head) : Headers :=
  ⟨head.lines.map fun line => (line.1, Text.trim Text.isWhite line.2)⟩

def ofHeaders (method : Method) (response : Response) (headers : Headers) :
    Except FramingError Head :=
  (writeAll method response headers.groups (start method response)).map (finish method response)

end Head

structure Delivery where
  response : Option Response
  error : Option FramingError
  deriving DecidableEq

namespace Response

/-- What goes out in the place of an interim status, which is no answer: an empty failure. -/
def interim (method : Method) : Response :=
  let failure := ofText .internalServerError ""
  ⟨failure.status, ((Head.start method failure).finish method failure).headers, ""⟩

def framed (response : Response) (method : Method) (closes : Bool) :
    Except FramingError Response :=
  let headers := if closes then Framing.closing response.headers else response.headers
  (Head.ofHeaders method response headers).map fun head =>
    ⟨response.status, head.headers,
      if Framing.admitsBody method response.status then response.body else ""⟩

def deliver (response : Response) (method : Method) (closes : Bool) : Delivery :=
  if response.status.isInformational && !response.status.isSwitching then
    ⟨some (interim method), some .interimStatus⟩
  else
    match response.framed method closes with
    | .ok framed => ⟨some framed, none⟩
    | .error error => ⟨none, some error⟩

end Response

/-! ### Exchanges -/

inductive ConnectionError where
  | refused
  | framing (error : FramingError)
  deriving DecidableEq, Repr

def ConnectionError.message : ConnectionError → String
  | .refused => "error from user's Service"
  | .framing error => error.message

inductive Connection where
  | open
  | closed
  | failed (error : ConnectionError)
  deriving DecidableEq, Repr

/-- What one request came to: its run, unless the connection had ended before it, and the response,
unless the connection ended without one. -/
structure Exchange (ν : Type) where
  run : Option (Run ν)
  response : Option Response

namespace Connection
variable {ν : Type}

def failure : Connection → Option String
  | .failed error => some error.message
  | _ => none

def unpadded (headers : Headers) : Headers :=
  ⟨headers.fields.map fun field => (field.1, Text.trim Text.isBlank field.2)⟩

def singleLength (headers : Headers) : Headers :=
  match headers.get? "content-length" with
  | some length => headers.insert "content-length" length
  | none => headers

def received (request : Request) : Request :=
  { request with headers := singleLength (unpadded request.headers) }

def after (request : Request) (response : Response) (delivery : Delivery) : Connection :=
  match delivery.error with
  | some error => .failed (.framing error)
  | none =>
      if request.headers.asksToClose || Framing.isFinal request.method response then .closed
      else .open

def answer (router : Router ν) (peer : Address) (request : Request) : Exchange ν × Connection :=
  let run := router.serve peer request
  match run.answer with
  | .response response =>
      let delivery := response.deliver request.method request.headers.asksToClose
      (⟨some run, delivery.response⟩, after request response delivery)
  | .refused _ => (⟨some run, none⟩, .failed .refused)
  | .panicked _ => (⟨some run, none⟩, .closed)

def exchange (router : Router ν) (peer : Address) (connection : Connection) (request : Request) :
    Exchange ν × Connection :=
  match connection with
  | .open => answer router peer request
  | ended => (⟨none, none⟩, ended)

/-- Serves requests in order. One that cannot be read fills its own place alone. -/
def serve (router : Router ν) (peer : Address) :
    Connection → List RawRequest → List (Except RequestError (Exchange ν)) × Connection
  | connection, [] => ([], connection)
  | connection, raw :: rest =>
      match raw.read with
      | .error error =>
          let served := serve router peer connection rest
          (.error error :: served.1, served.2)
      | .ok request =>
          let current := exchange router peer connection (received request)
          let served := serve router peer current.2 rest
          (.ok current.1 :: served.1, served.2)

end Connection
end HttpRouter
