import HttpRouter.Address
import HttpRouter.Params
import HttpRouter.Text.Form
import HttpRouter.Uri

/-!
Requests and responses, and what they are made of. A request is valid once it is read: its method is
a token and its URI was parsed, so no later stage checks them again. What routers attach to a
request on the way (the address of the peer, the target that the URI resolved to, the parameters
that a pattern captured) stays with it when it is handed on, and every later attachment is merged
into it.
-/

namespace HttpRouter

/-! ### Methods: tokens of HTTP, told apart by case -/

def isTokenChar (char : Char) : Bool :=
  char.isAlphanum || "!#$%&'*+-.^_`|~".toList.contains char

def isToken (text : String) : Bool :=
  !text.toList.isEmpty && text.toList.all isTokenChar

structure Method where
  name : String
  valid : isToken name = true
  deriving DecidableEq

namespace Method

def ofName? (name : String) : Option Method :=
  if valid : isToken name = true then some ⟨name, valid⟩ else none

def get : Method := ⟨"GET", by decide⟩
def post : Method := ⟨"POST", by decide⟩
def put : Method := ⟨"PUT", by decide⟩
def delete : Method := ⟨"DELETE", by decide⟩
def patch : Method := ⟨"PATCH", by decide⟩
def head : Method := ⟨"HEAD", by decide⟩
def options : Method := ⟨"OPTIONS", by decide⟩
def trace : Method := ⟨"TRACE", by decide⟩
def connect : Method := ⟨"CONNECT", by decide⟩

instance : Inhabited Method := ⟨get⟩

end Method

/-! ### Headers

Names are told apart without regard to case and kept in lower case; the values of one name stay in
the order they were added. -/

structure Headers where
  fields : List (String × String)
  deriving DecidableEq, Repr

namespace Headers

def empty : Headers := ⟨[]⟩

instance : Inhabited Headers := ⟨empty⟩
instance : EmptyCollection Headers := ⟨empty⟩

def normalName (name : String) : String :=
  String.ofList (name.toList.map Char.toLower)

def append (headers : Headers) (name value : String) : Headers :=
  ⟨headers.fields ++ [(normalName name, value)]⟩

/-- Puts one field in the place of the first of its name, or at the end. -/
def place (name value : String) : List (String × String) → List (String × String)
  | [] => [(name, value)]
  | field :: rest =>
      if field.1 = name then (name, value) :: rest.filter (fun later => later.1 != name)
      else field :: place name value rest

def insert (headers : Headers) (name value : String) : Headers :=
  ⟨place (normalName name) value headers.fields⟩

def get? (headers : Headers) (name : String) : Option String :=
  (headers.fields.find? fun field => field.1 == normalName name).map Prod.snd

def values (headers : Headers) (name : String) : List String :=
  (headers.fields.filter fun field => field.1 == normalName name).map Prod.snd

/-- Every name once, in the order they were added first, with its values. -/
def groups (headers : Headers) : List (String × List String) :=
  (headers.fields.map Prod.fst).eraseDups.map fun name => (name, headers.values name)

def has (headers : Headers) (name : String) : Bool :=
  headers.fields.any fun field => field.1 == normalName name

def ofList (fields : List (String × String)) : Headers :=
  fields.foldl (fun headers field => headers.append field.1 field.2) empty

def sorted (headers : Headers) : List (String × String) :=
  headers.fields.mergeSort fun left right => left.1 ≤ right.1

/-- A byte that a header value may hold: no control but the tab. Beyond ASCII all bytes pass. -/
def isValueChar (char : Char) : Bool :=
  char == '\t' || (0x20 ≤ char.toNat && char.toNat != 0x7F)

def isValue (text : String) : Bool :=
  text.toList.all isValueChar

end Headers

/-! ### Responses -/

structure Status where
  code : Nat
  deriving DecidableEq, Repr

namespace Status

def ok : Status := ⟨200⟩
def notFound : Status := ⟨404⟩
def internalServerError : Status := ⟨500⟩

instance : Inhabited Status := ⟨ok⟩

def isInformational (status : Status) : Bool :=
  100 ≤ status.code && status.code < 200

def isSuccess (status : Status) : Bool :=
  200 ≤ status.code && status.code < 300

def isSwitching (status : Status) : Bool :=
  status.code == 101

def isBodiless (status : Status) : Bool :=
  status.code == 204 || status.code == 304

def phrase? : Nat → Option String
  | 100 => some "Continue"
  | 101 => some "Switching Protocols"
  | 102 => some "Processing"
  | 103 => some "Early Hints"
  | 200 => some "OK"
  | 201 => some "Created"
  | 202 => some "Accepted"
  | 203 => some "Non Authoritative Information"
  | 204 => some "No Content"
  | 205 => some "Reset Content"
  | 206 => some "Partial Content"
  | 207 => some "Multi-Status"
  | 208 => some "Already Reported"
  | 226 => some "IM Used"
  | 300 => some "Multiple Choices"
  | 301 => some "Moved Permanently"
  | 302 => some "Found"
  | 303 => some "See Other"
  | 304 => some "Not Modified"
  | 305 => some "Use Proxy"
  | 307 => some "Temporary Redirect"
  | 308 => some "Permanent Redirect"
  | 400 => some "Bad Request"
  | 401 => some "Unauthorized"
  | 402 => some "Payment Required"
  | 403 => some "Forbidden"
  | 404 => some "Not Found"
  | 405 => some "Method Not Allowed"
  | 406 => some "Not Acceptable"
  | 407 => some "Proxy Authentication Required"
  | 408 => some "Request Timeout"
  | 409 => some "Conflict"
  | 410 => some "Gone"
  | 411 => some "Length Required"
  | 412 => some "Precondition Failed"
  | 413 => some "Payload Too Large"
  | 414 => some "URI Too Long"
  | 415 => some "Unsupported Media Type"
  | 416 => some "Range Not Satisfiable"
  | 417 => some "Expectation Failed"
  | 418 => some "I'm a teapot"
  | 421 => some "Misdirected Request"
  | 422 => some "Unprocessable Entity"
  | 423 => some "Locked"
  | 424 => some "Failed Dependency"
  | 425 => some "Too Early"
  | 426 => some "Upgrade Required"
  | 428 => some "Precondition Required"
  | 429 => some "Too Many Requests"
  | 431 => some "Request Header Fields Too Large"
  | 451 => some "Unavailable For Legal Reasons"
  | 500 => some "Internal Server Error"
  | 501 => some "Not Implemented"
  | 502 => some "Bad Gateway"
  | 503 => some "Service Unavailable"
  | 504 => some "Gateway Timeout"
  | 505 => some "HTTP Version Not Supported"
  | 506 => some "Variant Also Negotiates"
  | 507 => some "Insufficient Storage"
  | 508 => some "Loop Detected"
  | 510 => some "Not Extended"
  | 511 => some "Network Authentication Required"
  | _ => none

def describe (status : Status) : String :=
  toString status.code ++ " " ++ (phrase? status.code).getD "<unknown status code>"

end Status

structure Response where
  status : Status
  headers : Headers
  body : String
  deriving DecidableEq, Inhabited

namespace Response

def blank : Response := ⟨.ok, Headers.empty, ""⟩

def ofText (status : Status) (body : String) : Response := ⟨status, Headers.empty, body⟩

def notFound : Response := ofText .notFound "Not Found"

def withBody (response : Response) (body : String) : Response := { response with body := body }

end Response

/-! ### Requests -/

inductive Version where
  | http09
  | http10
  | http11
  | http2
  | http3
  deriving DecidableEq, Repr

def Version.name : Version → String
  | .http09 => "HTTP/0.9"
  | .http10 => "HTTP/1.0"
  | .http11 => "HTTP/1.1"
  | .http2 => "HTTP/2.0"
  | .http3 => "HTTP/3.0"

instance : Inhabited Version := ⟨.http11⟩

/-- The body of a request: held as a text, or still arriving on a connection, where it cannot be
put in the place of another. -/
inductive Body where
  | held (text : String)
  | arriving
  deriving DecidableEq, Repr

namespace Body

def empty : Body := .held ""

def text : Body → String
  | .held text => text
  | .arriving => ""

def replace : Body → String → Body
  | .held _, text => .held text
  | .arriving, _ => .arriving

end Body

/-- What a URI resolves to. The search keeps the `?` before the query, and is empty without one. -/
structure Target where
  path : String
  query : Params
  search : String
  deriving DecidableEq

def Target.ofUri (uri : Uri) : Target :=
  match uri.query with
  | some raw => ⟨uri.path, Params.ofList (Form.fields raw), "?" ++ raw⟩
  | none => ⟨uri.path, Params.empty, ""⟩

structure Meta where
  peer : Option Address
  params : Option Params
  target : Option Target
  deriving DecidableEq

namespace Meta

def empty : Meta := ⟨none, none, none⟩

def ofPeer (peer : Address) : Meta := { empty with peer := some peer }
def ofParams (params : Params) : Meta := { empty with params := some params }
def ofTarget (target : Target) : Meta := { empty with target := some target }

def mergeParams : Option Params → Option Params → Option Params
  | some earlier, some later => some (earlier.extend later)
  | earlier, none => earlier
  | none, later => later

/-- Merges a later attachment into an earlier one: what the later one has wins. -/
def extend (earlier later : Meta) : Meta where
  peer := later.peer.or earlier.peer
  params := mergeParams earlier.params later.params
  target := later.target.or earlier.target

def update (attached : Option Meta) (later : Meta) : Option Meta :=
  match attached with
  | some earlier => some (earlier.extend later)
  | none => some later

end Meta

structure Request where
  method : Method
  uri : Uri
  version : Version
  headers : Headers
  body : Body
  attached : Option Meta
  deriving DecidableEq

namespace Request

instance : Inhabited Request :=
  ⟨⟨default, default, default, default, Body.empty, none⟩⟩

def attach (request : Request) (later : Meta) : Request :=
  { request with attached := Meta.update request.attached later }

def detach (request : Request) : Request :=
  { request with attached := none }

def fromPeer (request : Request) (peer : Address) : Request :=
  request.attach (Meta.ofPeer peer)

def aim (request : Request) : Request :=
  request.attach (Meta.ofTarget (Target.ofUri request.uri))

def captured (request : Request) (params : Params) : Request :=
  request.attach (Meta.ofParams params)

/-! ### What a handler reads

Nothing attached reads as empty, but for the path, which every URI has. -/

def target (request : Request) : Option Target :=
  request.attached.bind Meta.target

def params (request : Request) : Params :=
  (request.attached.bind Meta.params).getD Params.empty

def param (request : Request) (name : String) : Option String :=
  request.params.get? name

def peer (request : Request) : Option Address :=
  request.attached.bind Meta.peer

def path (request : Request) : String :=
  match request.target with
  | some target => target.path
  | none => request.uri.path

def query (request : Request) : Params :=
  (request.target.map Target.query).getD Params.empty

def queryParam (request : Request) (name : String) : Option String :=
  request.query.get? name

def search (request : Request) : String :=
  (request.target.map Target.search).getD ""

end Request

structure RequestInfo where
  method : Method
  uri : Uri
  version : Version
  headers : Headers
  params : Params
  peer : Option Address
  deriving DecidableEq, Inhabited

def RequestInfo.ofRequest (request : Request) : RequestInfo where
  method := request.method
  uri := request.uri
  version := request.version
  headers := request.headers
  params := request.params
  peer := request.peer

/-! ### Requests as texts, before their method and target are read -/

inductive RequestError where
  | method
  | uri (error : UriError)
  deriving DecidableEq, Repr

def RequestError.message : RequestError → String
  | .method => "invalid HTTP method"
  | .uri error => error.message

structure RawRequest where
  method : String
  uri : String
  version : Version
  headers : Headers
  body : Body
  deriving DecidableEq

namespace RawRequest

def readMethod (name : String) : Except RequestError Method :=
  match Method.ofName? name with
  | some method => .ok method
  | none => .error .method

def readUri (text : String) : Except RequestError Uri :=
  match Uri.parse text with
  | .ok uri => .ok uri
  | .error error => .error (.uri error)

def read (raw : RawRequest) : Except RequestError Request := do
  let method ← readMethod raw.method
  let uri ← readUri raw.uri
  return ⟨method, uri, raw.version, raw.headers, raw.body, none⟩

end RawRequest
end HttpRouter
