/-!
Request targets as URIs. A URI names a path on this server, or a scheme, an authority and a path,
or an authority alone. The parts are kept as they were written, but for a scheme of the web, which
is lower case, and a fragment, which never reaches a server.
-/

namespace HttpRouter

structure Uri where
  scheme : Option String
  authority : Option String
  path : String
  query : Option String
  deriving DecidableEq, Repr

inductive UriError where
  | tooLong
  | emptyText
  | invalidCharacter
  | invalidAuthority
  | invalidFormat
  | schemeTooLong
  deriving DecidableEq, Repr

def UriError.message : UriError → String
  | .tooLong => "uri too long"
  | .emptyText => "empty string"
  | .invalidCharacter => "invalid uri character"
  | .invalidAuthority => "invalid authority"
  | .invalidFormat => "invalid format"
  | .schemeTooLong => "scheme too long"

namespace Uri

def root : Uri := ⟨none, none, "/", none⟩

instance : Inhabited Uri := ⟨root⟩

def render (uri : Uri) : String :=
  (match uri.scheme with | none => "" | some scheme => scheme ++ "://") ++
    uri.authority.getD "" ++ uri.path ++
    (match uri.query with | none => "" | some query => "?" ++ query)

/-! ### Paths and queries -/

def within (low high : Nat) (char : Char) : Bool :=
  low ≤ char.toNat && char.toNat ≤ high

/-- Above ASCII a character stands for its bytes, which are never checked. -/
def beyondAscii (char : Char) : Bool :=
  0x80 ≤ char.toNat

def isPathChar (char : Char) : Bool :=
  within 0x21 0x22 char || within 0x24 0x3B char || char == '=' || within 0x40 0x5F char ||
    within 0x61 0x7E char || beyondAscii char

def isQueryChar (char : Char) : Bool :=
  char == '!' || within 0x24 0x3B char || char == '=' || within 0x3F 0x7E char || beyondAscii char

def readQuery (text : List Char) : Except UriError String :=
  let query := text.takeWhile (· != '#')
  if query.all isQueryChar then .ok (String.ofList query) else .error .invalidCharacter

def endsPath (char : Char) : Bool :=
  char == '?' || char == '#'

/-- Reads what follows the authority. No path at all is the root path. -/
def readTarget (text : List Char) : Except UriError (String × Option String) :=
  let path := text.takeWhile fun char => !endsPath char
  let written := if path.isEmpty then "/" else String.ofList path
  if path.all isPathChar then
    match text.dropWhile fun char => !endsPath char with
    | '?' :: rest => (readQuery rest).map fun query => (written, some query)
    | _ => .ok (written, none)
  else .error .invalidCharacter

/-! ### Authorities -/

def endsAuthority (char : Char) : Bool :=
  char == '/' || char == '?' || char == '#'

def isAuthorityChar (char : Char) : Bool :=
  char.isAlphanum || "!$&'()*+,-.:;=@[]_~".toList.contains char

/-- What was seen of an authority: colons and escapes since the part before them was closed by `@`
or `]`, and the brackets of a literal address. -/
structure AuthorityScan where
  colons : Nat
  opened : Bool
  closed : Bool
  escaped : Bool
  deriving DecidableEq, Repr

def AuthorityScan.start : AuthorityScan := ⟨0, false, false, false⟩

def AuthorityScan.step (seen : AuthorityScan) (char : Char) : Except UriError AuthorityScan :=
  match char with
  | '%' => .ok { seen with escaped := true }
  | ':' =>
      if 8 ≤ seen.colons then .error .invalidAuthority
      else .ok { seen with colons := seen.colons + 1 }
  | '[' =>
      if seen.escaped || seen.opened then .error .invalidAuthority
      else .ok { seen with opened := true }
  | ']' =>
      if !seen.opened || seen.closed then .error .invalidAuthority
      else .ok { seen with closed := true, colons := 0, escaped := false }
  | '@' => .ok { seen with colons := 0, escaped := false }
  | other => if isAuthorityChar other then .ok seen else .error .invalidCharacter

def AuthorityScan.run : AuthorityScan → List Char → Except UriError AuthorityScan
  | seen, [] => .ok seen
  | seen, char :: rest =>
      match seen.step char with
      | .ok next => next.run rest
      | .error error => .error error

/-- The end of an authority: brackets in pairs, at most the colon of a port, a host after `@`, and
no escape outside the user's name. -/
def AuthorityScan.finish (seen : AuthorityScan) (last : Option Char) : Except UriError Unit :=
  if seen.opened != seen.closed || 1 < seen.colons || last == some '@' || seen.escaped then
    .error .invalidAuthority
  else .ok ()

def readAuthority (text : List Char) : Except UriError (List Char × List Char) :=
  if text.isEmpty then .error .emptyText
  else
    let authority := text.takeWhile fun char => !endsAuthority char
    match AuthorityScan.start.run authority with
    | .error error => .error error
    | .ok seen =>
        match seen.finish authority.getLast? with
        | .error error => .error error
        | .ok () => .ok (authority, text.dropWhile fun char => !endsAuthority char)

/-! ### Schemes -/

def isSchemeChar (char : Char) : Bool :=
  char.isAlphanum || char == '+' || char == '-' || char == '.' || char == '~'

def dropIgnoringCase : List Char → List Char → Option (List Char)
  | [], text => some text
  | _ :: _, [] => none
  | expected :: more, char :: text =>
      if char.toLower = expected then dropIgnoringCase more text else none

def readOtherScheme (text : List Char) : Except UriError (Option (List Char × List Char)) :=
  let scheme := text.takeWhile isSchemeChar
  match text.dropWhile isSchemeChar with
  | ':' :: '/' :: '/' :: rest =>
      if text.length ≤ 3 then .ok none
      else if 64 < scheme.length then .error .schemeTooLong
      else .ok (some (scheme, rest))
  | _ => .ok none

def readScheme (text : List Char) : Except UriError (Option (List Char × List Char)) :=
  match dropIgnoringCase "http://".toList text with
  | some rest => .ok (some ("http".toList, rest))
  | none =>
      match dropIgnoringCase "https://".toList text with
      | some rest => .ok (some ("https".toList, rest))
      | none => readOtherScheme text

/-! ### Whole texts -/

def ofAuthority (authority : List Char) : Uri :=
  ⟨none, some (String.ofList authority), "", none⟩

/-- A text that does not start with a path. Without a scheme the authority is all there is. -/
def readAbsolute (text : List Char) : Except UriError Uri := do
  match ← readScheme text with
  | none =>
      let (authority, rest) ← readAuthority text
      if rest.isEmpty then return ofAuthority authority else throw .invalidFormat
  | some (scheme, after) =>
      let (authority, rest) ← readAuthority after
      if authority.isEmpty then throw .invalidFormat
      let (path, query) ← readTarget rest
      return ⟨some (String.ofList scheme), some (String.ofList authority), path, query⟩

def readHost (char : Char) : Except UriError Uri := do
  let (authority, rest) ← readAuthority [char]
  if rest.isEmpty then return ofAuthority authority else throw .invalidCharacter

def maxBytes : Nat := 65534

def parse (text : String) : Except UriError Uri :=
  if maxBytes < text.utf8ByteSize then .error .tooLong
  else
    match text.toList with
    | [] => .error .emptyText
    | ['/'] => .ok root
    | ['*'] => .ok ⟨none, none, "*", none⟩
    | [char] => readHost char
    | '/' :: rest => do
        let (path, query) ← readTarget ('/' :: rest)
        return ⟨none, none, path, query⟩
    | chars => readAbsolute chars

end Uri
end HttpRouter
