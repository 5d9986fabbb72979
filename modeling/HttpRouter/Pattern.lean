import HttpRouter.Params
import HttpRouter.Text.Percent

/-!
Request paths and route patterns. Both share one normal form: no separator at either end, and a lone
separator for the empty path. A path in that form splits into pieces at every separator, so two
adjacent separators leave an empty piece between them. Escapes are decoded piece by piece, after the
split: an escaped separator stays inside its piece.

A pattern is read once, from left to right, into one segment per token: `:name` is a parameter,
`:name?` an optional one, `*` a wildcard that ends the pattern, anything else a static text. `fits`
tests a whole path against a pattern, `covers` tests whether a path lies at or below it, and
`extract` collects the values that the named segments met.
-/

namespace HttpRouter

namespace Path

def root : String := "/"

def dropLeading (path : List Char) : List Char :=
  path.dropWhile (· == '/')

def trim (path : List Char) : List Char :=
  (dropLeading (dropLeading path).reverse).reverse

def cleanChars (path : List Char) : List Char :=
  if trim path = [] then ['/'] else trim path

def clean (path : String) : String :=
  String.ofList (cleanChars path.toList)

def splitChars (path : List Char) : List (List Char) :=
  if trim path = [] then [['/']] else (trim path).splitOn '/'

def split (path : String) : List String :=
  (splitChars path.toList).map String.ofList

def splitDecoded (path : String) : List String :=
  (split path).map Percent.decode

/-- A piece that passes for an empty slot: the root piece, or the gap between two adjacent
separators. Asked of decoded pieces, it takes a lone escaped separator for the root piece. -/
def isPlaceholder (piece : String) : Bool :=
  piece == "" || piece == root

end Path

inductive SegmentKind where
  | static
  | parameter
  | optional
  | wildcard
  deriving DecidableEq, Repr

def SegmentKind.name : SegmentKind → String
  | .static => "Static"
  | .parameter => "Parameter"
  | .optional => "Optional"
  | .wildcard => "Any"

/-- One token of a pattern. `pattern` is the whole pattern as it was given; `value` is the static
text, the name of the parameter, or the wildcard as it was written. -/
structure Segment where
  pattern : String
  kind : SegmentKind
  value : String
  deriving DecidableEq, Repr

namespace Segment

def ofToken (pattern : String) (token : List Char) : Segment :=
  match token with
  | ':' :: name =>
      if '?' ∈ name then ⟨pattern, .optional, String.ofList (name.takeWhile (· != '?'))⟩
      else ⟨pattern, .parameter, String.ofList name⟩
  | '*' :: _ => ⟨pattern, .wildcard, String.ofList token⟩
  | _ => ⟨pattern, .static, String.ofList token⟩

/-- Reads a cleaned pattern. `token` holds what was read since the last separator, newest first.
A separator closes the token before it; what is left at the end closes the last one. -/
def scan (pattern : String) : List Char → List Char → List Segment
  | [], [] => []
  | char :: token, [] => [ofToken pattern (char :: token).reverse]
  | token, '/' :: rest =>
      let segment := ofToken pattern token.reverse
      if segment.kind = .wildcard then [segment] else segment :: scan pattern [] rest
  | token, char :: rest => scan pattern (char :: token) rest

def compile (pattern : String) : List Segment :=
  let cleaned := Path.clean pattern
  if cleaned = Path.root then [⟨pattern, .static, Path.root⟩]
  else scan pattern [] cleaned.toList

def accepts (segment : Segment) (piece : String) : Bool :=
  match segment.kind with
  | .static => segment.value == piece
  | .parameter => !Path.isPlaceholder piece
  | .optional => true
  | .wildcard => true

def captures (segment : Segment) : Bool :=
  segment.kind != .static

def describe (segment : Segment) : String :=
  segment.kind.name ++ "(" ++ Text.quote segment.value ++ ")"

end Segment

structure Pattern where
  text : String
  segments : List Segment
  compiled : segments = Segment.compile text
  deriving DecidableEq

namespace Pattern

def ofText (text : String) : Pattern :=
  ⟨text, Segment.compile text, rfl⟩

def ending (pattern : Pattern) : Option SegmentKind :=
  pattern.segments.getLast?.map Segment.kind

/-- A last wildcard absorbs further pieces, a last optional lets the path run short. -/
def acceptsLength (pattern : Pattern) (count : Nat) : Bool :=
  if count = pattern.segments.length then true
  else if pattern.segments.length < count then pattern.ending == some .wildcard
  else pattern.ending == some .optional

def acceptsPieces (pattern : Pattern) (pieces : List String) : Bool :=
  (pattern.segments.zip pieces).all fun slot => slot.1.accepts slot.2

def fits (pattern : Pattern) (pieces : List String) : Bool :=
  pattern.acceptsLength pieces.length && pattern.acceptsPieces pieces

def covers (pattern : Pattern) (pieces : List String) : Bool :=
  decide (pattern.segments.length ≤ pieces.length) && pattern.acceptsPieces pieces

/-- One position: a named segment that met more than an empty slot sets its name. -/
def capture (params : Params) (slot : Segment × String) : Params :=
  if Path.isPlaceholder slot.2 || !slot.1.captures then params
  else params.set slot.1.value slot.2

def extract (pattern : Pattern) (pieces : List String) : Params :=
  (pattern.segments.zip pieces).foldl capture Params.empty

def describe (pattern : Pattern) : String :=
  Text.listing (pattern.segments.map Segment.describe)

end Pattern
end HttpRouter
