import Std.Data.ExtTreeMap
import HttpRouter.Text.Quoted

/-!
Named values: the parameters that a route captures, and the pairs of a query string. A name has one
value, the last one written, and two maps are equal exactly when they give every name the same
value, whatever was written in which order.
-/

namespace HttpRouter

structure Params where
  entries : Std.ExtTreeMap String String
  deriving DecidableEq

namespace Params

def empty : Params := ⟨∅⟩

/-- An empty map with room set aside for entries. The room is never seen. -/
def withCapacity (_ : Nat) : Params := empty

instance : Inhabited Params := ⟨empty⟩
instance : EmptyCollection Params := ⟨empty⟩

def get? (params : Params) (name : String) : Option String :=
  params.entries[name]?

def set (params : Params) (name value : String) : Params :=
  ⟨params.entries.insert name value⟩

def has (params : Params) (name : String) : Bool :=
  params.entries.contains name

def size (params : Params) : Nat :=
  params.entries.size

def isEmpty (params : Params) : Bool :=
  params.entries.isEmpty

def toList (params : Params) : List (String × String) :=
  params.entries.toList

def names (params : Params) : List String :=
  params.entries.keys

def setAll (params : Params) (entries : List (String × String)) : Params :=
  entries.foldl (fun written entry => written.set entry.1 entry.2) params

def ofList (entries : List (String × String)) : Params :=
  empty.setAll entries

def extend (params later : Params) : Params :=
  params.setAll later.toList

def describe (params : Params) : String :=
  "RouteParams(\x7b" ++ ", ".intercalate
    (params.toList.map fun entry => Text.quote entry.1 ++ ": " ++ Text.quote entry.2) ++ "\x7d)"

@[simp] theorem get?_empty (name : String) : empty.get? name = none := by
  simp [get?, empty]

theorem get?_set (params : Params) (written value name : String) :
    (params.set written value).get? name =
      if written = name then some value else params.get? name := by
  simp [get?, set, Std.ExtTreeMap.getElem?_insert]

theorem ext_get? {left right : Params} (same : ∀ name, left.get? name = right.get? name) :
    left = right := by
  cases left with | mk leftEntries =>
  cases right with | mk rightEntries =>
  have entries : leftEntries = rightEntries := Std.ExtTreeMap.ext_getElem? same
  rw [entries]

end Params
end HttpRouter
