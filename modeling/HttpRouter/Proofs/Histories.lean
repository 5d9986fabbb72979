import HttpRouter.Proofs.NamedValues
import Mathlib.Data.List.Dedup

/-!
Maps and how they came to be. A map starts empty, names are set in it, and maps with histories of
their own are merged into it. Nothing can be read of it but what the list of its writes tells: the
last write of a name gives its value, and each name that was written counts once. A merge counts as
a write of every entry that the other map has by then, and it may visit those in any order.
-/

namespace HttpRouter
namespace Params

/-- How a map came to be. It starts empty, and every operation stands around the ones before it. -/
inductive History where
  | fresh (capacity : Nat)
  | set (earlier : History) (name value : String)
  | extend (earlier other : History)

namespace History

def build : History → Params
  | fresh capacity => withCapacity capacity
  | set earlier name value => earlier.build.set name value
  | extend earlier other => earlier.build.extend other.build

/-- The writes of a history, the last one at the end. The entries of a map that is merged in are
written in any order. -/
inductive Writes : History → List (String × String) → Prop where
  | fresh (capacity : Nat) : Writes (.fresh capacity) []
  | set {earlier : History} {entries : List (String × String)} (before : Writes earlier entries)
      (name value : String) : Writes (.set earlier name value) (entries ++ [(name, value)])
  | extend {earlier : History} {entries : List (String × String)} (before : Writes earlier entries)
      (other : History) (visited : List (String × String))
      (lists : other.build.ListedAs visited) :
      Writes (.extend earlier other) (entries ++ visited)

theorem writes_some (history : History) : ∃ entries, history.Writes entries := by
  induction history with
  | fresh capacity => exact ⟨[], .fresh capacity⟩
  | set earlier name value ih =>
      obtain ⟨entries, before⟩ := ih
      exact ⟨_, before.set name value⟩
  | extend earlier other ih _ =>
      obtain ⟨entries, before⟩ := ih
      exact ⟨_, before.extend other _ other.build.listed_toList⟩

-- The induction is on the writes. The map merged in is taken as it stands: what its own history
-- wrote does not count, only the entries that it has.
theorem Writes.build_ofList {history : History} {entries : List (String × String)}
    (writes : history.Writes entries) : history.build = ofList entries := by
  induction writes with
  | fresh capacity => rfl
  | @set earlier entries before name value ih =>
      calc earlier.build.set name value
          = (ofList entries).setAll [(name, value)] := by rw [ih]; rfl
        _ = ofList (entries ++ [(name, value)]) := (setAll_append empty entries _).symm
  | @extend earlier entries before other visited lists ih =>
      calc earlier.build.extend other.build
          = (ofList entries).setAll visited := by rw [ih, setAll_visited _ _ visited lists]
        _ = ofList (entries ++ visited) := (setAll_append empty entries visited).symm

end History

/-! ### What is read of a map -/

structure Shows (params : Params) (entries : List (String × String)) : Prop where
  value : ∀ name value, params.get? name = some value ↔
    ∃ front back, entries = front ++ (name, value) :: back ∧ name ∉ back.map Prod.fst
  has : ∀ name, params.has name = true ↔ ∃ value, params.get? name = some value
  names : ∀ name, name ∈ params.names ↔ name ∈ entries.map Prod.fst
  once : params.names.Nodup
  counted : params.names.length = params.size
  size : params.size = (entries.map Prod.fst).dedup.length
  isEmpty : params.isEmpty = true ↔ entries = []

theorem ofList_shows (entries : List (String × String)) : (ofList entries).Shows entries := by
  have names (name : String) :
      name ∈ (ofList entries).names ↔ name ∈ entries.map Prod.fst :=
    (mem_names _ name).trans (has_ofList entries name)
  have once : (ofList entries).names.Nodup := Std.ExtTreeMap.nodup_keys
  have counted : (ofList entries).names.length = (ofList entries).size :=
    Std.ExtTreeMap.length_keys
  have distinct : (ofList entries).names.Perm (entries.map Prod.fst).dedup := by
    apply (List.perm_ext_iff_of_nodup once (List.nodup_dedup _)).mpr
    intro name
    rw [names, List.mem_dedup]
  constructor
  · exact get?_ofList_iff entries
  · exact has_iff (ofList entries)
  · exact names
  · exact once
  · exact counted
  · rw [← counted, distinct.length_eq]
  · have listed : (ofList entries).names = [] ↔ entries = [] := by
      rw [← List.map_eq_nil_iff (f := Prod.fst), List.eq_nil_iff_forall_not_mem,
        List.eq_nil_iff_forall_not_mem]
      exact forall_congr' fun name => not_congr (names name)
    rw [← listed, ← List.isEmpty_iff]
    exact Bool.eq_iff_iff.mp Std.ExtTreeMap.isEmpty_keys.symm

namespace History

/-- A map is what its writes tell, however it was built. Maps of any two histories are told apart by
their values alone, and merging one into the other gives the same map in whichever order its
entries are visited. -/
theorem writes_tell_map (history : History) :
    (∃ entries, history.Writes entries) ∧
    (∀ entries, history.Writes entries → history.build.Shows entries) ∧
    ∀ other : History,
      (history.build = other.build ↔
        ∀ name, history.build.get? name = other.build.get? name) ∧
      ∀ visited, other.build.ListedAs visited →
        history.build.setAll visited = (history.extend other).build := by
  refine ⟨history.writes_some, ?_, fun other => ⟨?_, ?_⟩⟩
  · intro entries writes
    rw [writes.build_ofList]
    exact ofList_shows entries
  · constructor
    · intro same name
      rw [same]
    · exact ext_get?
  · intro visited lists
    exact setAll_visited history.build other.build visited lists

-- The map that is merged in wrote `b` twice, once by a merge of its own, and its entries are not
-- visited in the order of their names.
theorem merged_names_overlap :
    let inner : History := ((History.fresh 0).set "b" "5").set "c" "6"
    let other : History := (((History.fresh 3).set "a" "3").set "b" "4").extend inner
    let earlier : History := ((History.fresh 8).set "b" "1").set "d" "2"
    let history : History := (earlier.extend other).set "a" "7"
    let visited := [("c", "6"), ("a", "3"), ("b", "5")]
    let entries := [("b", "1"), ("d", "2"), ("c", "6"), ("a", "3"), ("b", "5"), ("a", "7")]
    other.build.ListedAs visited ∧ history.Writes entries ∧
      history.build.get? "a" = some "7" ∧ history.build.get? "b" = some "5" ∧
      history.build.has "e" = false ∧ history.build.size = 4 ∧
      earlier.build.setAll visited = (earlier.extend other).build := by
  intro inner other earlier history visited entries
  have lists : other.build.ListedAs visited := other.build.listed_toList.reordered (by decide)
  have writes : history.Writes entries :=
    ((((Writes.fresh 8).set "b" "1").set "d" "2").extend other visited lists).set "a" "7"
  have shows := (writes_tell_map history).2.1 entries writes
  refine ⟨lists, writes, ?_, ?_, ?_, ?_, ?_⟩
  · apply (shows.value "a" "7").mpr
    exact ⟨[("b", "1"), ("d", "2"), ("c", "6"), ("a", "3"), ("b", "5")], [], rfl, by decide⟩
  · apply (shows.value "b" "5").mpr
    exact ⟨[("b", "1"), ("d", "2"), ("c", "6"), ("a", "3")], [("a", "7")], rfl, by decide⟩
  · rw [← Bool.not_eq_true, ← mem_names, shows.names]
    decide
  · rw [shows.size]
    decide
  · exact ((writes_tell_map earlier).2.2 other).2 visited lists

end History
end Params
end HttpRouter
