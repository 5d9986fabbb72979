import HttpRouter.Params

/-!
Named values after many writes. Of the entries that were written the last one of a name decides, and
the names of a map are those that were written. Merging a map into another one lets the later map
decide for every name that it has, whichever way its entries are visited.
-/

namespace HttpRouter

/-! ### The last value given -/

theorem last_given_cons {Item Value : Type} (gives : Item → Option Value) (item : Item)
    (rest : List Item) :
    ((item :: rest).filterMap gives).getLast? =
      (rest.filterMap gives).getLast?.or (gives item) := by
  cases given : gives item with
  | none => simp [given]
  | some value =>
      rw [List.filterMap_cons_some given, List.getLast?_cons]
      cases (rest.filterMap gives).getLast? <;> rfl

/-- If an item that gives a value decides what is read after its step, then the last one that gives
a value decides what is read in the end. -/
theorem foldl_last {State Item Value : Type} (step : State → Item → State)
    (read : State → Option Value) (gives : Item → Option Value)
    (decides : ∀ state item, read (step state item) = (gives item).or (read state))
    (items : List Item) (state : State) :
    read (items.foldl step state) = (items.filterMap gives).getLast?.or (read state) := by
  -- What was read before the run may be anything, so the first item can be taken into the state.
  induction items generalizing state with
  | nil => rfl
  | cons item rest ih => rw [List.foldl_cons, ih, decides, ← Option.or_assoc, last_given_cons]

namespace Params

theorem has_iff (params : Params) (name : String) :
    params.has name = true ↔ ∃ value, params.get? name = some value := by
  rw [has, get?, Std.ExtTreeMap.contains_eq_isSome_getElem?, Option.isSome_iff_exists]

theorem mem_toList (params : Params) (name value : String) :
    (name, value) ∈ params.toList ↔ params.get? name = some value :=
  Std.ExtTreeMap.mem_toList_iff_getElem?_eq_some

theorem mem_names (params : Params) (name : String) :
    name ∈ params.names ↔ params.has name = true := by
  rw [names, has, Std.ExtTreeMap.mem_keys, Std.ExtTreeMap.mem_iff_contains]

/-! ### Entries written one after the other -/

theorem setAll_append (params : Params) (front back : List (String × String)) :
    params.setAll (front ++ back) = (params.setAll front).setAll back :=
  List.foldl_append

theorem get?_setAll (params : Params) (entries : List (String × String)) (name : String) :
    (params.setAll entries).get? name = (entries.reverse.lookup name).or (params.get? name) := by
  have decides (held : Params) (entry : String × String) :
      (held.set entry.1 entry.2).get? name =
        (if (name == entry.1) = true then some entry.2 else none).or (held.get? name) := by
    rw [get?_set]
    by_cases same : entry.1 = name
    · simp [same]
    · simp [same, Ne.symm same]
  rw [List.lookup_eq_findSome?, ← List.getLast?_filterMap]
  exact foldl_last _ (fun held => held.get? name) _ decides entries params

theorem ofList_lookup (entries : List (String × String)) (name : String) :
    (ofList entries).get? name = entries.reverse.lookup name := by
  rw [ofList, get?_setAll, get?_empty, Option.or_none]

theorem get?_ofList_iff (entries : List (String × String)) (name value : String) :
    (ofList entries).get? name = some value ↔
      ∃ front back, entries = front ++ (name, value) :: back ∧ name ∉ back.map Prod.fst := by
  rw [ofList_lookup, List.lookup_eq_some_iff]
  constructor
  · rintro ⟨after, before, turned, others⟩
    refine ⟨before.reverse, after.reverse, ?_, ?_⟩
    · rw [← List.reverse_reverse entries, turned]
      simp
    · intro written
      obtain ⟨entry, member, same⟩ := List.mem_map.mp written
      have other := others entry (List.mem_reverse.mp member)
      simp [same] at other
  · rintro ⟨front, back, rfl, last⟩
    refine ⟨back.reverse, front.reverse, by simp, ?_⟩
    intro entry member
    rw [bne_iff_ne]
    rintro rfl
    exact last (List.mem_map_of_mem (List.mem_reverse.mp member))

theorem get?_ofList_last (front back : List (String × String)) (name value : String)
    (last : name ∉ back.map Prod.fst) :
    (ofList (front ++ (name, value) :: back)).get? name = some value :=
  (get?_ofList_iff _ name value).mpr ⟨front, back, rfl, last⟩

theorem get?_ofList_none (entries : List (String × String)) (name : String) :
    (ofList entries).get? name = none ↔ name ∉ entries.map Prod.fst := by
  rw [ofList_lookup, List.lookup_eq_none_iff, List.mem_map]
  simp only [List.mem_reverse, bne_iff_ne, not_exists, not_and]
  exact forall₂_congr fun entry _ => ne_comm

theorem has_ofList (entries : List (String × String)) (name : String) :
    (ofList entries).has name = true ↔ name ∈ entries.map Prod.fst := by
  rw [has_iff, ← Option.ne_none_iff_exists', Ne, get?_ofList_none, Classical.not_not]

/-! ### Maps merged into maps -/

/-- The entries of a map in some order, each of them once. -/
structure ListedAs (params : Params) (listed : List (String × String)) : Prop where
  once : (listed.map Prod.fst).Nodup
  entries : ∀ name value, (name, value) ∈ listed ↔ params.get? name = some value

theorem listed_toList (params : Params) : params.ListedAs params.toList := by
  constructor
  · have names : params.toList.map Prod.fst = params.names :=
      Std.ExtTreeMap.map_fst_toList_eq_keys
    rw [names]
    exact Std.ExtTreeMap.nodup_keys
  · exact params.mem_toList

theorem ListedAs.reordered {params : Params} {listed other : List (String × String)}
    (lists : params.ListedAs listed) (order : other.Perm listed) : params.ListedAs other := by
  constructor
  · exact (order.map Prod.fst).nodup_iff.mpr lists.once
  · intro name value
    rw [order.mem_iff, lists.entries]

theorem ListedAs.lookup {params : Params} {listed : List (String × String)}
    (lists : params.ListedAs listed) (name : String) : listed.lookup name = params.get? name := by
  cases found : listed.lookup name with
  | none =>
      cases held : params.get? name with
      | none => rfl
      | some value =>
          have member := (lists.entries name value).mpr held
          have other := List.lookup_eq_none_iff.mp found _ member
          simp at other
  | some value =>
      obtain ⟨front, back, parted, _⟩ := List.lookup_eq_some_iff.mp found
      have member : (name, value) ∈ listed := by simp [parted]
      exact ((lists.entries name value).mp member).symm

theorem get?_visited (params later : Params) (visited : List (String × String))
    (lists : later.ListedAs visited) (name : String) :
    (params.setAll visited).get? name = (later.get? name).or (params.get? name) := by
  rw [get?_setAll, (lists.reordered visited.reverse_perm).lookup]

theorem get?_extend (params later : Params) (name : String) :
    (params.extend later).get? name = (later.get? name).or (params.get? name) :=
  params.get?_visited later later.toList later.listed_toList name

theorem setAll_visited (params later : Params) (visited : List (String × String))
    (lists : later.ListedAs visited) : params.setAll visited = params.extend later :=
  ext_get? fun name => by rw [get?_visited params later visited lists, get?_extend]

theorem extend_assoc (first second third : Params) :
    (first.extend second).extend third = first.extend (second.extend third) :=
  ext_get? fun name => by simp only [get?_extend, Option.or_assoc]

theorem extend_self (params : Params) : params.extend params = params :=
  ext_get? fun name => by rw [get?_extend, Option.or_self]

end Params
end HttpRouter
