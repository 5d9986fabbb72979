import HttpRouter.Proofs.NamedValues
import HttpRouter.Message

/-!
What the query of a URI resolves to. However a list of fields was written, the names of the query
are those of the fields, the last field of a name gives its value, and no other order of fields
counts than that between fields of one name. The search is the query as it was written.
-/

namespace HttpRouter

namespace Params

def named (name : String) (entries : List (String × String)) : List (String × String) :=
  entries.filter fun entry => entry.1 == name

theorem lookup_named (entries : List (String × String)) (name : String) :
    entries.lookup name = (named name entries).head?.map Prod.snd := by
  induction entries with
  | nil => rfl
  | cons entry rest ih =>
      obtain ⟨written, value⟩ := entry
      by_cases same : name = written
      · simp [named, same]
      · have other : ¬ written = name := fun equal => same equal.symm
        rw [List.lookup_cons, beq_false_of_ne same, ih]
        simp [named, other]

theorem named_reverse (name : String) (entries : List (String × String)) :
    named name entries.reverse = (named name entries).reverse :=
  List.filter_reverse

theorem ofList_reordered (entries others : List (String × String))
    (same : ∀ name, named name others = named name entries) : ofList others = ofList entries := by
  apply ext_get?
  intro name
  rw [ofList_lookup, ofList_lookup, lookup_named, lookup_named, named_reverse, named_reverse,
    same name]

end Params

namespace Target

theorem ofUri_query (uri : Uri) (raw : String) (query : uri.query = some raw) :
    ofUri uri = ⟨uri.path, Params.ofList (Form.fields raw), "?" ++ raw⟩ := by
  rw [ofUri, query]

theorem ofUri_bare (uri : Uri) (bare : uri.query = none) :
    ofUri uri = ⟨uri.path, Params.empty, ""⟩ := by
  rw [ofUri, bare]

/-- Any fields can be written as a query. Whichever way is taken, the query of a URI that has it has
the names of the fields and no others, each with the value of its last field, the search is what was
written behind a question mark, and another order of fields of different names, written anyhow, is
the same query. A URI without a query has an empty one and an empty search. -/
theorem written_query_resolves (entries : List (String × String)) :
    (∃ raw : String, Form.Writes entries raw.toList) ∧
    (∀ raw : String, Form.Writes entries raw.toList → ∀ uri : Uri, uri.query = some raw →
      let target := ofUri uri
      (∀ name, target.query.has name = true ↔ name ∈ entries.map Prod.fst) ∧
      (∀ front name value back, entries = front ++ (name, value) :: back →
        name ∉ back.map Prod.fst → target.query.get? name = some value) ∧
      target.search = "?" ++ raw ∧
      ∀ (others : List (String × String)) (otherRaw : String) (other : Uri),
        (∀ name, Params.named name others = Params.named name entries) →
        Form.Writes others otherRaw.toList → other.query = some otherRaw →
          (ofUri other).query = target.query) ∧
    ∀ uri : Uri, uri.query = none →
      (ofUri uri).query = Params.empty ∧ (ofUri uri).search = "" := by
  refine ⟨?_, ?_, ?_⟩
  · obtain ⟨raw, writes⟩ := Form.writes_some entries
    exact ⟨String.ofList raw, by rwa [String.toList_ofList]⟩
  · intro raw writes uri query
    have resolved := ofUri_query uri raw query
    rw [Form.fields_written entries raw writes] at resolved
    simp only [resolved]
    refine ⟨Params.has_ofList entries, ?_, trivial, ?_⟩
    · rintro front name value back rfl last
      exact Params.get?_ofList_last front back name value last
    · intro others otherRaw other same otherWrites otherQuery
      rw [ofUri_query other otherRaw otherQuery, Form.fields_written others otherRaw otherWrites]
      exact Params.ofList_reordered entries others same
  · intro uri bare
    rw [ofUri_bare uri bare]
    exact ⟨rfl, rfl⟩

-- Signs that the form itself uses, an empty name with an empty value, and a name that repeats.
theorem repeated_name_resolves :
    ∃ uri, Uri.parse "/search?&q=a%2bb&&=&q=%C3%A9+%3D%26" = .ok uri ∧
      (ofUri uri).query.get? "q" = some "é =&" ∧ (ofUri uri).query.get? "" = some "" ∧
      (ofUri uri).query.has "a" = false ∧
      (ofUri uri).search = "?&q=a%2bb&&=&q=%C3%A9+%3D%26" := by
  let entries : List (String × String) := [("q", "a+b"), ("", ""), ("q", "é =&")]
  have letter (char : Char) (unmarked : char ∉ Form.marks) : Form.Spells [char] [char] :=
    .itself char unmarked .nil
  have name : Form.Spells "q".toList "q".toList := letter 'q' (by decide)
  have first : Form.Spells "a+b".toList "a%2bb".toList :=
    .itself 'a' (by decide) (.escaped '+' (.cons 0x2B '2' 'b' (by decide) (by decide) .nil)
      (letter 'b' (by decide)))
  have last : Form.Spells "é =&".toList "%C3%A9+%3D%26".toList :=
    .escaped 'é' (.cons 0xC3 'C' '3' (by decide) (by decide)
        (.cons 0xA9 'A' '9' (by decide) (by decide) .nil))
      (.space (.escaped '=' (.cons 0x3D '3' 'D' (by decide) (by decide) .nil)
        (.escaped '&' (.cons 0x26 '2' '6' (by decide) (by decide) .nil) .nil)))
  have blank : Form.Spells "".toList "".toList := .nil
  have written : "&q=a%2bb&&=&q=%C3%A9+%3D%26".toList =
      '&' :: ("q".toList ++ '=' :: "a%2bb".toList ++ '&' :: '&' :: ("".toList ++ '=' :: "".toList ++
        '&' :: ("q".toList ++ '=' :: "%C3%A9+%3D%26".toList))) := by decide
  have writes : Form.Writes entries "&q=a%2bb&&=&q=%C3%A9+%3D%26".toList := by
    rw [written]
    exact .surplus (.field (.pair name first) (.surplus (.field (.pair blank blank)
      (.last (.pair name last)))))
  let uri : Uri := ⟨none, none, "/search", some "&q=a%2bb&&=&q=%C3%A9+%3D%26"⟩
  obtain ⟨names, values, search, _⟩ := (written_query_resolves entries).2.1 _ writes uri rfl
  refine ⟨uri, rfl, values [("q", "a+b"), ("", "")] "q" "é =&" [] rfl (by decide),
    values [("q", "a+b")] "" "" [("q", "é =&")] rfl (by decide), ?_, search⟩
  rw [← Bool.not_eq_true, names]
  decide

end Target
end HttpRouter
