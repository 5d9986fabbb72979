import HttpRouter.Proofs.Grammar

/-!
Patterns of static texts. Where no token begins with a colon or a star, compiling is splitting: the
segments are the pieces of the text, empty ones included. Such a pattern fits one list of pieces
only, its own, and two of them share a path only if they are the same text in normal form.
-/

namespace HttpRouter

namespace Grammar

/-- A text with no token that begins with a colon or a star. -/
def Literal (text : String) : Prop :=
  ∀ token ∈ text.toList.splitOn '/', token.head? ≠ some ':' ∧ token.head? ≠ some '*'

instance (text : String) : Decidable (Literal text) :=
  inferInstanceAs (Decidable (∀ token ∈ _, _))

theorem literal_piece (text piece : String) (literal : Literal text)
    (member : piece ∈ Path.split text) : ¬ Opens ':' piece ∧ ¬ Opens '*' piece := by
  rcases Path.split_listed text piece member with rfl | listed
  · decide
  · exact literal piece.toList listed

theorem literal_tokens (text : String) (literal : Literal text) : tokens text = Path.split text :=
  tokens_open text fun piece member => (literal_piece text piece literal member).2

theorem takes_literal (token piece : String) (unnamed : ¬ Opens ':' token)
    (noStar : ¬ Opens '*' token) : Takes token piece ↔ piece = token := by
  constructor
  · intro takes
    cases takes with
    | any _ loose =>
        rcases loose with star | optional
        · exact absurd star noStar
        · exact absurd optional.1 unnamed
    | filled _ named _ _ _ => exact absurd named unnamed
    | itself _ _ => rfl
  · rintro rfl
    exact .itself unnamed noStar

theorem taken_literal (tokens pieces : List String)
    (literal : ∀ token ∈ tokens, ¬ Opens ':' token ∧ ¬ Opens '*' token)
    (even : pieces.length = tokens.length) : Taken tokens pieces ↔ pieces = tokens := by
  constructor
  · intro taken
    apply List.ext_getElem even
    intro position met listed
    obtain ⟨unnamed, noStar⟩ := literal _ (List.getElem_mem listed)
    exact (takes_literal _ _ unnamed noStar).mp
      (taken position _ _ (List.getElem?_eq_getElem listed) (List.getElem?_eq_getElem met))
  · rintro rfl position token piece listed met
    obtain ⟨unnamed, noStar⟩ := literal token (List.mem_of_getElem? listed)
    exact (takes_literal token piece unnamed noStar).mpr (Option.some.inj (met.symm.trans listed))

end Grammar

namespace Segment
open Grammar

theorem read_literal (text token : String) (unnamed : ¬ Opens ':' token)
    (noStar : ¬ Opens '*' token) : read text token = ⟨text, .static, token⟩ := by
  have whole : String.ofList token.toList = token := String.ofList_toList
  unfold Opens at unnamed noStar
  unfold read
  generalize token.toList = chars at whole unnamed noStar ⊢
  unfold ofToken
  split
  · exact absurd rfl unnamed
  · exact absurd rfl noStar
  · rw [whole]

end Segment

namespace Pattern
open Grammar

theorem segments_literal (text : String) (literal : Literal text) :
    (ofText text).segments = (Path.split text).map fun piece => ⟨text, .static, piece⟩ := by
  rw [segments_tokens, text_ofText, literal_tokens text literal]
  apply List.map_congr_left
  intro piece member
  obtain ⟨unnamed, noStar⟩ := literal_piece text piece literal member
  exact Segment.read_literal text piece unnamed noStar

theorem fits_literal (text : String) (literal : Literal text) (pieces : List String) :
    (ofText text).fits pieces = true ↔ pieces = Path.split text := by
  have plain := fun piece member => literal_piece text piece literal member
  have spans := spans_closed (Path.split text) pieces.length
    (fun last ends => (plain last (List.mem_of_getLast? ends)).2)
    (fun last ends optional => (plain last (List.mem_of_getLast? ends)).1 optional.1)
  rw [fits_tokens, text_ofText, literal_tokens text literal, spans]
  constructor
  · rintro ⟨even, taken⟩
    exact (taken_literal _ _ plain even).mp taken
  · rintro rfl
    exact ⟨rfl, (taken_literal _ _ plain rfl).mpr rfl⟩

/-- A pattern of static texts is compiled into its pieces. A path without escapes fits it exactly if
the two have the same normal form, and no path of any kind fits two such patterns with different
normal forms. Percent signs in a pattern stand for themselves. -/
theorem static_text_equality (pattern : String) (literal : Literal pattern) :
    (ofText pattern).segments =
        (Path.split pattern).map (fun piece => ⟨pattern, .static, piece⟩) ∧
      (∀ path : String, '%' ∉ path.toList →
        ((ofText pattern).fits (Path.splitDecoded path) = true ↔
          Path.clean pattern = Path.clean path)) ∧
      ∀ other, Literal other → ∀ path,
        (ofText pattern).fits (Path.splitDecoded path) = true →
        (ofText other).fits (Path.splitDecoded path) = true →
        Path.clean pattern = Path.clean other := by
  refine ⟨segments_literal pattern literal, ?_, ?_⟩
  · intro path unsigned
    rw [fits_literal pattern literal, Path.splitDecoded_unsigned path unsigned]
    constructor
    · intro same
      exact Path.clean_split pattern path same.symm
    · intro same
      exact Path.split_clean path pattern same.symm
  · intro other literalOther path fits fitsOther
    rw [fits_literal pattern literal] at fits
    rw [fits_literal other literalOther] at fitsOther
    exact Path.clean_split pattern other (fits.symm.trans fitsOther)

-- A run of separators inside the text counts, and those around it do not.
theorem inner_separators_count :
    Literal "/a//b:/" ∧ (ofText "/a//b:/").fits (Path.splitDecoded "//a//b:") = true ∧
      (ofText "/a//b:/").fits (Path.splitDecoded "/a/b:") = false := by
  have literal : Literal "/a//b:/" := by decide
  obtain ⟨_, equality, _⟩ := static_text_equality "/a//b:/" literal
  refine ⟨literal, (equality "//a//b:" (by decide)).mpr (by decide), ?_⟩
  rw [← Bool.not_eq_true, equality "/a/b:" (by decide)]
  decide

end Pattern
end HttpRouter
