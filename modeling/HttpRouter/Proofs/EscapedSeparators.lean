import HttpRouter.Proofs.Positions
import HttpRouter.Proofs.ReverseRouting

/-!
Empty slots. Whether a piece is an empty slot is asked after its escapes were decoded, so a piece
that is one escaped separator passes for one, as the root piece does. Those pieces are `%2F` and
`%2f`, and there are no others. Main statement: `vacant_pieces_exact`, which says for every pattern
what such a piece does to it, and that no other piece does.
-/

namespace HttpRouter

namespace Path

/-- A piece of some text, as it stands in the path, that passes for an empty slot. -/
def Vacant (raw : String) : Prop :=
  raw = root ∨ raw = "%2F" ∨ raw = "%2f"

instance (raw : String) : Decidable (Vacant raw) :=
  inferInstanceAs (Decidable (_ ∨ _ ∨ _))

theorem placeholder_vacant (raw : String) (someText : raw ≠ "") :
    isPlaceholder (Percent.decode raw) = true ↔ Vacant raw := by
  rw [placeholder_iff, Percent.decode_blank, Percent.decode_separator]
  exact or_iff_right someText

theorem splitDecoded_root (path : String) :
    splitDecoded path = [root] ↔
      (∀ char ∈ path.toList, char = '/') ∨ clean path = "%2F" ∨ clean path = "%2f" := by
  constructor
  · intro lone
    obtain ⟨raw, pieces, decoded⟩ := List.map_eq_singleton_iff.mp lone
    rw [split_lone path raw pieces, ← split_separator, pieces, List.mem_singleton]
    rcases (Percent.decode_separator raw).mp decoded with bare | escaped
    · exact Or.inl bare.symm
    · exact Or.inr escaped
  · rintro (separators | upper | lower)
    · exact splitDecoded_bare path ((clean_root path).mpr ((trim_bare path.toList).mpr separators))
    · rw [splitDecoded_clean path "%2F" (upper.trans (by decide))]
      decide
    · rw [splitDecoded_clean path "%2f" (lower.trans (by decide))]
      decide

theorem splitDecoded_at (path : String) (position : Nat) (raw : String)
    (listed : (split path)[position]? = some raw) :
    (splitDecoded path)[position]? = some (Percent.decode raw) := by
  rw [splitDecoded, List.getElem?_map, listed]
  rfl

end Path

namespace Pattern

theorem root_fits (pattern : Pattern) (atRoot : Path.clean pattern.text = Path.root)
    (pieces : List String) : pattern.fits pieces = true ↔ pieces = [Path.root] := by
  have segments := root_segments pattern atRoot
  match pieces with
  | [] => simp [fits, acceptsLength, ending, segments]
  | [piece] =>
      have met : pattern.fits [piece] = (Path.root == piece) := by
        simp [fits, acceptsLength, acceptsPieces, Segment.accepts, segments]
      rw [met, beq_iff_eq, List.singleton_inj, eq_comm]
  | first :: second :: rest => simp [fits, acceptsLength, ending, segments]

theorem own_name_met (pattern : Pattern) (pieces : List String) (position : Nat)
    (segment : Segment) (piece : String) (listed : pattern.segments[position]? = some segment)
    (named : segment.kind ≠ .static) (met : pieces[position]? = some piece)
    (own : ∀ other next, pattern.segments[other]? = some next → next.kind ≠ .static →
      next.value = segment.value → other = position) :
    (pattern.extract pieces).get? segment.value =
      if Path.isPlaceholder piece then none else some piece := by
  have alone : ∀ other value, pattern.Fills pieces segment.value other value →
      other = position ∧ value = piece := by
    rintro other value ⟨⟨next, found, captures, same⟩, reached, _, _⟩
    obtain rfl := own other next found captures same
    exact ⟨rfl, Option.some.inj (reached.symm.trans met)⟩
  by_cases gap : Path.isPlaceholder piece = true
  · rw [if_pos gap, extract_none]
    intro other value fills
    obtain ⟨_, rfl⟩ := alone other value fills
    rcases (Path.placeholder_iff value).mp gap with bare | separator
    · exact fills.someText bare
    · exact fills.noGap separator
  · rw [if_neg gap, get?_extract]
    rw [Path.placeholder_iff, not_or] at gap
    refine ⟨position, ⟨⟨segment, listed, named, rfl⟩, met, gap.1, gap.2⟩, ?_⟩
    intro later value behind fills
    obtain ⟨rfl, _⟩ := alone later value fills
    exact Nat.lt_irrefl _ behind

/-- The pieces that pass for empty slots though they have a text: the root piece, which only the
root path has, and a separator that was escaped. The root pattern fits a path of such a piece alone,
a parameter refuses such a piece and no other one with a text, and such a piece gives no name a
value, while any other with a text gives the name its own. -/
theorem vacant_pieces_exact (path : String) :
    (Path.root ∈ Path.split path ↔ ∀ char ∈ path.toList, char = '/') ∧
    (∀ pattern : Pattern, Path.clean pattern.text = Path.root →
      (pattern.fits (Path.splitDecoded path) = true ↔
        (∀ char ∈ path.toList, char = '/') ∨ Path.clean path = "%2F" ∨ Path.clean path = "%2f")) ∧
    ∀ (pattern : Pattern) (position : Nat) (segment : Segment) (raw : String),
      pattern.segments[position]? = some segment → (Path.split path)[position]? = some raw →
      raw ≠ "" →
      (segment.kind = .parameter →
        (segment.accepts (Percent.decode raw) = true ↔ ¬ Path.Vacant raw)) ∧
      (segment.kind ≠ .static →
        (∀ other next, pattern.segments[other]? = some next → next.kind ≠ .static →
          next.value = segment.value → other = position) →
        (pattern.extract (Path.splitDecoded path)).get? segment.value =
          if Path.Vacant raw then none else some (Percent.decode raw)) := by
  refine ⟨Path.split_separator path, ?_, ?_⟩
  · intro pattern atRoot
    rw [root_fits pattern atRoot, Path.splitDecoded_root]
  · intro pattern position segment raw listed found someText
    have vacant := Path.placeholder_vacant raw someText
    constructor
    · intro parameter
      rw [← vacant, Segment.accepts, parameter, Bool.not_eq_true', Bool.not_eq_true]
    · intro named own
      have met := Path.splitDecoded_at path position raw found
      rw [own_name_met pattern _ position segment _ listed named met own]
      simp only [vacant]

-- The route of the root takes a path with a piece, and a named segment loses what it met.
theorem escaped_separator_lost :
    (ofText "/").fits (Path.splitDecoded "/%2F") = true ∧
      ¬ (∀ char ∈ "/%2F".toList, char = '/') ∧
      Path.split "/a/%2f" = ["a", "%2f"] ∧
      (ofText "/a/:id").fits (Path.splitDecoded "/a/%2f") = false ∧
      (ofText "/a/:id?").fits (Path.splitDecoded "/a/%2f") = true ∧
      ((ofText "/a/:id?").extract (Path.splitDecoded "/a/%2f")).get? "id" = none := by
  refine ⟨by decide, ?_, by decide, by decide, by decide, by decide⟩
  intro separators
  exact absurd (separators '%' (by decide)) (by decide)

end Pattern
end HttpRouter
