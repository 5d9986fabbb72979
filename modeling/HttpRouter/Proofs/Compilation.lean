import HttpRouter.Pattern
import HttpRouter.Proofs.JoinedPaths

/-!
Compiled patterns. Reading a pattern character by character is splitting its normal form at the
separators and reading every piece, up to the first wildcard. Hence a pattern below another one
begins with the segments of the other, and no static text at either end of a pattern is empty.
-/

namespace HttpRouter
namespace Segment

/-- The segments up to the first wildcard, which closes a pattern. -/
def untilWildcard : List Segment → List Segment
  | [] => []
  | segment :: rest =>
      if segment.kind = .wildcard then [segment] else segment :: untilWildcard rest

theorem untilWildcard_single (segment : Segment) : untilWildcard [segment] = [segment] := by
  simp [untilWildcard]

theorem untilWildcard_prefix (segments more : List Segment) :
    untilWildcard segments <+: untilWildcard (segments ++ more) := by
  induction segments with
  | nil => exact List.nil_prefix
  | cons segment rest ih =>
      by_cases closes : segment.kind = .wildcard
      · simp [untilWildcard, closes]
      · simpa [untilWildcard, closes] using ih

-- The induction is on the text for every token: a separator empties the token, any other character
-- makes it longer. A text that ends with a separator would leave an empty last piece, which the
-- reader does not close.
theorem scan_pieces (pattern : String) (token text : List Char) (something : token ≠ [] ∨ text ≠ [])
    (trimmed : text.getLast? ≠ some '/') :
    scan pattern token text =
      untilWildcard ((text.splitOnPPrepend (· == '/') token).map (ofToken pattern)) := by
  induction text generalizing token with
  | nil =>
      cases token with
      | nil => simp at something
      | cons char token => simp [scan, untilWildcard_single]
  | cons char rest ih =>
      by_cases separator : char = '/'
      · subst separator
        have someRest : rest ≠ [] := by
          intro empty
          simp [empty] at trimmed
        have tail := ih [] (Or.inr someRest) (by
          simpa [List.getLast?_cons_of_ne_nil someRest] using trimmed)
        rw [scan, tail, List.splitOnPPrepend_cons_pos (by rfl)]
        rfl
      · have tail := ih (char :: token) (Or.inl (by simp)) (by
          intro last
          apply trimmed
          simp [List.getLast?_cons, last])
        rw [scan, tail, List.splitOnPPrepend_cons_neg (by simpa using separator)]
        intro same
        exact separator same

theorem compile_root (text : String) (atRoot : Path.clean text = Path.root) :
    compile text = [⟨text, .static, Path.root⟩] := by
  rw [compile]
  exact if_pos atRoot

/-- Compiling is splitting, and reading the pieces up to the first wildcard. -/
theorem compile_pieces (pattern : String) :
    compile pattern = untilWildcard ((Path.splitChars pattern.toList).map (ofToken pattern)) := by
  by_cases bare : Path.trim pattern.toList = []
  · have atRoot := (Path.clean_root pattern).mpr bare
    simp only [compile, atRoot, Path.splitChars, bare, if_true]
    rfl
  · have nested : Path.clean pattern ≠ Path.root := fun atRoot =>
      bare ((Path.clean_root pattern).mp atRoot)
    simp only [compile, if_neg nested, Path.nested_toList pattern nested, Path.splitChars,
      if_neg bare]
    rw [scan_pieces pattern [] _ (Or.inr bare) (Path.trim_last _), List.splitOn_eq_splitOnP,
      List.splitOnP_eq_splitOnPPrepend]

/-! ### The segments at the ends of a pattern -/

theorem ofToken_static (pattern : String) (token : List Char)
    (static : (ofToken pattern token).kind = .static) :
    (ofToken pattern token).value = String.ofList token := by
  unfold ofToken at static ⊢
  split at static
  · split at static <;> cases static
  · cases static
  · rfl

theorem untilWildcard_first (segments : List Segment) :
    (untilWildcard segments).head? = segments.head? := by
  cases segments with
  | nil => rfl
  | cons segment rest =>
      rw [untilWildcard]
      split <;> rfl

theorem untilWildcard_last (segments : List Segment) (segment : Segment)
    (last : (untilWildcard segments).getLast? = some segment) :
    segment.kind = .wildcard ∨ segments.getLast? = some segment := by
  induction segments with
  | nil => exact Or.inr last
  | cons first rest ih =>
      by_cases closes : first.kind = .wildcard
      · have same : first = segment := by simpa [untilWildcard, closes] using last
        exact Or.inl (same ▸ closes)
      · rw [untilWildcard, if_neg closes] at last
        cases rest with
        | nil => exact Or.inr last
        | cons next rest =>
            have more : untilWildcard (next :: rest) ≠ [] := by
              rw [untilWildcard]
              split <;> simp
            rw [List.getLast?_cons_of_ne_nil more] at last
            rw [List.getLast?_cons_of_ne_nil (by simp)]
            exact ih last

theorem compile_some (pattern : String) : compile pattern ≠ [] := by
  intro none
  have first := untilWildcard_first ((Path.splitChars pattern.toList).map (ofToken pattern))
  rw [← compile_pieces, none, List.head?_map] at first
  exact Path.split_some _ (List.head?_eq_none_iff.mp (Option.map_eq_none_iff.mp first.symm))

theorem compile_first (pattern : String) (segment : Segment)
    (first : (compile pattern).head? = some segment) (static : segment.kind = .static) :
    segment.value ≠ "" := by
  rw [compile_pieces, untilWildcard_first, List.head?_map] at first
  obtain ⟨token, opens, rfl⟩ := Option.map_eq_some_iff.mp first
  rw [ofToken_static pattern token static]
  intro bare
  exact Path.split_first _ (opens.trans (congrArg some (String.ofList_eq_empty_iff.mp bare)))

theorem compile_last (pattern : String) (segment : Segment)
    (last : (compile pattern).getLast? = some segment) (static : segment.kind = .static) :
    segment.value ≠ "" := by
  rw [compile_pieces] at last
  rcases untilWildcard_last _ _ last with wildcard | last
  · rw [wildcard] at static
    cases static
  · rw [List.getLast?_map] at last
    obtain ⟨token, closes, rfl⟩ := Option.map_eq_some_iff.mp last
    rw [ofToken_static pattern token static]
    intro bare
    exact Path.split_last _ (closes.trans (congrArg some (String.ofList_eq_empty_iff.mp bare)))

/-! ### Segments of one pattern in another -/

def moved (pattern : String) (segment : Segment) : Segment :=
  { segment with pattern }

theorem accepts_moved (pattern piece : String) (segment : Segment) :
    (segment.moved pattern).accepts piece = segment.accepts piece := rfl

theorem ofToken_moved (scope pattern : String) (token : List Char) :
    (ofToken scope token).moved pattern = ofToken pattern token := by
  unfold ofToken
  split
  · split <;> rfl
  · rfl
  · rfl

theorem untilWildcard_moved (pattern : String) (segments : List Segment) :
    (untilWildcard segments).map (moved pattern) =
      untilWildcard (segments.map (moved pattern)) := by
  induction segments with
  | nil => rfl
  | cons segment rest ih =>
      by_cases closes : segment.kind = .wildcard <;> simp [untilWildcard, moved, closes]
      exact ih

theorem compile_below (scope pattern : String) (nested : Path.clean scope ≠ Path.root)
    (below : Path.Below scope pattern) :
    (compile scope).map (moved pattern) <+: compile pattern := by
  obtain ⟨more, pieces⟩ := Path.below_split scope pattern nested below
  have reread : (moved pattern) ∘ ofToken scope = ofToken pattern := by
    funext token
    exact ofToken_moved scope pattern token
  rw [compile_pieces, compile_pieces, untilWildcard_moved, List.map_map, reread, ← pieces,
    List.map_append]
  exact untilWildcard_prefix _ _

end Segment

namespace Pattern

@[simp] theorem segments_ofText (text : String) :
    (ofText text).segments = Segment.compile text := by
  simp only [ofText]

end Pattern
end HttpRouter
