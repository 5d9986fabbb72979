import HttpRouter.Proofs.Grammar
import Mathlib.Data.List.Forall2

/-!
What compiling leaves. There is one segment for each piece of the normal form, up to the first piece
that begins with a star, and what the segment is can be read off its piece alone. So only the last
segment can be a wildcard, no text or name has a separator inside, and two patterns with one normal
form differ in nothing but the text that they remember.
-/

namespace HttpRouter

namespace Grammar

/-- The kind and the value that a token is written for. -/
inductive Denotes (token : String) : SegmentKind → String → Prop where
  | wildcard (star : Opens '*' token) : Denotes token .wildcard token
  | optional (name rest : String) (written : token = ":" ++ name ++ "?" ++ rest)
      (first : '?' ∉ name.toList) : Denotes token .optional name
  | parameter (name : String) (written : token = ":" ++ name) (required : '?' ∉ name.toList) :
      Denotes token .parameter name
  | static (unnamed : ¬ Opens ':' token) (noStar : ¬ Opens '*' token) :
      Denotes token .static token

theorem denotes_chars {token value : String} {kind : SegmentKind}
    (denotes : Denotes token kind value) : value.toList ⊆ token.toList := by
  cases denotes with
  | wildcard _ => exact List.Subset.refl _
  | optional _ rest written _ =>
      subst written
      intro char member
      simp [member]
  | parameter _ written _ =>
      subst written
      intro char member
      simp [member]
  | static _ _ => exact List.Subset.refl _

/-! ### Where a list of tokens ends -/

theorem throughStar_parted (pieces : List String) :
    ∃ rest, pieces = throughStar pieces ++ rest ∧
      (rest = [] ∨ ∃ last, (throughStar pieces).getLast? = some last ∧ Opens '*' last) := by
  induction pieces with
  | nil => exact ⟨[], rfl, Or.inl rfl⟩
  | cons piece more ih =>
      by_cases star : Opens '*' piece
      · rw [throughStar, if_pos star]
        exact ⟨more, rfl, Or.inr ⟨piece, rfl, star⟩⟩
      · obtain ⟨rest, parted, ends⟩ := ih
        rw [throughStar, if_neg star]
        refine ⟨rest, congrArg (List.cons piece) parted, ends.imp_right ?_⟩
        rintro ⟨last, closes, opens⟩
        exact ⟨last, by rw [List.getLast?_cons, closes]; rfl, opens⟩

theorem throughStar_last (pieces : List String) (position : Nat) (token : String)
    (listed : (throughStar pieces)[position]? = some token) (star : Opens '*' token) :
    position + 1 = (throughStar pieces).length := by
  induction pieces generalizing position with
  | nil => cases listed
  | cons piece more ih =>
      by_cases closes : Opens '*' piece
      · rw [throughStar, if_pos closes] at listed ⊢
        obtain ⟨inside, _⟩ := List.getElem?_eq_some_iff.mp listed
        simp only [List.length_singleton] at inside ⊢
        omega
      · rw [throughStar, if_neg closes] at listed ⊢
        cases position with
        | zero => exact absurd (Option.some.inj listed ▸ star) closes
        | succ position => simpa using ih position listed

end Grammar

namespace Segment
open Grammar

theorem read_denotes (text token : String) :
    Denotes token (read text token).kind (read text token).value := by
  have whole : token = String.ofList token.toList := String.ofList_toList.symm
  unfold read
  generalize token.toList = chars at whole
  subst whole
  unfold ofToken
  split
  · next name =>
      split
      · next short =>
          obtain ⟨front, rest, parted, first⟩ := List.eq_append_cons_of_mem short
          have clear : ∀ char ∈ front, (char != '?') = true := by
            intro char member
            rw [bne_iff_ne]
            rintro rfl
            exact first member
          have cut : name.takeWhile (· != '?') = front := by
            rw [parted, List.takeWhile_append_of_pos clear]
            simp
          rw [cut]
          refine .optional _ (String.ofList rest) ?_ (by simpa using first)
          simp [← String.toList_inj, parted]
      · next required =>
          exact .parameter _ (by simp) (by simpa using required)
  · exact .wildcard (by simp [Opens])
  · next unnamed noStar =>
      refine .static ?_ ?_
      · intro opens
        obtain ⟨name, named⟩ := List.head?_eq_some_iff.mp opens
        exact unnamed name (by simpa using named)
      · intro opens
        obtain ⟨rest, starred⟩ := List.head?_eq_some_iff.mp opens
        exact noStar rest (by simpa using starred)

theorem compile_denotes (text : String) :
    List.Forall₂ (fun token segment => Denotes token segment.kind segment.value) (tokens text)
      (compile text) := by
  rw [compile_tokens, List.forall₂_map_right_iff, List.forall₂_same]
  intro token _
  exact read_denotes text token

theorem wildcard_last (text : String) (position : Nat) (segment : Segment)
    (listed : (compile text)[position]? = some segment) (wildcard : segment.kind = .wildcard) :
    position + 1 = (compile text).length := by
  rw [compile_tokens, List.getElem?_map] at listed
  obtain ⟨token, written, rfl⟩ := Option.map_eq_some_iff.mp listed
  rw [compile_tokens, List.length_map]
  exact throughStar_last _ position token written ((read_wildcard text token).mp wildcard)

theorem separator_root (text : String) (segment : Segment) (member : segment ∈ compile text)
    (separator : '/' ∈ segment.value.toList) : Path.clean text = Path.root := by
  rw [compile_tokens] at member
  obtain ⟨token, listed, rfl⟩ := List.mem_map.mp member
  have inside := denotes_chars (read_denotes text token) separator
  rcases Path.pieces_clear text with atRoot | clear
  · exact Path.split_lone text Path.root atRoot
  · exact absurd inside (clear token (throughStar_subset _ listed))

theorem ofToken_pattern (text : String) (token : List Char) :
    (ofToken text token).pattern = text := by
  unfold ofToken
  split
  · split <;> rfl
  · rfl
  · rfl

theorem compile_respelled (text other : String) (same : Path.clean other = Path.clean text) :
    (compile other).map (moved text) = compile text := by
  have reread : moved text ∘ read other = read text := by
    funext token
    exact ofToken_moved other text token.toList
  rw [compile_tokens, compile_tokens, List.map_map, reread, tokens,
    Path.split_clean other text same, tokens]

/-- Compiling reads the pieces of a pattern in order, each into the segment that it is written for,
and stops behind the first piece that begins with a star. Hence a wildcard is the last segment, a
separator is the value of the root pattern's only segment and stands in no other value, no static
text at either end is empty, every segment remembers the pattern, and patterns with one normal form
compile alike. -/
theorem compile_denotes_pieces (text : String) :
    let segments := compile text
    segments ≠ [] ∧
    (∃ tokens rest, Path.split text = tokens ++ rest ∧
      List.Forall₂ (fun token segment => Denotes token segment.kind segment.value) tokens
        segments ∧
      (∀ (position : Nat) (token : String), tokens[position]? = some token → Opens '*' token →
        position + 1 = tokens.length) ∧
      (rest = [] ∨ ∃ last, tokens.getLast? = some last ∧ Opens '*' last)) ∧
    (∀ (position : Nat) (segment : Segment), segments[position]? = some segment →
      segment.kind = .wildcard → position + 1 = segments.length) ∧
    (∀ segment ∈ segments, '/' ∈ segment.value.toList →
      Path.clean text = "/" ∧ segments = [⟨text, .static, "/"⟩]) ∧
    (∀ segment, segments.head? = some segment ∨ segments.getLast? = some segment →
      segment.kind = .static → segment.value ≠ "") ∧
    (∀ segment ∈ segments, segment.pattern = text) ∧
    ∀ other, Path.clean other = Path.clean text →
      (compile other).map (fun segment => (segment.kind, segment.value)) =
        segments.map fun segment => (segment.kind, segment.value) := by
  refine ⟨compile_some text, ?_, wildcard_last text, ?_, ?_, ?_, ?_⟩
  · obtain ⟨rest, parted, ends⟩ := throughStar_parted (Path.split text)
    exact ⟨tokens text, rest, parted, compile_denotes text, throughStar_last _, ends⟩
  · intro segment member separator
    have atRoot := separator_root text segment member separator
    exact ⟨atRoot, compile_root text atRoot⟩
  · rintro segment (first | last) static
    · exact compile_first text segment first static
    · exact compile_last text segment last static
  · intro segment member
    rw [compile_tokens] at member
    obtain ⟨token, _, rfl⟩ := List.mem_map.mp member
    exact ofToken_pattern text token.toList
  · intro other same
    rw [← compile_respelled text other same, List.map_map]
    rfl

-- An empty name, a name cut at its first question mark, an empty text inside, and a wildcard with
-- more text, behind which nothing is read.
theorem wildcard_closes_pattern :
    (compile "/:?//:a?b?/é/*x/:y/").map (fun segment => (segment.kind, segment.value)) =
        [(.optional, ""), (.static, ""), (.optional, "a"), (.static, "é"), (.wildcard, "*x")] ∧
      (compile ":?//:a?b?/é/*x/:y").map (fun segment => (segment.kind, segment.value)) =
        (compile "/:?//:a?b?/é/*x/:y/").map fun segment => (segment.kind, segment.value) := by
  obtain ⟨_, _, _, _, _, _, alike⟩ := compile_denotes_pieces "/:?//:a?b?/é/*x/:y/"
  exact ⟨by decide, alike ":?//:a?b?/é/*x/:y" (by decide)⟩

end Segment
end HttpRouter
