import HttpRouter.Proofs.Compilation
import HttpRouter.Proofs.Positions

/-!
The grammar of patterns, from text to text. The tokens of a pattern are the pieces of its normal
form, up to the first one that begins with a star. What a token takes and how long a path may be is
read off the tokens alone, without compiling anything. Main statement: `fits_iff_derives`, the
compiled pattern fits a path exactly when the tokens of its text derive the pieces of the path.
-/

namespace HttpRouter

namespace Grammar

def Opens (char : Char) (token : String) : Prop :=
  token.toList.head? = some char

instance (char : Char) (token : String) : Decidable (Opens char token) :=
  inferInstanceAs (Decidable (_ = _))

/-- A token that may go without a piece at the end of a path. -/
def Optional (token : String) : Prop :=
  Opens ':' token ∧ '?' ∈ token.toList

def throughStar : List String → List String
  | [] => []
  | piece :: rest => if Opens '*' piece then [piece] else piece :: throughStar rest

def tokens (text : String) : List String :=
  throughStar (Path.split text)

/-- The pieces that a token takes. -/
inductive Takes (token : String) : String → Prop where
  | any (piece : String) (loose : Opens '*' token ∨ Optional token) : Takes token piece
  | filled (piece : String) (named : Opens ':' token) (required : ¬ Optional token)
      (someText : piece ≠ "") (noGap : piece ≠ "/") : Takes token piece
  | itself (unnamed : ¬ Opens ':' token) (noStar : ¬ Opens '*' token) : Takes token token

inductive Spans (tokens : List String) (count : Nat) : Prop where
  | even (same : count = tokens.length)
  | longer (more : tokens.length < count) (last : String) (ends : tokens.getLast? = some last)
      (star : Opens '*' last)
  | shorter (fewer : count < tokens.length) (last : String) (ends : tokens.getLast? = some last)
      (optional : Optional last)

/-- Pieces that some tokens stand for: as many as they may be, and each taken by the token at its
position, as far as both go. -/
structure Derives (tokens pieces : List String) : Prop where
  spans : Spans tokens pieces.length
  takes : ∀ (position : Nat) (token piece : String), tokens[position]? = some token →
    pieces[position]? = some piece → Takes token piece

end Grammar

namespace Segment
open Grammar

def read (text token : String) : Segment :=
  ofToken text token.toList

/-- How a token is read. The four ways exclude each other, so each of them is also what a segment
of its kind was read from. -/
theorem read_cases (text token : String) :
    (Opens '*' token ∧ (read text token).kind = .wildcard) ∨
      (Optional token ∧ (read text token).kind = .optional) ∨
      (Opens ':' token ∧ ¬ Optional token ∧ (read text token).kind = .parameter) ∨
      (¬ Opens ':' token ∧ ¬ Opens '*' token ∧ (read text token).kind = .static ∧
        (read text token).value = token) := by
  have whole : String.ofList token.toList = token := String.ofList_toList
  unfold Optional Opens read
  generalize token.toList = chars at whole ⊢
  unfold ofToken
  split
  · next name =>
      by_cases optional : '?' ∈ name <;> simp [optional]
  · simp
  · next unnamed noStar =>
      refine Or.inr (Or.inr (Or.inr ⟨?_, ?_, rfl, whole⟩))
      · intro opens
        obtain ⟨name, named⟩ := List.head?_eq_some_iff.mp opens
        exact unnamed name named
      · intro opens
        obtain ⟨rest, star⟩ := List.head?_eq_some_iff.mp opens
        exact noStar rest star

theorem opens_apart {first second : Char} {token : String} (opens : Opens first token)
    (other : Opens second token) : first = second :=
  Option.some.inj (opens.symm.trans other)

theorem read_wildcard (text token : String) :
    (read text token).kind = .wildcard ↔ Opens '*' token := by
  rcases read_cases text token with ⟨star, kind⟩ | ⟨optional, kind⟩ | ⟨named, _, kind⟩ |
    ⟨_, noStar, kind, _⟩
  · simp [star, kind]
  · have noStar : ¬ Opens '*' token := fun star => absurd (opens_apart star optional.1) (by decide)
    simp [noStar, kind]
  · have noStar : ¬ Opens '*' token := fun star => absurd (opens_apart star named) (by decide)
    simp [noStar, kind]
  · simp [noStar, kind]

theorem read_optional (text token : String) :
    (read text token).kind = .optional ↔ Optional token := by
  rcases read_cases text token with ⟨star, kind⟩ | ⟨optional, kind⟩ | ⟨_, required, kind⟩ |
    ⟨unnamed, _, kind, _⟩
  · have required : ¬ Optional token := fun optional =>
      absurd (opens_apart star optional.1) (by decide)
    simp [required, kind]
  · simp [optional, kind]
  · simp [required, kind]
  · have required : ¬ Optional token := fun optional => unnamed optional.1
    simp [required, kind]

theorem read_accepts (text token piece : String) :
    (read text token).accepts piece = true ↔ Takes token piece := by
  unfold accepts
  rcases read_cases text token with ⟨star, kind⟩ | ⟨optional, kind⟩ | ⟨named, required, kind⟩ |
    ⟨unnamed, noStar, kind, value⟩
  · simp [kind, Takes.any piece (Or.inl star)]
  · simp [kind, Takes.any piece (Or.inr optional)]
  · have noStar : ¬ Opens '*' token := fun star => absurd (opens_apart star named) (by decide)
    rw [kind, Bool.not_eq_true', ← Bool.not_eq_true, Path.placeholder_iff, not_or]
    constructor
    · rintro ⟨someText, noGap⟩
      exact .filled piece named required someText noGap
    · intro takes
      cases takes with
      | any _ loose => exact absurd loose (not_or.mpr ⟨noStar, required⟩)
      | filled _ _ _ someText noGap => exact ⟨someText, noGap⟩
      | itself unnamed _ => exact absurd named unnamed
  · have required : ¬ Optional token := fun optional => unnamed optional.1
    rw [kind, value, beq_iff_eq]
    constructor
    · rintro rfl
      exact .itself unnamed noStar
    · intro takes
      cases takes with
      | any _ loose => exact absurd loose (not_or.mpr ⟨noStar, required⟩)
      | filled _ named _ _ _ => exact absurd named unnamed
      | itself _ _ => rfl

theorem untilWildcard_read (text : String) (pieces : List String) :
    untilWildcard (pieces.map (read text)) = (throughStar pieces).map (read text) := by
  induction pieces with
  | nil => rfl
  | cons piece rest ih =>
      by_cases star : Opens '*' piece
      · simp [untilWildcard, throughStar, star, read_wildcard]
      · simp [untilWildcard, throughStar, star, read_wildcard, ih]

theorem compile_tokens (text : String) : compile text = (tokens text).map (read text) := by
  have reread : read text ∘ String.ofList = ofToken text := by
    funext token
    rw [Function.comp_apply, read, String.toList_ofList]
  rw [tokens, ← untilWildcard_read, compile_pieces, Path.split, List.map_map, reread]

end Segment

/-! ### Tokens with and without a wildcard -/

namespace Grammar

theorem throughStar_subset (pieces : List String) : throughStar pieces ⊆ pieces := by
  induction pieces with
  | nil => exact List.Subset.refl []
  | cons piece rest ih =>
      by_cases star : Opens '*' piece
      · rw [throughStar, if_pos star]
        exact List.cons_subset_cons piece (List.nil_subset rest)
      · rw [throughStar, if_neg star]
        exact List.cons_subset_cons piece ih

theorem throughStar_open (front more : List String)
    (noStar : ∀ piece ∈ front, ¬ Opens '*' piece) :
    throughStar (front ++ more) = front ++ throughStar more := by
  induction front with
  | nil => rfl
  | cons piece rest ih =>
      have tail := ih fun later member => noStar later (List.mem_cons_of_mem piece member)
      rw [List.cons_append, throughStar, if_neg (noStar piece List.mem_cons_self), tail]
      rfl

theorem tokens_open (text : String) (noStar : ∀ piece ∈ Path.split text, ¬ Opens '*' piece) :
    tokens text = Path.split text := by
  simpa [tokens, throughStar] using throughStar_open (Path.split text) [] noStar

theorem throughStar_closed (front more : List String) (star : ∃ piece ∈ front, Opens '*' piece) :
    throughStar (front ++ more) = throughStar front ∧
      ∃ last, (throughStar front).getLast? = some last ∧ Opens '*' last := by
  induction front with
  | nil => simp at star
  | cons piece rest ih =>
      by_cases closes : Opens '*' piece
      · simp [throughStar, closes]
      · have later : ∃ piece ∈ rest, Opens '*' piece := by simpa [closes] using star
        obtain ⟨dropped, last, ends, opens⟩ := ih later
        simp only [List.cons_append, throughStar, if_neg closes, dropped, true_and]
        refine ⟨last, ?_, opens⟩
        rw [List.getLast?_cons, ends]
        rfl

theorem spans_closed (tokens : List String) (count : Nat)
    (noStar : ∀ last, tokens.getLast? = some last → ¬ Opens '*' last)
    (required : ∀ last, tokens.getLast? = some last → ¬ Optional last) :
    Spans tokens count ↔ count = tokens.length := by
  constructor
  · intro spans
    cases spans with
    | even same => exact same
    | longer _ last ends star => exact absurd star (noStar last ends)
    | shorter _ last ends optional => exact absurd optional (required last ends)
  · exact .even

theorem spans_starred (tokens : List String) (count : Nat) (last : String)
    (ends : tokens.getLast? = some last) (star : Opens '*' last) :
    Spans tokens count ↔ tokens.length ≤ count := by
  constructor
  · intro spans
    cases spans with
    | even same => exact Nat.le_of_eq same.symm
    | longer more _ _ _ => exact Nat.le_of_lt more
    | shorter _ other closes optional =>
        rw [ends] at closes
        cases closes
        exact absurd (Segment.opens_apart star optional.1) (by decide)
  · intro reached
    rcases Nat.eq_or_lt_of_le reached with same | more
    · exact .even same.symm
    · exact .longer more last ends star

def Taken (tokens pieces : List String) : Prop :=
  ∀ (position : Nat) (token piece : String), tokens[position]? = some token →
    pieces[position]? = some piece → Takes token piece

theorem taken_starred (tokens pieces : List String) :
    Taken (tokens ++ ["*"]) pieces ↔ Taken tokens pieces := by
  constructor
  · intro taken position token piece listed met
    obtain ⟨inside, _⟩ := List.getElem?_eq_some_iff.mp listed
    apply taken position token piece ?_ met
    rw [List.getElem?_append_left inside, listed]
  · intro taken position token piece listed met
    by_cases inside : position < tokens.length
    · rw [List.getElem?_append_left inside] at listed
      exact taken position token piece listed met
    · rw [List.getElem?_append_right (by omega)] at listed
      rw [List.mem_singleton.mp (List.mem_of_getElem? listed)]
      exact .any piece (Or.inl rfl)

end Grammar

namespace Pattern
open Grammar

theorem segments_tokens (pattern : Pattern) :
    pattern.segments = (tokens pattern.text).map (Segment.read pattern.text) := by
  rw [pattern.compiled]
  exact Segment.compile_tokens pattern.text

theorem ending_tokens (pattern : Pattern) (kind : SegmentKind) :
    pattern.ending = some kind ↔
      ∃ last, (tokens pattern.text).getLast? = some last ∧
        (Segment.read pattern.text last).kind = kind := by
  rw [ending, segments_tokens, List.getLast?_map, Option.map_map, Option.map_eq_some_iff]
  rfl

theorem acceptsLength_spans (pattern : Pattern) (count : Nat) :
    pattern.acceptsLength count = true ↔ Spans (tokens pattern.text) count := by
  have length : pattern.segments.length = (tokens pattern.text).length := by
    rw [segments_tokens, List.length_map]
  simp only [acceptsLength_iff, length, ending_tokens, Segment.read_wildcard, Segment.read_optional]
  constructor
  · rintro (same | ⟨more, last, ends, star⟩ | ⟨fewer, last, ends, optional⟩)
    · exact .even same
    · exact .longer more last ends star
    · exact .shorter fewer last ends optional
  · intro spans
    cases spans with
    | even same => exact Or.inl same
    | longer more last ends star => exact Or.inr (Or.inl ⟨more, last, ends, star⟩)
    | shorter fewer last ends optional => exact Or.inr (Or.inr ⟨fewer, last, ends, optional⟩)

theorem acceptsPieces_takes (pattern : Pattern) (pieces : List String) :
    pattern.acceptsPieces pieces = true ↔ Taken (tokens pattern.text) pieces := by
  simp only [acceptsPieces_iff, segments_tokens, List.getElem?_map, Option.map_eq_some_iff]
  constructor
  · intro accepted position token piece listed met
    exact (Segment.read_accepts _ _ _).mp (accepted position _ piece ⟨token, listed, rfl⟩ met)
  · rintro takes position segment piece ⟨token, listed, rfl⟩ met
    exact (Segment.read_accepts _ _ _).mpr (takes position token piece listed met)

@[simp] theorem text_ofText (text : String) : (ofText text).text = text := rfl

theorem fits_tokens (pattern : Pattern) (pieces : List String) :
    pattern.fits pieces = true ↔
      Spans (tokens pattern.text) pieces.length ∧ Taken (tokens pattern.text) pieces := by
  rw [fits_iff, acceptsLength_spans, acceptsPieces_takes]

theorem covers_tokens (pattern : Pattern) (pieces : List String) :
    pattern.covers pieces = true ↔
      (tokens pattern.text).length ≤ pieces.length ∧ Taken (tokens pattern.text) pieces := by
  rw [covers, Bool.and_eq_true, decide_eq_true_iff, acceptsPieces_takes, segments_tokens,
    List.length_map]

/-- A compiled pattern fits a path exactly when the tokens of its text derive the decoded pieces of
the path. -/
theorem fits_iff_derives (pattern : Pattern) (path : String) :
    pattern.fits (Path.splitDecoded path) = true ↔
      Derives (tokens pattern.text) (Path.splitDecoded path) := by
  rw [fits_iff, acceptsLength_spans, acceptsPieces_takes]
  exact ⟨fun ⟨spans, takes⟩ => ⟨spans, takes⟩, fun derives => ⟨derives.spans, derives.takes⟩⟩

end Pattern
end HttpRouter
