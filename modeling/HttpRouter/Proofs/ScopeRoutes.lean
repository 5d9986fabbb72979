import HttpRouter.Proofs.Grammar
import HttpRouter.Proofs.Scopes

/-!
Scopes and routes with one text. A scope is tested on the first pieces of a path and a route on all
of them, by two rules about length. They come to the same: the paths of a scope are those of the
route with its text and of the route with a wildcard behind it. A path that goes on below a path of
the scope is one of the scope as well, the paths below the root included.
-/

namespace HttpRouter
variable {ν : Type}

namespace Pattern
open Grammar

/-- The scope's own wildcard, if it has one, closes the pattern in front of the one that is put
behind it. Without one, the first route takes the paths that are as long as the scope, and the
second those that are longer. -/
theorem covers_fits (scope : String) (nested : Path.clean scope ≠ Path.root)
    (required : (ofText scope).ending ≠ some .optional) (pieces : List String) :
    (ofText scope).covers pieces = true ↔
      (ofText (Path.clean scope)).fits pieces = true ∨
        (ofText (Path.clean scope ++ "/*")).fits pieces = true := by
  have reread : tokens (Path.clean scope) = tokens scope := by
    rw [tokens, Path.split_clean _ _ (Path.clean_clean scope), tokens]
  have continued : tokens (Path.clean scope ++ "/*") = throughStar (Path.split scope ++ ["*"]) := by
    have joined : Path.clean scope ++ "/*" = Path.clean scope ++ "/" ++ "*" := by
      rw [String.append_assoc]
      rfl
    rw [tokens, joined, Path.split_continued scope "*" nested (by decide) (by decide)]
  simp only [covers_tokens, fits_tokens, text_ofText, reread, continued]
  by_cases star : ∃ piece ∈ Path.split scope, Opens '*' piece
  · obtain ⟨dropped, last, ends, opens⟩ := throughStar_closed (Path.split scope) ["*"] star
    rw [dropped, ← tokens, spans_starred (tokens scope) pieces.length last ends opens, or_self]
  · have noStar : ∀ piece ∈ Path.split scope, ¬ Opens '*' piece :=
      fun piece member opens => star ⟨piece, member, opens⟩
    have whole := tokens_open scope noStar
    have even := spans_closed (tokens scope) pieces.length
      (fun last ends => noStar last (whole ▸ List.mem_of_getLast? ends))
      (fun last ends optional => required (((ofText scope).ending_tokens _).mpr
        ⟨last, ends, (Segment.read_optional _ _).mpr optional⟩))
    have appended : throughStar (Path.split scope ++ ["*"]) = tokens scope ++ ["*"] := by
      rw [throughStar_open _ _ noStar, whole]
      rfl
    have longer := spans_starred (tokens scope ++ ["*"]) pieces.length "*"
      List.getLast?_concat rfl
    rw [appended, even, longer, taken_starred, ← or_and_right, List.length_append,
      List.length_singleton]
    refine and_congr_left fun _ => ?_
    omega

theorem covers_append (pattern : Pattern) (pieces more : List String)
    (covered : pattern.covers pieces = true) : pattern.covers (pieces ++ more) = true := by
  rw [covers_tokens] at covered ⊢
  obtain ⟨reached, taken⟩ := covered
  refine ⟨by rw [List.length_append]; omega, ?_⟩
  intro position token piece listed met
  obtain ⟨bound, _⟩ := List.getElem?_eq_some_iff.mp listed
  rw [List.getElem?_append_left (Nat.lt_of_lt_of_le bound reached)] at met
  exact taken position token piece listed met

theorem root_token (text : String) (listed : Path.root ∈ tokens text) :
    Path.clean text = Path.root := by
  have piece := throughStar_subset (Path.split text) listed
  exact (Path.clean_root text).mpr
    ((Path.trim_bare _).mpr ((Path.split_separator text).mp piece))

-- What takes the root piece and is not the root itself takes every piece.
theorem covers_root (scope : String) (nested : Path.clean scope ≠ Path.root)
    (covered : (ofText scope).covers [Path.root] = true) (pieces : List String)
    (somePiece : pieces ≠ []) : (ofText scope).covers pieces = true := by
  rw [covers_tokens, text_ofText] at covered ⊢
  obtain ⟨short, taken⟩ := covered
  have long := List.length_pos_iff.mpr somePiece
  refine ⟨Nat.le_trans short long, ?_⟩
  intro position token piece listed _
  obtain ⟨bound, _⟩ := List.getElem?_eq_some_iff.mp listed
  obtain rfl : position = 0 := by
    rw [List.length_singleton] at short
    omega
  cases taken 0 token Path.root listed rfl with
  | any _ loose => exact .any piece loose
  | filled _ _ _ _ noGap => exact absurd rfl noGap
  | itself _ _ => exact absurd (root_token scope (List.mem_of_getElem? listed)) nested

theorem covers_below (scope : String) (nested : Path.clean scope ≠ Path.root) (path rest : String)
    (covered : (ofText scope).covers (Path.splitDecoded path) = true) :
    (ofText scope).covers (Path.splitDecoded (path ++ "/" ++ rest)) = true := by
  by_cases atRoot : Path.clean path = Path.root
  · rw [Path.splitDecoded_bare path atRoot] at covered
    refine covers_root scope nested covered _ ?_
    simpa [Path.splitDecoded, Path.split] using Path.split_some _
  · obtain ⟨more, pieces⟩ := Path.below_pieces path _ atRoot (Path.below_append path rest atRoot)
    rw [← pieces]
    exact covers_append _ _ more covered

end Pattern

namespace Middleware

/-- A middleware whose scope does not end in an optional segment applies to a path exactly when the
path fits the route with the text of the scope, or the route with a wildcard behind that text. And
every middleware that applies to a path applies to all the paths below it. -/
theorem scope_as_routes (scope : String) (handler : Handler ν) :
    (Path.clean scope ≠ Path.root → (Pattern.ofText scope).ending ≠ some .optional → ∀ path,
      ((within scope handler).appliesTo (Path.splitDecoded path) = true ↔
        (Pattern.ofText (Path.clean scope)).fits (Path.splitDecoded path) = true ∨
          (Pattern.ofText (Path.clean scope ++ "/*")).fits (Path.splitDecoded path) = true)) ∧
    ∀ path rest, (within scope handler).appliesTo (Path.splitDecoded path) = true →
      (within scope handler).appliesTo (Path.splitDecoded (path ++ "/" ++ rest)) = true := by
  constructor
  · intro nested required path
    rw [within_covers scope handler nested]
    exact Pattern.covers_fits scope nested required _
  · intro path rest applies
    by_cases atRoot : Path.clean scope = Path.root
    · rw [within, if_pos atRoot]
      rfl
    · rw [within_covers scope handler atRoot] at applies ⊢
      exact Pattern.covers_below scope atRoot path rest applies

-- A wildcard inside the scope closes it, and an optional segment covers the root and all below it.
theorem wildcard_scope_as_routes :
    let guard : Handler Unit := ⟨fun request response => ⟨[], .proceed request response⟩⟩
    (Middleware.within "//a/:b?/*/c" guard).appliesTo (Path.splitDecoded "/a//d/e") = true ∧
      (Middleware.within "/:b?" guard).appliesTo (Path.splitDecoded "") = true ∧
      (Middleware.within "/:b?" guard).appliesTo (Path.splitDecoded "/a//d") = true := by
  intro guard
  have closed := (scope_as_routes "//a/:b?/*/c" guard).1 (by decide) (by decide) "/a//d/e"
  have root : (Middleware.within "/:b?" guard).appliesTo (Path.splitDecoded "") = true := by decide
  refine ⟨closed.mpr (Or.inr (by decide)), root, ?_⟩
  exact (scope_as_routes "/:b?" guard).2 "" "a//d" root

end Middleware
end HttpRouter
