import HttpRouter.Proofs.Decision
import HttpRouter.Proofs.JoinedPaths
import Mathlib.Data.List.Forall2

/-!
Spellings of a path. The same pieces can be written with any number of separators around them, and
with each character as itself or as its escaped bytes. All these texts split into the pieces they
were written for. Main statement: `spelling_unread`, no router tells two spellings apart.
-/

namespace HttpRouter
variable {ν : Type}

namespace Path

/-- A path that is written for some pieces. -/
inductive Spells (pieces : List String) : String → Prop where
  | around (leading trailing : Nat) (chunks : List (List Char))
      (spelled : List.Forall₂ (fun piece chunk => Percent.Spells piece.toList chunk) pieces chunks) :
      Spells pieces (String.ofList (List.replicate leading '/' ++ ['/'].intercalate chunks ++
        List.replicate trailing '/'))

theorem decode_chunks (pieces : List String) (chunks : List (List Char))
    (spelled : List.Forall₂ (fun piece chunk => Percent.Spells piece.toList chunk) pieces chunks) :
    chunks.map (fun chunk => Percent.decode (String.ofList chunk)) = pieces := by
  induction spelled with
  | nil => rfl
  | cons first _ ih =>
      rw [List.map_cons, ih, Percent.decode_spelled _ _ first, String.ofList_toList]

theorem chunks_clear (pieces : List String) (chunks : List (List Char))
    (spelled : List.Forall₂ (fun piece chunk => Percent.Spells piece.toList chunk) pieces chunks) :
    ∀ chunk ∈ chunks, '/' ∉ chunk := by
  induction spelled with
  | nil => intro chunk member; cases member
  | cons first _ ih =>
      intro chunk member
      rcases List.mem_cons.mp member with rfl | later
      · exact Percent.spelled_clear _ _ first
      · exact ih chunk later

theorem splitDecoded_spelled (pieces : List String) (path : String) (somePiece : pieces ≠ [])
    (first : pieces.head? ≠ some "") (last : pieces.getLast? ≠ some "")
    (spells : Spells pieces path) : splitDecoded path = pieces := by
  cases spells with
  | around leading trailing chunks spelled =>
      have read := decode_chunks pieces chunks spelled
      have splits : splitChars (List.replicate leading '/' ++ ['/'].intercalate chunks ++
          List.replicate trailing '/') = chunks := by
        apply split_joined chunks leading trailing
        · rintro rfl
          exact somePiece read.symm
        · exact chunks_clear pieces chunks spelled
        · intro gap
          apply first
          rw [← read, List.head?_map, gap]
          rfl
        · intro gap
          apply last
          rw [← read, List.getLast?_map, gap]
          rfl
      rw [splitDecoded, split, String.toList_ofList, splits, List.map_map]
      exact read

theorem splitDecoded_written (texts : List String) (gaps : Nat) (someText : texts ≠ [])
    (first : texts.head? ≠ some "") (last : texts.getLast? ≠ some "") :
    splitDecoded ("/".intercalate (texts.map Percent.encode ++ List.replicate gaps "")) =
      texts := by
  let chunks := texts.map fun text => Percent.encodeChars text.toList
  have spelled :
      List.Forall₂ (fun piece chunk => Percent.Spells piece.toList chunk) texts chunks :=
    List.forall₂_map_right_iff.mpr
      (List.forall₂_same.mpr fun text _ => Percent.encodeChars_spells text.toList)
  have read : (texts.map Percent.encode).map String.toList = chunks := by
    simp [chunks, Percent.encode]
  have chars : "/".intercalate (texts.map Percent.encode ++ List.replicate gaps "") =
      String.ofList (List.replicate 0 '/' ++ ['/'].intercalate chunks ++
        List.replicate gaps '/') := by
    rw [← String.toList_inj, String.toList_intercalate, List.map_append, read,
      List.map_replicate]
    exact (join_trailing chunks gaps (by simpa [chunks] using someText)).trans
      String.toList_ofList.symm
  rw [chars]
  exact splitDecoded_spelled texts _ someText first last (.around 0 gaps chunks spelled)

end Path

namespace Router

theorem find_respelled (router : Router ν) (method : Method) (left right : String)
    (same : Path.splitDecoded left = Path.splitDecoded right) :
    (∀ found, router.find method left = .ok found ↔ router.find method right = .ok found) ∧
    ∀ count, router.find method left = .error (.ambiguousRoute method left count) ↔
      router.find method right = .error (.ambiguousRoute method right count) := by
  rw [find_candidates, find_candidates, same]
  cases (router.table.lookup method).filter fun route =>
      route.pattern.fits (Path.splitDecoded right) with
  | nil => simp [verdict]
  | cons route rest =>
      cases rest with
      | nil => simp [verdict, same]
      | cons next rest => simp [verdict]

/-- All spellings of some pieces are one path. They split into these pieces, and no router tells
them apart: for every method it finds the same route with the same captured values, or counts the
same number of routes, the same scoped middleware applies, and the dispatch of a request with one
spelling runs the chain that another spelling decides on. -/
theorem spelling_unread (pieces : List String) (somePiece : pieces ≠ [])
    (first : pieces.head? ≠ some "") (last : pieces.getLast? ≠ some "") :
    (∀ path, Path.Spells pieces path → Path.splitDecoded path = pieces) ∧
    ∀ left right, Path.Spells pieces left → Path.Spells pieces right → ∀ router : Router ν,
      (∀ method,
        (∀ found, router.find method left = .ok found ↔ router.find method right = .ok found) ∧
        ∀ count, router.find method left = .error (.ambiguousRoute method left count) ↔
          router.find method right = .error (.ambiguousRoute method right count)) ∧
      router.applicable (Path.splitDecoded left) = router.applicable (Path.splitDecoded right) ∧
      ∀ request : Request, request.uri.path = right →
        ∀ found, router.find request.method left = .ok (some found) →
          Threaded (router.chain (Path.splitDecoded left) found.route)
            (ready request found.params) .blank (router.dispatch request).calls := by
  have splits : ∀ path, Path.Spells pieces path → Path.splitDecoded path = pieces :=
    fun path spells => Path.splitDecoded_spelled pieces path somePiece first last spells
  refine ⟨splits, ?_⟩
  intro left right leftSpells rightSpells router
  have same : Path.splitDecoded left = Path.splitDecoded right :=
    (splits left leftSpells).trans (splits right rightSpells).symm
  refine ⟨fun method => find_respelled router method left right same, by rw [same], ?_⟩
  rintro request rfl found decided
  have finds := ((find_respelled router request.method left request.uri.path same).1 _).mp decided
  have dispatched := dispatch_find router request
  simp only [finds] at dispatched
  rw [dispatched, same]
  exact matchedRun_threaded router request found

-- A character beyond ASCII, escaped or not, and a separator that can only be escaped.
theorem respelled_scope_applies :
    let guard : Handler Unit := ⟨fun request response => ⟨[], .proceed request response⟩⟩
    let router : Router Unit := ⟨.empty, [], [.within "/é" guard], .fallback⟩
    Path.Spells ["é", "/"] "//%c3%A9/%2F" ∧ Path.Spells ["é", "/"] "é/%2f/" ∧
      Path.splitDecoded "//%c3%A9/%2F" = ["é", "/"] ∧
      (router.applicable (Path.splitDecoded "//%c3%A9/%2F")).length = 1 := by
  intro guard router
  have separator (low : Char) (hex : Percent.HexDigit low 15) :
      Percent.Spells ['/'] ['%', '2', low] :=
    .escaped '/' (.cons 0x2F '2' low (by decide) hex .nil) .nil
  have letter : Percent.Escapes (String.utf8EncodeChar 'é') ['%', 'c', '3', '%', 'A', '9'] :=
    .cons 0xC3 'c' '3' (by decide) (by decide) (.cons 0xA9 'A' '9' (by decide) (by decide) .nil)
  have left : Path.Spells ["é", "/"] "//%c3%A9/%2F" :=
    .around 2 0 [['%', 'c', '3', '%', 'A', '9'], ['%', '2', 'F']]
      (.cons (.escaped 'é' letter .nil) (.cons (separator 'F' (by decide)) .nil))
  have right : Path.Spells ["é", "/"] "é/%2f/" :=
    .around 0 1 [['é'], ['%', '2', 'f']]
      (.cons (.itself 'é' (by decide) (by decide) .nil) (.cons (separator 'f' (by decide)) .nil))
  obtain ⟨splits, unread⟩ :=
    @spelling_unread Unit ["é", "/"] (by decide) (by decide) (by decide)
  obtain ⟨_, applicable, _⟩ := unread _ _ left right router
  refine ⟨left, right, splits _ left, ?_⟩
  rw [applicable]
  decide

end Router
end HttpRouter
