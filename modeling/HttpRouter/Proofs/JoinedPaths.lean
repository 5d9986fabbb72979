import HttpRouter.Proofs.NormalForm

/-!
Paths put together. Separators around a text do not change what it splits into, and splitting undoes
joining. A path that goes on behind a separator keeps its pieces. Joining undoes splitting as well:
no piece has a separator inside but the one of the root path, and every other character of a piece
stands in the path. Main statement: `split_join_inverse`, both ways for whole texts.
-/

namespace HttpRouter.Path

/-! ### Separators around a text -/

theorem dropLeading_clear (text : List Char) (clear : text.head? ≠ some '/') :
    dropLeading text = text := by
  cases text with
  | nil => rfl
  | cons char rest =>
      have other : char ≠ '/' := fun same => clear (congrArg some same)
      rw [dropLeading, List.dropWhile_cons_of_neg]
      simpa using other

theorem dropLeading_surplus (count : Nat) (text : List Char) :
    dropLeading (List.replicate count '/' ++ text) = dropLeading text := by
  induction count with
  | zero => rfl
  | succ count ih =>
      rw [List.replicate_succ, List.cons_append, dropLeading, List.dropWhile_cons_of_pos (by rfl)]
      exact ih

theorem leading_parted (text : List Char) :
    ∃ count, text = List.replicate count '/' ++ dropLeading text := by
  induction text with
  | nil => exact ⟨0, rfl⟩
  | cons char rest ih =>
      by_cases separator : char = '/'
      · obtain ⟨count, parted⟩ := ih
        subst separator
        refine ⟨count + 1, ?_⟩
        rw [dropLeading, List.dropWhile_cons_of_pos (by rfl), List.replicate_succ, List.cons_append]
        exact congrArg (List.cons '/') parted
      · exact ⟨0, (dropLeading_clear _ (by simpa using separator)).symm⟩

theorem trailing_parted (text : List Char) :
    ∃ count, text = (dropLeading text.reverse).reverse ++ List.replicate count '/' := by
  obtain ⟨count, parted⟩ := leading_parted text.reverse
  have turned := congrArg List.reverse parted
  rw [List.reverse_reverse, List.reverse_append, List.reverse_replicate] at turned
  exact ⟨count, turned⟩

theorem trim_parted (text : List Char) :
    ∃ leading trailing,
      text = List.replicate leading '/' ++ trim text ++ List.replicate trailing '/' := by
  obtain ⟨leading, front⟩ := leading_parted text
  obtain ⟨trailing, back⟩ := trailing_parted (dropLeading text)
  refine ⟨leading, trailing, ?_⟩
  rw [trim, List.append_assoc, ← back]
  exact front

theorem trim_surrounded (text : List Char) (leading trailing : Nat) (someText : text ≠ [])
    (opens : text.head? ≠ some '/') (closes : text.getLast? ≠ some '/') :
    trim (List.replicate leading '/' ++ text ++ List.replicate trailing '/') = text := by
  have front : dropLeading (List.replicate leading '/' ++ text ++ List.replicate trailing '/') =
      text ++ List.replicate trailing '/' := by
    rw [List.append_assoc, dropLeading_surplus, dropLeading_clear]
    cases text with
    | nil => exact absurd rfl someText
    | cons char rest => exact opens
  rw [trim, front, List.reverse_append, List.reverse_replicate, dropLeading_surplus,
    dropLeading_clear _ (by rwa [List.head?_reverse]), List.reverse_reverse]

theorem trim_clean (left right : String) (same : clean left = clean right) :
    trim left.toList = trim right.toList := by
  by_cases atRoot : clean left = root
  · rw [(clean_root left).mp atRoot, (clean_root right).mp (same ▸ atRoot)]
  · rw [← nested_toList left atRoot, ← nested_toList right (same ▸ atRoot), same]

theorem clean_clean (path : String) : clean (clean path) = clean path := by
  by_cases atRoot : clean path = root
  · rw [atRoot]
    decide
  · have someText := nested_trim path atRoot
    have trimmed := trim_surrounded (trim path.toList) 0 0 someText (trim_head _) (trim_last _)
    simp only [List.replicate_zero, List.nil_append, List.append_nil] at trimmed
    rw [← String.toList_inj, clean_toList (clean path), nested_toList path atRoot, cleanChars,
      trimmed, if_neg someText]

theorem split_clean (left right : String) (same : clean left = clean right) :
    split left = split right := by
  simp only [split, splitChars, trim_clean left right same]

/-- A path is split as its normal form is. -/
theorem splitDecoded_clean (left right : String) (same : clean left = clean right) :
    splitDecoded left = splitDecoded right := by
  rw [splitDecoded, split_clean left right same, splitDecoded]

theorem splitDecoded_bare (path : String) (atRoot : clean path = root) :
    splitDecoded path = [root] := by
  rw [splitDecoded_clean path root (atRoot.trans (by decide))]
  decide

/-! ### A path that goes on -/

theorem separators_turned (count : Nat) (text : List Char) :
    List.replicate count '/' ++ '/' :: text = '/' :: (List.replicate count '/' ++ text) := by
  rw [← List.singleton_append, ← List.append_assoc, ← List.replicate_succ', List.replicate_succ,
    List.cons_append]

-- What follows a separator is trimmed at its end alone, and is gone if it is separators only.
theorem trim_continued (path rest : List Char) (somePath : trim path ≠ []) :
    trim (path ++ '/' :: rest) = trim path ∨
      ∃ more, trim (path ++ '/' :: rest) = trim path ++ '/' :: more := by
  obtain ⟨leading, between, around⟩ := trim_parted path
  obtain ⟨trailing, ended⟩ := trailing_parted rest
  have closes : (dropLeading rest.reverse).reverse.getLast? ≠ some '/' := by
    rw [List.getLast?_reverse]
    exact dropLeading_head _
  generalize (dropLeading rest.reverse).reverse = kept at ended closes
  cases kept with
  | nil =>
      left
      have whole : path ++ '/' :: rest = List.replicate leading '/' ++ trim path ++
          List.replicate (between + (trailing + 1)) '/' := by
        rw [← List.replicate_append_replicate, List.replicate_succ, ← List.append_assoc, ← around,
          ended, List.nil_append]
      rw [whole]
      exact trim_surrounded _ _ _ somePath (trim_head path) (trim_last path)
  | cons char kept =>
      right
      refine ⟨List.replicate between '/' ++ char :: kept, ?_⟩
      have whole : path ++ '/' :: rest = List.replicate leading '/' ++
          (trim path ++ '/' :: (List.replicate between '/' ++ char :: kept)) ++
            List.replicate trailing '/' := by
        calc path ++ '/' :: rest
            = (List.replicate leading '/' ++ trim path ++ List.replicate between '/') ++
                '/' :: (char :: kept ++ List.replicate trailing '/') := by rw [← around, ← ended]
          _ = List.replicate leading '/' ++ (trim path ++
                (List.replicate between '/' ++ '/' :: char :: kept)) ++
                  List.replicate trailing '/' := by simp
          _ = _ := by rw [separators_turned]
      rw [whole]
      refine trim_surrounded _ _ _ (by simp) ?_ ?_
      · have head := trim_head path
        cases trimmed : trim path with
        | nil => exact absurd trimmed somePath
        | cons first text => simpa [trimmed] using head
      · simpa [List.getLast?_append, List.getLast?_cons] using closes

theorem below_append (scope rest : String) (nested : clean scope ≠ root) :
    Below scope (scope ++ "/" ++ rest) := by
  have someScope := nested_trim scope nested
  have chars : (scope ++ "/" ++ rest).toList = scope.toList ++ '/' :: rest.toList := by simp
  rcases trim_continued scope.toList rest.toList someScope with same | ⟨more, continued⟩
  · left
    simp only [clean, cleanChars, chars, same]
  · right
    refine ⟨String.ofList more, ?_⟩
    have someChar : trim scope.toList ++ '/' :: more ≠ [] := by simp
    rw [← String.toList_inj, clean_toList, chars, cleanChars, continued, if_neg someChar]
    simp [clean_toList, cleanChars, someScope]

theorem below_pieces (scope path : String) (nested : clean scope ≠ root)
    (below : Below scope path) : splitDecoded scope <+: splitDecoded path :=
  ((below_split scope path nested below).map String.ofList).map Percent.decode

/-! ### Joined chunks -/

theorem join_append (front back : List (List Char)) (someFront : front ≠ [])
    (someBack : back ≠ []) :
    ['/'].intercalate (front ++ back) =
      ['/'].intercalate front ++ '/' :: ['/'].intercalate back := by
  induction front with
  | nil => exact absurd rfl someFront
  | cons chunk rest ih =>
      cases rest with
      | nil => simp [List.intercalate_cons_of_ne_nil someBack]
      | cons next rest =>
          have tail := ih (by simp)
          simp only [List.cons_append, List.intercalate_cons_cons] at tail ⊢
          simp [tail]

theorem join_head (chunks : List (List Char)) (chunk : List Char)
    (first : chunks.head? = some chunk) (someChunk : chunk ≠ []) :
    (['/'].intercalate chunks).head? = chunk.head? := by
  obtain ⟨rest, rfl⟩ := List.head?_eq_some_iff.mp first
  obtain ⟨char, text, rfl⟩ := List.exists_cons_of_ne_nil someChunk
  rw [List.intercalate_cons_cons_left]
  rfl

theorem join_last (chunks : List (List Char)) (chunk : List Char)
    (last : chunks.getLast? = some chunk) (someChunk : chunk ≠ []) :
    (['/'].intercalate chunks).getLast? = chunk.getLast? := by
  obtain ⟨front, rfl⟩ := List.getLast?_eq_some_iff.mp last
  by_cases alone : front = []
  · rw [alone, List.nil_append, List.intercalate_singleton]
  · rw [join_append front [chunk] alone (by simp), List.intercalate_singleton,
      List.getLast?_append, List.getLast?_cons_of_ne_nil someChunk]
    cases closing : chunk.getLast? with
    | none => exact absurd (List.getLast?_eq_none_iff.mp closing) someChunk
    | some char => rfl

theorem join_trailing (chunks : List (List Char)) (count : Nat) (someChunk : chunks ≠ []) :
    ['/'].intercalate (chunks ++ List.replicate count []) =
      ['/'].intercalate chunks ++ List.replicate count '/' := by
  induction count with
  | zero => simp
  | succ count ih =>
      rw [List.replicate_succ', ← List.append_assoc,
        join_append _ [[]] (by simp [someChunk]) (by simp), ih, List.replicate_succ']
      simp

/-- Splitting undoes joining, whatever separators stand around the whole. -/
theorem split_joined (chunks : List (List Char)) (leading trailing : Nat)
    (someChunk : chunks ≠ []) (clear : ∀ chunk ∈ chunks, '/' ∉ chunk)
    (first : chunks.head? ≠ some []) (last : chunks.getLast? ≠ some []) :
    splitChars (List.replicate leading '/' ++ ['/'].intercalate chunks ++
      List.replicate trailing '/') = chunks := by
  obtain ⟨opening, opens⟩ := Option.ne_none_iff_exists'.mp
    (fun none => someChunk (List.head?_eq_none_iff.mp none))
  obtain ⟨closing, closes⟩ := Option.ne_none_iff_exists'.mp
    (fun none => someChunk (List.getLast?_eq_none_iff.mp none))
  have someOpening : opening ≠ [] := fun bare => first (bare ▸ opens)
  have someClosing : closing ≠ [] := fun bare => last (bare ▸ closes)
  have head := join_head chunks opening opens someOpening
  have final := join_last chunks closing closes someClosing
  have headClear : (['/'].intercalate chunks).head? ≠ some '/' := by
    rw [head]
    exact fun separator => clear opening (List.mem_of_head? opens) (List.mem_of_head? separator)
  have finalClear : (['/'].intercalate chunks).getLast? ≠ some '/' := by
    rw [final]
    exact fun separator =>
      clear closing (List.mem_of_getLast? closes) (List.mem_of_getLast? separator)
  have someText : ['/'].intercalate chunks ≠ [] := by
    intro bare
    rw [bare] at head
    exact someOpening (List.head?_eq_none_iff.mp head.symm)
  rw [splitChars, trim_surrounded _ leading trailing someText headClear finalClear,
    if_neg someText]
  exact List.splitOn_intercalate '/' clear someChunk

/-! ### The pieces at the ends of a path -/

theorem split_some (path : List Char) : splitChars path ≠ [] := by
  by_cases bare : trim path = []
  · simp [splitChars, bare]
  · rw [splitChars, if_neg bare]
    exact List.splitOn_ne_nil _ _

theorem split_first (path : List Char) : (splitChars path).head? ≠ some [] := by
  by_cases bare : trim path = []
  · simp [splitChars, bare]
  · intro gap
    rw [splitChars, if_neg bare] at gap
    obtain ⟨rest, parted⟩ := List.head?_eq_some_iff.mp gap
    have joined : ['/'].intercalate ((trim path).splitOn '/') = trim path :=
      List.intercalate_splitOn '/'
    rw [parted] at joined
    cases rest with
    | nil => exact bare joined.symm
    | cons next rest =>
        rw [List.intercalate_cons_cons] at joined
        exact trim_head path (joined ▸ rfl)

theorem split_last (path : List Char) : (splitChars path).getLast? ≠ some [] := by
  by_cases bare : trim path = []
  · simp [splitChars, bare]
  · intro gap
    rw [splitChars, if_neg bare] at gap
    obtain ⟨front, parted⟩ := List.getLast?_eq_some_iff.mp gap
    have joined : ['/'].intercalate ((trim path).splitOn '/') = trim path :=
      List.intercalate_splitOn '/'
    rw [parted] at joined
    by_cases alone : front = []
    · rw [alone] at joined
      exact bare joined.symm
    · rw [join_append front [[]] alone (by simp)] at joined
      exact trim_last path (joined ▸ by simp)

/-! ### Separators inside the pieces -/

theorem trim_bare (path : List Char) : trim path = [] ↔ ∀ char ∈ path, char = '/' := by
  constructor
  · intro bare
    obtain ⟨leading, trailing, around⟩ := trim_parted path
    rw [bare, List.append_nil, List.replicate_append_replicate] at around
    intro char member
    rw [around] at member
    exact List.eq_of_mem_replicate member
  · intro separators
    have nothing : dropLeading path = [] := by
      have surplus := dropLeading_surplus path.length []
      rwa [List.append_nil, ← List.eq_replicate_of_mem separators] at surplus
    rw [trim, nothing]
    rfl

theorem chunk_clear (text chunk : List Char) (member : chunk ∈ text.splitOn '/') :
    '/' ∉ chunk := by
  induction text generalizing chunk with
  | nil =>
      rw [List.splitOn_nil, List.mem_singleton] at member
      simp [member]
  | cons char rest ih =>
      rw [List.splitOn_cons_eq_if_modifyHead] at member
      by_cases separator : char = '/'
      · rw [if_pos (beq_iff_eq.mpr separator)] at member
        rcases List.mem_cons.mp member with rfl | tail
        · exact List.not_mem_nil
        · exact ih chunk tail
      · rw [if_neg (by simpa using separator)] at member
        cases chunks : rest.splitOn '/' with
        | nil => exact absurd chunks (List.splitOn_ne_nil _ _)
        | cons first others =>
            rw [chunks] at ih member
            rcases List.mem_cons.mp member with rfl | tail
            · rw [List.mem_cons, not_or]
              exact ⟨Ne.symm separator, ih first List.mem_cons_self⟩
            · exact ih chunk (List.mem_cons_of_mem first tail)

theorem split_clear (path : String) (nested : clean path ≠ root) (chunk : List Char)
    (member : chunk ∈ splitChars path.toList) : '/' ∉ chunk := by
  rw [splitChars, if_neg (nested_trim path nested)] at member
  exact chunk_clear _ chunk member

theorem join_split (path : List Char) : ['/'].intercalate (splitChars path) = cleanChars path := by
  by_cases bare : trim path = []
  · rw [splitChars, cleanChars, if_pos bare, if_pos bare, List.intercalate_singleton]
  · rw [splitChars, cleanChars, if_neg bare, if_neg bare]
    exact List.intercalate_splitOn '/'

theorem clean_split (left right : String) (same : split left = split right) :
    clean left = clean right := by
  have chunks : splitChars left.toList = splitChars right.toList :=
    (List.map_inj_right fun _ _ => String.ofList_inj.mp).mp same
  rw [clean, clean, ← join_split, ← join_split, chunks]

/-- Only the root path has the separator for a piece. -/
theorem split_separator (path : String) :
    root ∈ split path ↔ ∀ char ∈ path.toList, char = '/' := by
  rw [← trim_bare, split, splitChars]
  by_cases bare : trim path.toList = []
  · simp [bare, root]
  · rw [if_neg bare]
    constructor
    · intro member
      obtain ⟨chunk, inside, same⟩ := List.mem_map.mp member
      have chars : chunk = ['/'] := by simpa [root] using congrArg String.toList same
      exact absurd (chars ▸ List.mem_singleton_self '/') (chunk_clear _ chunk inside)
    · intro nothing
      exact absurd nothing bare

theorem split_lone (path piece : String) (lone : split path = [piece]) : clean path = piece := by
  obtain ⟨chunk, chunks, rfl⟩ := List.map_eq_singleton_iff.mp lone
  have joined := join_split path.toList
  rw [chunks, List.intercalate_singleton] at joined
  rw [clean, ← joined]

theorem split_continued (path piece : String) (nested : clean path ≠ root) (someText : piece ≠ "")
    (clear : '/' ∉ piece.toList) : split (clean path ++ "/" ++ piece) = split path ++ [piece] := by
  let chunks := splitChars path.toList ++ [piece.toList]
  have chars : (clean path ++ "/" ++ piece).toList =
      List.replicate 0 '/' ++ ['/'].intercalate chunks ++ List.replicate 0 '/' := by
    rw [join_append _ _ (split_some _) (by simp), join_split]
    simp [clean_toList]
  have first : chunks.head? ≠ some [] := by
    have opens := split_first path.toList
    cases parted : splitChars path.toList with
    | nil => exact absurd parted (split_some _)
    | cons opening rest => simpa [chunks, parted] using opens
  have splits := split_joined chunks 0 0 (by simp [chunks])
    (by
      intro chunk member
      rcases List.mem_append.mp member with front | back
      · exact split_clear path nested chunk front
      · rw [List.mem_singleton.mp back]
        exact clear)
    first (by simpa [chunks] using someText)
  rw [split, chars, splits, List.map_append]
  simp [split]

/-! ### What the pieces are made of -/

theorem chunk_joined (chunks : List (List Char)) (chunk : List Char) (member : chunk ∈ chunks) :
    chunk ⊆ ['/'].intercalate chunks := by
  obtain ⟨position, bound, rfl⟩ := List.getElem_of_mem member
  intro char inside
  rw [List.getElem_eq_getElem_intersperse_two_mul] at inside
  exact List.mem_flatten_of_mem (List.getElem_mem _) inside

theorem clean_chars (path : String) (char : Char) (member : char ∈ (clean path).toList) :
    char ∈ path.toList ∨ char = '/' := by
  rw [clean_toList, cleanChars] at member
  split at member
  · exact Or.inr (List.mem_singleton.mp member)
  · obtain ⟨leading, trailing, around⟩ := trim_parted path.toList
    left
    rw [around]
    exact List.mem_append_left _ (List.mem_append_right _ member)

theorem splitDecoded_unsigned (path : String) (unsigned : '%' ∉ path.toList) :
    splitDecoded path = split path := by
  refine (List.map_congr_left ?_).trans (List.map_id (split path))
  intro piece member
  apply Percent.decode_unsigned
  intro sign
  obtain ⟨chunk, inside, rfl⟩ := List.mem_map.mp member
  have kept := chunk_joined _ chunk inside (String.toList_ofList ▸ sign)
  rw [join_split, ← clean_toList] at kept
  rcases clean_chars path '%' kept with written | separator
  · exact unsigned written
  · exact absurd separator (by decide)

-- Separators at the ends of a text only add empty tokens to it.
theorem chunk_surrounded (text chunk : List Char) (leading trailing : Nat)
    (member : chunk ∈ text.splitOn '/') :
    chunk ∈ (List.replicate leading '/' ++ text ++ List.replicate trailing '/').splitOn '/' := by
  induction leading with
  | zero =>
      rw [List.replicate_zero, List.nil_append]
      cases trailing with
      | zero => simpa using member
      | succ trailing =>
          rw [List.replicate_succ, List.splitOn_append_cons_self]
          exact List.mem_append_left _ member
  | succ leading ih =>
      rw [List.replicate_succ, List.cons_append, List.cons_append,
        List.splitOn_cons_eq_if_modifyHead, if_pos (by rfl)]
      exact List.mem_cons_of_mem [] ih

theorem split_listed (path piece : String) (member : piece ∈ split path) :
    piece = root ∨ piece.toList ∈ path.toList.splitOn '/' := by
  obtain ⟨chunk, inside, rfl⟩ := List.mem_map.mp member
  rw [splitChars] at inside
  split at inside
  · left
    rw [List.mem_singleton.mp inside]
    rfl
  · right
    obtain ⟨leading, trailing, around⟩ := trim_parted path.toList
    rw [String.toList_ofList, around]
    exact chunk_surrounded _ chunk leading trailing inside

/-! ### Pieces and normal forms as texts -/

theorem join_pieces (path : String) : "/".intercalate (split path) = clean path := by
  have chars : String.toList ∘ String.ofList = id := funext fun _ => String.toList_ofList
  rw [← String.toList_inj, String.toList_intercalate, clean_toList, ← join_split, split,
    List.map_map, chars, List.map_id]
  rfl

theorem pieces_clear (path : String) :
    split path = [root] ∨ ∀ piece ∈ split path, '/' ∉ piece.toList := by
  by_cases atRoot : clean path = root
  · left
    rw [split_clean path root (atRoot.trans (by decide))]
    decide
  · right
    intro piece member
    obtain ⟨chunk, inside, rfl⟩ := List.mem_map.mp member
    rw [String.toList_ofList]
    exact split_clear path atRoot chunk inside

theorem pieces_ends (path : String) :
    split path ≠ [] ∧ (split path).head? ≠ some "" ∧ (split path).getLast? ≠ some "" := by
  have someText (chunk : Option (List Char)) (kept : chunk ≠ some []) :
      chunk.map String.ofList ≠ some "" :=
    (Option.map_injective fun _ _ => String.ofList_injective).ne kept
  rw [split, List.head?_map, List.getLast?_map]
  refine ⟨?_, someText _ (split_first _), someText _ (split_last _)⟩
  simpa using split_some path.toList

theorem split_written (pieces : List String) (leading trailing : Nat) (somePiece : pieces ≠ [])
    (clear : ∀ piece ∈ pieces, '/' ∉ piece.toList) (first : pieces.head? ≠ some "")
    (last : pieces.getLast? ≠ some "") :
    split (String.ofList (List.replicate leading '/') ++ "/".intercalate pieces ++
      String.ofList (List.replicate trailing '/')) = pieces := by
  have someChunk (piece : Option String) (kept : piece ≠ some "") :
      piece.map String.toList ≠ some [] :=
    (Option.map_injective fun _ _ => String.toList_injective).ne kept
  have splits := split_joined (pieces.map String.toList) leading trailing (by simpa using somePiece)
    (by simpa using clear) (by rw [List.head?_map]; exact someChunk _ first)
    (by rw [List.getLast?_map]; exact someChunk _ last)
  have texts : String.ofList ∘ String.toList = id := funext fun _ => String.ofList_toList
  rw [split, String.toList_append, String.toList_append, String.toList_ofList,
    String.toList_ofList, String.toList_intercalate]
  change (splitChars (List.replicate leading '/' ++ ['/'].intercalate (pieces.map String.toList) ++
    List.replicate trailing '/')).map String.ofList = pieces
  rw [splits, List.map_map, texts, List.map_id]

/-- The pieces of a path joined are its normal form, which is its own normal form and has the same
pieces. There is a first and a last piece, neither is empty, and no piece has a separator inside but
the lone one of the root path. Any pieces of that kind are got back from the text that joins them,
with whatever separators stand around it. -/
theorem split_join_inverse :
    (∀ path : String,
      "/".intercalate (split path) = clean path ∧
      clean (clean path) = clean path ∧ split (clean path) = split path ∧
      split path ≠ [] ∧
      (split path = ["/"] ∨ ∀ piece ∈ split path, '/' ∉ piece.toList) ∧
      (split path).head? ≠ some "" ∧ (split path).getLast? ≠ some "") ∧
    ∀ pieces : List String, pieces ≠ [] → (∀ piece ∈ pieces, '/' ∉ piece.toList) →
      pieces.head? ≠ some "" → pieces.getLast? ≠ some "" → ∀ leading trailing,
        split (String.ofList (List.replicate leading '/') ++ "/".intercalate pieces ++
          String.ofList (List.replicate trailing '/')) = pieces := by
  constructor
  · intro path
    obtain ⟨somePiece, first, last⟩ := pieces_ends path
    exact ⟨join_pieces path, clean_clean path, split_clean _ path (clean_clean path), somePiece,
      pieces_clear path, first, last⟩
  · intro pieces somePiece clear first last leading trailing
    exact split_written pieces leading trailing somePiece clear first last

-- The gap inside stays a piece, and the separators around the text leave nothing.
theorem inner_gap_kept :
    split "//a//é:///" = ["a", "", "é:"] ∧ clean "//a//é:///" = "a//é:" := by
  have splits := split_join_inverse.2 ["a", "", "é:"] (by decide) (by decide) (by decide)
    (by decide) 2 3
  have written : String.ofList (List.replicate 2 '/') ++ "/".intercalate ["a", "", "é:"] ++
      String.ofList (List.replicate 3 '/') = "//a//é:///" := by decide
  rw [written] at splits
  refine ⟨splits, ?_⟩
  rw [← (split_join_inverse.1 "//a//é:///").1, splits]
  decide

end HttpRouter.Path
