import HttpRouter.Pattern

/-!
The normal form of a path text. Trimming leaves no separator at either end. The root is what is
left of the texts made of separators alone. A text that continues another one behind a separator
splits into the pieces of the other and into more.
-/

namespace HttpRouter.Path

theorem dropLeading_head (path : List Char) : (dropLeading path).head? ≠ some '/' := by
  have stopped := List.head?_dropWhile_not (· == '/') path
  intro separator
  rw [dropLeading] at separator
  simp [separator] at stopped

theorem trim_last (path : List Char) : (trim path).getLast? ≠ some '/' := by
  rw [trim, List.getLast?_reverse]
  exact dropLeading_head _

-- What the second pass keeps ends, reversed, with the character that the first pass stopped at.
theorem trim_head (path : List Char) : (trim path).head? ≠ some '/' := by
  rw [trim, List.head?_reverse]
  obtain ⟨dropped, kept⟩ : dropLeading (dropLeading path).reverse <:+ (dropLeading path).reverse :=
    List.dropWhile_suffix _
  cases ended : (dropLeading (dropLeading path).reverse).getLast? with
  | none => simp
  | some last =>
      have first : (dropLeading path).head? = some last := by
        rw [← List.getLast?_reverse, ← kept, List.getLast?_append, ended]
        rfl
      rw [← first]
      exact dropLeading_head path

theorem clean_toList (path : String) : (clean path).toList = cleanChars path.toList := by
  simp [clean]

theorem clean_root (path : String) : clean path = root ↔ trim path.toList = [] := by
  rw [← String.toList_inj, clean_toList, cleanChars]
  by_cases bare : trim path.toList = []
  · simp [bare, root]
  · rw [if_neg bare]
    constructor
    · intro separator
      have head := trim_head path.toList
      rw [separator] at head
      exact absurd rfl head
    · intro trimmed
      exact absurd trimmed bare

theorem nested_trim (path : String) (nested : clean path ≠ root) : trim path.toList ≠ [] :=
  fun bare => nested ((clean_root path).mpr bare)

theorem nested_toList (path : String) (nested : clean path ≠ root) :
    (clean path).toList = trim path.toList := by
  rw [clean_toList, cleanChars, if_neg (nested_trim path nested)]

/-- A text at or below another: the same one in normal form, or one that continues it behind a
separator. -/
def Below (scope path : String) : Prop :=
  clean path = clean scope ∨ ∃ rest, clean path = clean scope ++ "/" ++ rest

theorem below_trim (scope path : String) (nested : clean scope ≠ root) (below : Below scope path) :
    trim path.toList = trim scope.toList ∨
      ∃ rest, trim path.toList = trim scope.toList ++ '/' :: rest := by
  rcases below with same | ⟨rest, continued⟩
  · left
    rw [← nested_toList path (same ▸ nested), ← nested_toList scope nested, same]
  · right
    have chars := congrArg String.toList continued
    simp only [String.toList_append, nested_toList scope nested] at chars
    have nestedPath : clean path ≠ root := by
      intro atRoot
      have short := congrArg List.length chars
      have long := List.length_pos_iff.mpr (nested_trim scope nested)
      simp [atRoot, root] at short
      omega
    rw [nested_toList path nestedPath] at chars
    exact ⟨rest.toList, by simpa using chars⟩

theorem below_split (scope path : String) (nested : clean scope ≠ root) (below : Below scope path) :
    splitChars scope.toList <+: splitChars path.toList := by
  have someScope := nested_trim scope nested
  rcases below_trim scope path nested below with same | ⟨rest, continued⟩
  · simp [splitChars, same]
  · have somePath : trim path.toList ≠ [] := by simp [continued]
    rw [splitChars, splitChars, if_neg someScope, if_neg somePath, continued,
      List.splitOn_append_cons_self]
    exact List.prefix_append _ _

end HttpRouter.Path
