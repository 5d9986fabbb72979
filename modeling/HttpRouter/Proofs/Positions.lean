import HttpRouter.Pattern
import HttpRouter.Proofs.NamedValues

/-!
Patterns position by position. A path fits when its length is allowed and every segment that meets
a piece accepts it. What is collected for a name is what the last position that gives the name a
value met: an empty slot further on takes nothing back.
-/

namespace HttpRouter

theorem Path.placeholder_iff (piece : String) :
    isPlaceholder piece = true ↔ piece = "" ∨ piece = "/" := by
  simp [isPlaceholder, root]

theorem Segment.captures_iff (segment : Segment) :
    segment.captures = true ↔ segment.kind ≠ .static := by
  simp [captures]

namespace Pattern

/-! ### The tests -/

theorem acceptsLength_iff (pattern : Pattern) (count : Nat) :
    pattern.acceptsLength count = true ↔
      count = pattern.segments.length ∨
        (pattern.segments.length < count ∧ pattern.ending = some .wildcard) ∨
        (count < pattern.segments.length ∧ pattern.ending = some .optional) := by
  unfold acceptsLength
  split
  · next same => simp [same]
  · next other =>
      split
      · next longer =>
          have notShorter : ¬ count < pattern.segments.length := by omega
          simp [other, longer, notShorter]
      · next notLonger =>
          have shorter : count < pattern.segments.length := by omega
          simp [other, notLonger, shorter]

theorem acceptsPieces_iff (pattern : Pattern) (pieces : List String) :
    pattern.acceptsPieces pieces = true ↔
      ∀ (position : Nat) (segment : Segment) (piece : String),
        pattern.segments[position]? = some segment → pieces[position]? = some piece →
          segment.accepts piece = true := by
  rw [acceptsPieces, List.all_eq_true]
  constructor
  · intro accepted position segment piece listed met
    have slot : (pattern.segments.zip pieces)[position]? = some (segment, piece) :=
      List.getElem?_zip_eq_some.mpr ⟨listed, met⟩
    exact accepted _ (List.mem_of_getElem? slot)
  · intro accepted slot member
    obtain ⟨position, found⟩ := List.mem_iff_getElem?.mp member
    obtain ⟨listed, met⟩ := List.getElem?_zip_eq_some.mp found
    exact accepted position slot.1 slot.2 listed met

theorem fits_iff (pattern : Pattern) (pieces : List String) :
    pattern.fits pieces = true ↔
      pattern.acceptsLength pieces.length = true ∧ pattern.acceptsPieces pieces = true := by
  rw [fits, Bool.and_eq_true]

theorem fits_length (pattern : Pattern) (pieces : List String)
    (closed : pattern.ending ≠ some .optional) (fits : pattern.fits pieces = true) :
    pattern.segments.length ≤ pieces.length := by
  have length := (pattern.acceptsLength_iff _).mp ((pattern.fits_iff pieces).mp fits).1
  rcases length with same | ⟨longer, _⟩ | ⟨_, optional⟩
  · exact Nat.le_of_eq same.symm
  · exact Nat.le_of_lt longer
  · exact absurd optional closed

/-! ### What is collected -/

/-- A position that gives a name a value: its segment has the name, and its piece is more than an
empty slot. -/
structure Fills (pattern : Pattern) (pieces : List String) (name : String) (position : Nat)
    (value : String) : Prop where
  named : ∃ segment, pattern.segments[position]? = some segment ∧ segment.kind ≠ .static ∧
    segment.value = name
  met : pieces[position]? = some value
  someText : value ≠ ""
  noGap : value ≠ "/"

def given (name : String) (slot : Segment × String) : Option String :=
  if slot.1.captures = true ∧ slot.1.value = name ∧ Path.isPlaceholder slot.2 = false then
    some slot.2
  else none

theorem get?_capture (params : Params) (slot : Segment × String) (name : String) :
    (capture params slot).get? name = (given name slot).or (params.get? name) := by
  unfold capture given
  cases gap : Path.isPlaceholder slot.2 with
  | true => simp
  | false =>
      by_cases captures : slot.1.captures = true
      · by_cases same : slot.1.value = name <;> simp [captures, same, Params.get?_set]
      · simp [captures]

-- Whatever was collected before, each slot is written over the ones in front of it.
theorem get?_collect (slots : List (Segment × String)) (start : Params) (name : String) :
    (slots.foldl capture start).get? name =
      (slots.filterMap (given name)).getLast?.or (start.get? name) :=
  foldl_last capture (fun params => params.get? name) (given name)
    (fun params slot => get?_capture params slot name) slots start

theorem given_some (name value : String) (slot : Segment × String) :
    given name slot = some value ↔
      slot.1.kind ≠ .static ∧ slot.1.value = name ∧ slot.2 = value ∧ value ≠ "" ∧ value ≠ "/" := by
  have filled : Path.isPlaceholder slot.2 = false ↔ slot.2 ≠ "" ∧ slot.2 ≠ "/" := by
    rw [← Bool.not_eq_true, Path.placeholder_iff, not_or]
  rw [given, Option.ite_none_right_eq_some, Segment.captures_iff, filled]
  constructor
  · rintro ⟨⟨named, same, someText, noGap⟩, found⟩
    cases found
    exact ⟨named, same, rfl, someText, noGap⟩
  · rintro ⟨named, same, rfl, someText, noGap⟩
    exact ⟨⟨named, same, someText, noGap⟩, rfl⟩

theorem fills_slot (pattern : Pattern) (pieces : List String) (name : String) (position : Nat)
    (value : String) :
    pattern.Fills pieces name position value ↔
      ∃ slot, (pattern.segments.zip pieces)[position]? = some slot ∧
        given name slot = some value := by
  constructor
  · rintro ⟨⟨segment, listed, named, same⟩, met, someText, noGap⟩
    exact ⟨(segment, value), List.getElem?_zip_eq_some.mpr ⟨listed, met⟩,
      (given_some name value _).mpr ⟨named, same, rfl, someText, noGap⟩⟩
  · rintro ⟨⟨segment, piece⟩, found, gives⟩
    obtain ⟨listed, met⟩ := List.getElem?_zip_eq_some.mp found
    obtain ⟨named, same, rfl, someText, noGap⟩ := (given_some name value _).mp gives
    exact ⟨⟨segment, listed, named, same⟩, met, someText, noGap⟩

/-- The last of some readings, by its position. -/
theorem last_reading_iff {α β : Type} (reads : α → Option β) (items : List α) (value : β) :
    (items.filterMap reads).getLast? = some value ↔
      ∃ (position : Nat) (item : α), items[position]? = some item ∧ reads item = some value ∧
        ∀ (later : Nat) (other : α), position < later → items[later]? = some other →
          reads other = none := by
  rw [List.getLast?_filterMap, List.findSome?_eq_some_iff]
  constructor
  · rintro ⟨after, item, before, turned, gives, silent⟩
    have parted : items = before.reverse ++ item :: after.reverse := by
      rw [← List.reverse_reverse items, turned]
      simp
    refine ⟨before.length, item, by simp [parted], gives, ?_⟩
    intro later other behind found
    have beyond : items.drop (before.length + 1) = after.reverse := by
      rw [parted, ← List.length_reverse, ← List.drop_drop, List.drop_left]
      rfl
    apply silent other
    rw [← List.mem_reverse, ← beyond, List.mem_iff_getElem?]
    exact ⟨later - (before.length + 1), by rw [List.getElem?_drop, Nat.add_sub_of_le behind, found]⟩
  · rintro ⟨position, item, found, gives, silent⟩
    obtain ⟨bound, rfl⟩ := List.getElem?_eq_some_iff.mp found
    refine ⟨(items.drop (position + 1)).reverse, _, (items.take position).reverse, ?_, gives, ?_⟩
    · calc items.reverse
          = (items.take position ++ items[position] :: items.drop (position + 1)).reverse := by
            rw [List.getElem_cons_drop, List.take_append_drop]
        _ = _ := by simp
    · intro other member
      obtain ⟨further, found⟩ := List.mem_iff_getElem?.mp (List.mem_reverse.mp member)
      rw [List.getElem?_drop] at found
      exact silent _ other (by omega) found

theorem unfilled_slot (pattern : Pattern) (pieces : List String) (name : String) (position : Nat) :
    (∀ value, ¬ pattern.Fills pieces name position value) ↔
      ∀ slot, (pattern.segments.zip pieces)[position]? = some slot → given name slot = none := by
  constructor
  · intro unfilled slot found
    refine Option.eq_none_iff_forall_ne_some.mpr fun value gives => ?_
    exact unfilled value ((pattern.fills_slot _ _ _ _).mpr ⟨slot, found, gives⟩)
  · intro silent value fills
    obtain ⟨slot, found, gives⟩ := (pattern.fills_slot _ _ _ _).mp fills
    rw [silent slot found] at gives
    cases gives

theorem get?_extract (pattern : Pattern) (pieces : List String) (name value : String) :
    (pattern.extract pieces).get? name = some value ↔
      ∃ position, pattern.Fills pieces name position value ∧
        ∀ later other, position < later → ¬ pattern.Fills pieces name later other := by
  rw [extract, get?_collect, Params.get?_empty, Option.or_none, last_reading_iff]
  constructor
  · rintro ⟨position, slot, found, gives, silent⟩
    refine ⟨position, (pattern.fills_slot _ _ _ _).mpr ⟨slot, found, gives⟩, ?_⟩
    intro later other behind
    exact (pattern.unfilled_slot pieces name later).mpr
      (fun next => silent later next behind) other
  · rintro ⟨position, fills, unfilled⟩
    obtain ⟨slot, found, gives⟩ := (pattern.fills_slot _ _ _ _).mp fills
    refine ⟨position, slot, found, gives, ?_⟩
    intro later other behind
    exact (pattern.unfilled_slot pieces name later).mp
      (fun next => unfilled later next behind) other

theorem extract_none (pattern : Pattern) (pieces : List String) (name : String) :
    (pattern.extract pieces).get? name = none ↔
      ∀ position value, ¬ pattern.Fills pieces name position value := by
  rw [extract, get?_collect, Params.get?_empty, Option.or_none, List.getLast?_eq_none_iff,
    List.filterMap_eq_nil_iff]
  simp only [unfilled_slot, List.mem_iff_getElem?]
  exact ⟨fun silent position slot found => silent slot ⟨position, found⟩,
    fun silent slot ⟨position, found⟩ => silent position slot found⟩

end Pattern
end HttpRouter
