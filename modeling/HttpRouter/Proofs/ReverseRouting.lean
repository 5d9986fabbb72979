import HttpRouter.Proofs.Compilation
import HttpRouter.Proofs.Positions
import HttpRouter.Proofs.Spellings
import Mathlib.Data.List.DropRight

/-!
Paths written for a pattern. A path that gives every static segment its own text and every named
segment a value, each of them escaped, fits the pattern, and the values are collected again. So no
pattern is without a path, and every value can be handed to every name. A value at the end may be
left out where the pattern ends in an optional segment, and more may follow where it ends in a
wildcard.
-/

namespace HttpRouter

namespace Segment

def names (segments : List Segment) : List String :=
  (segments.filter captures).map value

def Filled (values : String → String) (segments : List Segment) : Prop :=
  ∀ name ∈ names segments, values name ≠ "" ∧ values name ≠ "/"

def reading (values : String → String) (segment : Segment) : String :=
  if segment.captures then values segment.value else segment.value

theorem names_append (front back : List Segment) :
    names (front ++ back) = names front ++ names back := by
  rw [names, List.filter_append, List.map_append]
  rfl

theorem names_cons (segment : Segment) (rest : List Segment) :
    names (segment :: rest) =
      if segment.captures then segment.value :: names rest else names rest := by
  by_cases captures : segment.captures = true <;> simp [names, captures]

theorem captured_name (segments : List Segment) (segment : Segment) (member : segment ∈ segments)
    (captures : segment.captures = true) : segment.value ∈ names segments :=
  List.mem_map.mpr ⟨segment, List.mem_filter.mpr ⟨member, captures⟩, rfl⟩

section Readings
variable (values : String → String)

theorem filled_append (front back : List Segment) :
    Filled values (front ++ back) ↔ Filled values front ∧ Filled values back := by
  rw [Filled, names_append]
  exact List.forall_mem_append

theorem filled_slot (segments : List Segment) (filled : Filled values segments) (name : String)
    (named : name ∈ names segments) : Path.isPlaceholder (values name) = false := by
  obtain ⟨someText, nested⟩ := filled name named
  simp [Path.isPlaceholder, Path.root, someText, nested]

theorem reading_accepted (segments : List Segment) (filled : Filled values segments)
    (segment : Segment) (member : segment ∈ segments) :
    segment.accepts (segment.reading values) = true := by
  cases kind : segment.kind with
  | static => simp [accepts, reading, captures, kind]
  | parameter =>
      have captures : segment.captures = true := by simp [Segment.captures, kind]
      have slot := filled_slot values segments filled _ (captured_name _ _ member captures)
      simp [accepts, kind, reading, captures, slot]
  | optional => simp [accepts, kind]
  | wildcard => simp [accepts, kind]

theorem reading_some (segments : List Segment) (filled : Filled values segments)
    (segment : Segment) (member : segment ∈ segments)
    (text : segment.kind = .static → segment.value ≠ "") : segment.reading values ≠ "" := by
  by_cases captures : segment.captures = true
  · rw [reading, if_pos captures]
    exact (filled _ (captured_name segments segment member captures)).1
  · rw [reading, if_neg captures]
    exact text (by simpa [Segment.captures] using captures)

-- Segments without a piece, or pieces without a segment, meet nothing.
theorem zip_readings (front back : List Segment) (more : List String)
    (one : back = [] ∨ more = []) :
    (front ++ back).zip (front.map (reading values) ++ more) =
      front.map fun segment => (segment, segment.reading values) := by
  have none : back.zip more = [] := by
    rcases one with bare | bare
    · rw [bare, List.zip_nil_left]
    · rw [bare, List.zip_nil_right]
  have paired : (front.map id).zip (front.map (reading values)) =
      front.map fun segment => (id segment, segment.reading values) := List.zip_map'
  rw [List.map_id] at paired
  rw [List.zip_append (by simp), none, List.append_nil]
  exact paired

end Readings
end Segment

namespace Pattern

theorem capture_reading (values : String → String) (start : Params) (segment : Segment)
    (slot : segment.captures = true → Path.isPlaceholder (values segment.value) = false) :
    capture start (segment, segment.reading values) =
      if segment.captures then start.set segment.value (values segment.value) else start := by
  by_cases captures : segment.captures = true
  · simp [capture, captures, Segment.reading, slot captures]
  · simp [capture, captures]

-- The induction is on the segments for everything that was collected before them.
theorem collect_readings (values : String → String) (segments : List Segment) (start : Params)
    (filled : Segment.Filled values segments) (name : String) :
    ((segments.map fun segment => (segment, segment.reading values)).foldl capture
        start).get? name =
      if name ∈ Segment.names segments then some (values name) else start.get? name := by
  induction segments generalizing start with
  | nil => simp [Segment.names]
  | cons segment rest ih =>
      have slot : segment.captures = true → Path.isPlaceholder (values segment.value) = false :=
        fun captures => Segment.filled_slot values _ filled _
          (Segment.captured_name _ segment List.mem_cons_self captures)
      have tail := (Segment.filled_append values [segment] rest).mp filled
      rw [List.map_cons, List.foldl_cons, capture_reading values start segment slot, ih _ tail.2,
        Segment.names_cons]
      by_cases later : name ∈ Segment.names rest
      · by_cases captures : segment.captures = true <;> simp [captures, later]
      · by_cases captures : segment.captures = true
        · by_cases same : segment.value = name
          · simp [captures, later, same, Params.get?_set]
          · simp [captures, later, same, Ne.symm same, Params.get?_set]
        · simp [captures, later]

theorem longer_accepted (pattern : Pattern) (count : Nat) (ends : pattern.ending = some .wildcard)
    (longer : pattern.segments.length ≤ count) : pattern.acceptsLength count = true := by
  rw [acceptsLength_iff]
  rcases Nat.lt_or_eq_of_le longer with more | same
  · exact Or.inr (Or.inl ⟨more, ends⟩)
  · exact Or.inl same.symm

theorem shorter_accepted (pattern : Pattern) (count : Nat) (ends : pattern.ending = some .optional)
    (shorter : count ≤ pattern.segments.length) : pattern.acceptsLength count = true := by
  rw [acceptsLength_iff]
  rcases Nat.lt_or_eq_of_le shorter with fewer | same
  · exact Or.inr (Or.inr ⟨fewer, ends⟩)
  · exact Or.inl same

/-- The front of a pattern against its own readings. Segments may go without pieces, or pieces
without segments, as the length of the whole allows. -/
theorem front_delivered (pattern : Pattern) (values : String → String) (front back : List Segment)
    (more : List String) (parted : pattern.segments = front ++ back)
    (one : back = [] ∨ more = [])
    (length : pattern.acceptsLength (front.length + more.length) = true)
    (filled : Segment.Filled values front) :
    pattern.fits (front.map (Segment.reading values) ++ more) = true ∧
      ∀ name, (pattern.extract (front.map (Segment.reading values) ++ more)).get? name =
        if name ∈ Segment.names front then some (values name) else none := by
  have slots := Segment.zip_readings values front back more one
  constructor
  · rw [fits, acceptsPieces, parted, slots, List.length_append, List.length_map, length,
      Bool.true_and, List.all_map, List.all_eq_true]
    intro segment member
    exact Segment.reading_accepted values front filled segment member
  · intro name
    rw [extract, parted, slots, collect_readings values front _ filled, Params.get?_empty]

/-! ### Paths for a pattern -/

/-- The pieces of a path that gives the named segments their values. The root pattern has no
piece of its own, so its path is the separator alone. -/
def written (pattern : Pattern) (values : String → String) : List String :=
  if Path.clean pattern.text = Path.root then [Path.root]
  else pattern.segments.map fun segment => Percent.encode (segment.reading values)

/-- Every path with the normal form of a text fits, and what is collected from it is expected. -/
def Delivers (pattern : Pattern) (text : String) (expected : String → Option String) : Prop :=
  ∀ path, Path.clean path = Path.clean text →
    pattern.fits (Path.splitDecoded path) = true ∧
      ∀ name, (pattern.extract (Path.splitDecoded path)).get? name = expected name

section Written
variable (pattern : Pattern) (values : String → String)

theorem delivers_pieces (text : String) (pieces : List String) (expected : String → Option String)
    (split : Path.splitDecoded text = pieces)
    (delivered : pattern.fits pieces = true ∧
      ∀ name, (pattern.extract pieces).get? name = expected name) :
    pattern.Delivers text expected := by
  intro path same
  rw [Path.splitDecoded_clean path text same, split]
  exact delivered

theorem root_segments (atRoot : Path.clean pattern.text = Path.root) :
    pattern.segments = [⟨pattern.text, .static, Path.root⟩] := by
  rw [pattern.compiled]
  exact Segment.compile_root pattern.text atRoot

theorem first_reading (filled : Segment.Filled values pattern.segments) :
    (pattern.segments.map (Segment.reading values)).head? ≠ some "" := by
  intro gap
  rw [List.head?_map] at gap
  obtain ⟨segment, opens, bare⟩ := Option.map_eq_some_iff.mp gap
  refine Segment.reading_some values _ filled segment (List.mem_of_head? opens) ?_ bare
  exact Segment.compile_first pattern.text segment (pattern.compiled ▸ opens)

theorem last_reading (filled : Segment.Filled values pattern.segments) :
    (pattern.segments.map (Segment.reading values)).getLast? ≠ some "" := by
  intro gap
  rw [List.getLast?_map] at gap
  obtain ⟨segment, closes, bare⟩ := Option.map_eq_some_iff.mp gap
  refine Segment.reading_some values _ filled segment (List.mem_of_getLast? closes) ?_ bare
  exact Segment.compile_last pattern.text segment (pattern.compiled ▸ closes)

theorem segments_some : pattern.segments ≠ [] := by
  rw [pattern.compiled]
  exact Segment.compile_some pattern.text

theorem written_split (filled : Segment.Filled values pattern.segments) :
    Path.splitDecoded ("/".intercalate (pattern.written values)) =
      pattern.segments.map (Segment.reading values) := by
  by_cases atRoot : Path.clean pattern.text = Path.root
  · have bare : Path.splitDecoded ("/".intercalate [Path.root]) = [Path.root] := by decide
    rw [written, if_pos atRoot, root_segments pattern atRoot, bare]
    rfl
  · have split := Path.splitDecoded_written (pattern.segments.map (Segment.reading values)) 0
      (by simpa using segments_some pattern) (first_reading pattern values filled)
      (last_reading pattern values filled)
    rw [List.replicate_zero, List.append_nil, List.map_map] at split
    rw [written, if_neg atRoot]
    exact split

theorem whole_delivered (filled : Segment.Filled values pattern.segments) :
    pattern.Delivers ("/".intercalate (pattern.written values)) fun name =>
      if name ∈ Segment.names pattern.segments then some (values name) else none := by
  apply delivers_pieces pattern _ _ _ (written_split pattern values filled)
  have whole := front_delivered pattern values pattern.segments [] [] (by simp) (Or.inl rfl)
    (by simp [acceptsLength]) filled
  simpa using whole

theorem written_nested (filled : Segment.Filled values pattern.segments) (last : Segment)
    (ends : pattern.segments.getLast? = some last) (captures : last.captures = true) :
    Path.clean ("/".intercalate (pattern.written values)) ≠ Path.root := by
  intro atRoot
  have same := Path.splitDecoded_bare _ atRoot
  rw [written_split pattern values filled] at same
  have reading := congrArg List.getLast? same
  rw [List.getLast?_map, ends] at reading
  have value : last.reading values = Path.root := Option.some.inj reading
  rw [Segment.reading, if_pos captures] at value
  have named := Segment.captured_name _ last (List.mem_of_getLast? ends) captures
  exact (filled last.value named).2 value

theorem longer_delivered (filled : Segment.Filled values pattern.segments) (last : Segment)
    (ends : pattern.segments.getLast? = some last) (wildcard : last.kind = .wildcard)
    (more : List String) :
    pattern.Delivers ("/".intercalate (pattern.written values ++ more)) fun name =>
      if name ∈ Segment.names pattern.segments then some (values name) else none := by
  cases more with
  | nil =>
      rw [List.append_nil]
      exact whole_delivered pattern values filled
  | cons piece more =>
      have captures : last.captures = true := by simp [Segment.captures, wildcard]
      have somePiece : pattern.written values ≠ [] := by
        unfold written
        split <;> simp [segments_some pattern]
      have continued : "/".intercalate (pattern.written values ++ piece :: more) =
          "/".intercalate (pattern.written values) ++ "/" ++ "/".intercalate (piece :: more) :=
        String.intercalate_append_of_ne_nil somePiece (by simp)
      have nested := written_nested pattern values filled last ends captures
      -- The path goes on below the one written for the values, so it begins with their pieces.
      obtain ⟨tail, pieces⟩ := Path.below_pieces _ _ nested
        (Path.below_append _ ("/".intercalate (piece :: more)) nested)
      rw [written_split pattern values filled, ← continued] at pieces
      apply delivers_pieces pattern _ _ _ pieces.symm
      have length := longer_accepted pattern (pattern.segments.length + tail.length)
        (by simp [ending, ends, wildcard]) (by omega)
      exact front_delivered pattern values pattern.segments [] tail (by simp) (Or.inl rfl) length
        filled

-- Empty static texts at the end leave separators only, and the normal form drops those.
theorem gaps_parted (segments : List Segment) :
    ∃ kept gaps, segments = kept ++ gaps ∧
      (kept.map (Segment.reading values)).getLast? ≠ some "" ∧
      ∀ gap ∈ gaps, gap.reading values = "" := by
  let empty : Segment → Bool := fun segment => segment.reading values == ""
  refine ⟨segments.rdropWhile empty, segments.rtakeWhile empty,
    List.rdropWhile_append_rtakeWhile.symm, ?_, ?_⟩
  · intro gap
    rw [List.getLast?_map] at gap
    obtain ⟨segment, closes, bare⟩ := Option.map_eq_some_iff.mp gap
    obtain ⟨someKept, rfl⟩ := List.mem_getLast?_eq_getLast closes
    exact List.rdropWhile_last_not empty segments someKept (beq_iff_eq.mpr bare)
  · intro gap member
    have bare : empty gap = true := List.mem_rtakeWhile_imp member
    exact beq_iff_eq.mp bare

theorem gaps_nameless (gaps : List Segment) (filled : Segment.Filled values gaps)
    (bare : ∀ gap ∈ gaps, gap.reading values = "") : Segment.names gaps = [] := by
  rw [Segment.names, List.map_eq_nil_iff, List.filter_eq_nil_iff]
  intro gap member captures
  have value := bare gap member
  rw [Segment.reading, if_pos captures] at value
  exact (filled _ (Segment.captured_name gaps gap member captures)).1 value

theorem stopped_delivered (kept gaps back : List Segment)
    (parted : pattern.segments = kept ++ gaps ++ back) (someKept : kept ≠ [])
    (filled : Segment.Filled values pattern.segments)
    (closes : (kept.map (Segment.reading values)).getLast? ≠ some "")
    (bare : ∀ gap ∈ gaps, gap.reading values = "")
    (length : pattern.acceptsLength kept.length = true) :
    pattern.Delivers
      ("/".intercalate ((kept ++ gaps).map fun segment => Percent.encode (segment.reading values)))
      fun name => if name ∈ Segment.names (kept ++ gaps) then some (values name) else none := by
  have lost : gaps.map (fun segment => Percent.encode (segment.reading values)) =
      List.replicate gaps.length "" := by
    rw [List.map_eq_replicate_iff]
    intro gap member
    rw [bare gap member]
    rfl
  have opens : (kept.map (Segment.reading values)).head? ≠ some "" := by
    have first := first_reading pattern values filled
    cases kept with
    | nil => exact absurd rfl someKept
    | cons segment rest => simpa [parted] using first
  have split := Path.splitDecoded_written (kept.map (Segment.reading values)) gaps.length
    (by simpa using someKept) opens closes
  rw [← lost, List.map_map] at split
  have filledFront := ((Segment.filled_append values (kept ++ gaps) back).mp (parted ▸ filled)).1
  have filledParts := (Segment.filled_append values kept gaps).mp filledFront
  have front := front_delivered pattern values kept (gaps ++ back) []
    (by rw [parted, List.append_assoc]) (Or.inr rfl) length filledParts.1
  rw [List.append_nil] at front
  rw [List.map_append, Segment.names_append, gaps_nameless values gaps filledParts.2 bare,
    List.append_nil]
  exact delivers_pieces pattern _ _ _ split front

-- Nothing is left of the path, and the root piece is what the lone optional segment meets.
theorem lone_optional_delivered (last : Segment) (alone : pattern.segments = [last])
    (optional : last.kind = .optional) : pattern.Delivers "" fun _ => none := by
  have bare : Path.splitDecoded "" = [Path.root] := by decide
  apply delivers_pieces pattern _ _ _ bare
  constructor
  · simp [fits, acceptsPieces, alone, Segment.accepts, optional, acceptsLength]
  · intro name
    simp [extract, alone, capture, Path.isPlaceholder]

theorem last_name (distinct : (Segment.names pattern.segments).Nodup) (body : List Segment)
    (last : Segment) (parted : pattern.segments = body ++ [last]) (captures : last.captures = true)
    (name : String) :
    (name ∈ Segment.names pattern.segments ∧ name ≠ last.value) ↔ name ∈ Segment.names body := by
  have ended : Segment.names pattern.segments = Segment.names body ++ [last.value] := by
    rw [parted, Segment.names_append]
    simp [Segment.names, captures]
  rw [ended] at distinct ⊢
  have apart := (List.nodup_append.mp distinct).2.2
  constructor
  · rintro ⟨member, other⟩
    simpa [other] using member
  · intro member
    exact ⟨List.mem_append_left _ member, apart name member last.value (by simp)⟩

theorem shorter_delivered (distinct : (Segment.names pattern.segments).Nodup)
    (filled : Segment.Filled values pattern.segments) (last : Segment)
    (ends : pattern.segments.getLast? = some last) (optional : last.kind = .optional) :
    pattern.Delivers ("/".intercalate (pattern.written values).dropLast) fun name =>
      if name ∈ Segment.names pattern.segments ∧ name ≠ last.value then some (values name)
      else none := by
  obtain ⟨body, parted⟩ := List.getLast?_eq_some_iff.mp ends
  have captures : last.captures = true := by simp [Segment.captures, optional]
  have nested : Path.clean pattern.text ≠ Path.root := by
    intro atRoot
    rw [root_segments pattern atRoot] at ends
    cases ends
    cases optional
  have pieces : (pattern.written values).dropLast =
      body.map fun segment => Percent.encode (segment.reading values) := by
    rw [written, if_neg nested, parted, List.map_append]
    exact List.dropLast_concat
  simp only [last_name pattern distinct body last parted captures, pieces]
  obtain ⟨kept, gaps, whole, closes, bare⟩ := gaps_parted values body
  cases kept with
  | nil =>
      cases gaps with
      | nil =>
          subst whole
          simpa [Segment.names] using lone_optional_delivered pattern last parted optional
      | cons gap gaps =>
          -- A pattern never opens with an empty text, so something is kept.
          have first := first_reading pattern values filled
          rw [parted, whole] at first
          exact absurd (bare gap List.mem_cons_self) (by simpa using first)
  | cons segment kept =>
      have fewer : (segment :: kept).length ≤ pattern.segments.length := by
        simp [parted, whole]
      rw [whole] at parted ⊢
      exact stopped_delivered pattern values (segment :: kept) gaps [last] parted (by simp) filled
        closes bare (shorter_accepted pattern _ (by simp [ending, ends, optional]) fewer)

end Written

/-- Distinct names can be given any values that do not read as empty slots: the path written for
them fits, and collecting gives every name its value and no other name any. A last optional segment
may go without its piece, and a last wildcard takes any pieces more. -/
theorem written_delivers (pattern : Pattern) (values : String → String)
    (distinct : (Segment.names pattern.segments).Nodup)
    (filled : ∀ name ∈ Segment.names pattern.segments, values name ≠ "" ∧ values name ≠ "/") :
    let pieces := pattern.written values
    let names := Segment.names pattern.segments
    pattern.Delivers ("/".intercalate pieces)
        (fun name => if name ∈ names then some (values name) else none) ∧
      (∀ last, pattern.segments.getLast? = some last → last.kind = .optional →
        pattern.Delivers ("/".intercalate pieces.dropLast)
          (fun name => if name ∈ names ∧ name ≠ last.value then some (values name) else none)) ∧
      ∀ last, pattern.segments.getLast? = some last → last.kind = .wildcard → ∀ more,
        pattern.Delivers ("/".intercalate (pieces ++ more))
          (fun name => if name ∈ names then some (values name) else none) :=
  ⟨whole_delivered pattern values filled,
    fun last ends optional => shorter_delivered pattern values distinct filled last ends optional,
    fun last ends wildcard more => longer_delivered pattern values filled last ends wildcard more⟩

-- A text with a percent sign, an empty text, a value with a separator, and one that looks escaped.
theorem escaped_values_delivered :
    let pattern := Pattern.ofText "/a%b//:user/:page?"
    let values : String → String := fun name => if name = "user" then "/é" else "%2F"
    let whole := pattern.extract (Path.splitDecoded "/a%25b//%2F%C3%A9/%252F")
    let shorter := pattern.extract (Path.splitDecoded "/a%25b//%2F%C3%A9")
    (Segment.names pattern.segments).Nodup ∧
      (∀ name ∈ Segment.names pattern.segments, values name ≠ "" ∧ values name ≠ "/") ∧
      whole.get? "user" = some "/é" ∧ whole.get? "page" = some "%2F" ∧
      shorter.get? "user" = some "/é" ∧ shorter.get? "page" = none := by
  intro pattern values whole shorter
  have distinct : (Segment.names pattern.segments).Nodup := by decide
  have filled : ∀ name ∈ Segment.names pattern.segments, values name ≠ "" ∧ values name ≠ "/" := by
    decide
  obtain ⟨delivered, dropped, _⟩ := written_delivers pattern values distinct filled
  have given := (delivered "/a%25b//%2F%C3%A9/%252F" (by decide)).2
  have left := (dropped ⟨"/a%b//:user/:page?", .optional, "page"⟩ (by decide) rfl
    "/a%25b//%2F%C3%A9" (by decide)).2
  exact ⟨distinct, filled, given "user", given "page", left "user", left "page"⟩

end Pattern
end HttpRouter
