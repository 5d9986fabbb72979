import HttpRouter.Text.Percent

/-!
Query strings as `application/x-www-form-urlencoded` writes them: fields between `&`, a name and a
value on either side of the first `=`, `+` for a space, percent escapes for the rest. `Writes` says
in which ways a list of fields can be written. Main statement: `fields_written`, whichever of them
was taken, the same fields are read.
-/

namespace HttpRouter.Form

/-- A name or value as written: `+` is a space before the escapes are read, so `%2B` is a plus. -/
def readComponent (written : List Char) : String :=
  String.ofList (Percent.decodeChars (written.map fun char => if char = '+' then ' ' else char))

def readField (written : List Char) : String × String :=
  (readComponent (written.takeWhile (· != '=')),
    readComponent ((written.dropWhile (· != '=')).drop 1))

/-- The fields of a query in order. Nothing between two `&` is no field. -/
def fields (raw : String) : List (String × String) :=
  ((raw.toList.splitOn '&').filter fun written => !written.isEmpty).map readField

/-! ### Ways to write a query -/

def marks : List Char := ['%', '+', '&', '=']

/-- A name or a value, and a way to write it. Each character has the choice anew, but a mark must be
escaped. -/
inductive Spells : List Char → List Char → Prop where
  | nil : Spells [] []
  | itself (char : Char) {text written : List Char} (unmarked : char ∉ marks)
      (rest : Spells text written) : Spells (char :: text) (char :: written)
  | space {text written : List Char} (rest : Spells text written) :
      Spells (' ' :: text) ('+' :: written)
  | escaped (char : Char) {escapes text written : List Char}
      (bytes : Percent.Escapes (String.utf8EncodeChar char) escapes) (rest : Spells text written) :
      Spells (char :: text) (escapes ++ written)

inductive WritesField (field : String × String) : List Char → Prop where
  | pair {name value : List Char} (named : Spells field.1.toList name)
      (valued : Spells field.2.toList value) : WritesField field (name ++ '=' :: value)

/-- Fields in order, with any number of superfluous `&` before, between and behind them. -/
inductive Writes : List (String × String) → List Char → Prop where
  | nil : Writes [] []
  | surplus {entries : List (String × String)} {raw : List Char} (rest : Writes entries raw) :
      Writes entries ('&' :: raw)
  | last {field : String × String} {written : List Char} (writes : WritesField field written) :
      Writes [field] written
  | field {field : String × String} {entries : List (String × String)} {written raw : List Char}
      (writes : WritesField field written) (rest : Writes entries raw) :
      Writes (field :: entries) (written ++ '&' :: raw)

/-! ### Reading what was written -/

theorem escapes_unmarked (bytes : List UInt8) (text : List Char)
    (escapes : Percent.Escapes bytes text) (mark : Char) (marked : mark ∈ ['+', '&', '=']) :
    mark ∉ text := by
  intro member
  have plain := Percent.escapes_plain bytes text escapes mark member
  simp only [List.mem_cons, List.not_mem_nil, or_false] at marked
  rcases marked with rfl | rfl | rfl <;> exact absurd plain (by decide)

theorem spelled_clear (text written : List Char) (spelled : Spells text written) (mark : Char)
    (marked : mark ∈ ['&', '=']) : mark ∉ written := by
  induction spelled with
  | nil => exact List.not_mem_nil
  | itself char unmarked _ ih =>
      rw [List.mem_cons, not_or]
      refine ⟨?_, ih⟩
      rintro rfl
      exact unmarked (List.mem_cons_of_mem _ (List.mem_cons_of_mem _ marked))
  | space _ ih =>
      rw [List.mem_cons, not_or]
      refine ⟨?_, ih⟩
      rintro rfl
      exact absurd marked (by decide)
  | escaped char bytes _ ih =>
      rw [List.mem_append, not_or]
      exact ⟨escapes_unmarked _ _ bytes mark (List.mem_cons_of_mem _ marked), ih⟩

-- Plus signs become spaces before the escapes are read. An escape has no plus sign, so the escapes
-- of a written text are those that are read.
theorem unescape_component (text written : List Char) (spelled : Spells text written) :
    Percent.unescape (Utf8.encode (written.map fun char => if char = '+' then ' ' else char)) =
      Utf8.encode text := by
  induction spelled with
  | nil => rfl
  | itself char unmarked _ ih =>
      simp only [marks, List.mem_cons, not_or] at unmarked
      rw [List.map_cons, if_neg unmarked.2.1, Utf8.encode_cons,
        Percent.unescape_unsigned _ _ (Percent.char_unsigned char unmarked.1), ih]
      rfl
  | space _ ih =>
      rw [List.map_cons, if_pos rfl, Utf8.encode_cons,
        Percent.unescape_unsigned _ _ (Percent.char_unsigned ' ' (by decide)), ih]
      rfl
  | @escaped char escapes text written bytes _ ih =>
      have kept : escapes.map (fun char => if char = '+' then ' ' else char) = escapes := by
        refine (List.map_congr_left ?_).trans (List.map_id escapes)
        intro sign member
        have other : sign ≠ '+' := by
          rintro rfl
          exact escapes_unmarked _ _ bytes '+' (by decide) member
        exact if_neg other
      rw [List.map_append, kept, Utf8.encode_append, Percent.unescape_escapes _ _ bytes, ih]
      rfl

theorem readComponent_spelled (text written : List Char) (spelled : Spells text written) :
    readComponent written = String.ofList text := by
  rw [readComponent, Percent.decodeChars, unescape_component text written spelled,
    Utf8.decode_encode]

theorem readField_written (field : String × String) (written : List Char)
    (writes : WritesField field written) : readField written = field := by
  cases writes with
  | @pair name value named valued =>
      have clear : ∀ char ∈ name, (char != '=') = true := by
        intro char member
        rw [bne_iff_ne]
        rintro rfl
        exact spelled_clear _ _ named '=' (by decide) member
      rw [readField, List.takeWhile_append_of_pos clear, List.dropWhile_append_of_pos clear]
      simp [readComponent_spelled _ _ named, readComponent_spelled _ _ valued]

theorem field_clear (field : String × String) (written : List Char)
    (writes : WritesField field written) : '&' ∉ written ∧ written ≠ [] := by
  cases writes with
  | @pair name value named valued =>
      constructor
      · rw [List.mem_append, List.mem_cons, not_or, not_or]
        exact ⟨spelled_clear _ _ named '&' (by decide), by decide,
          spelled_clear _ _ valued '&' (by decide)⟩
      · simp

theorem fields_written (entries : List (String × String)) (raw : String)
    (writes : Writes entries raw.toList) : fields raw = entries := by
  rw [fields]
  generalize raw.toList = chars at writes
  induction writes with
  | nil => rfl
  | @surplus entries raw _ ih =>
      change (((([] : List Char) ++ '&' :: raw).splitOn '&').filter _).map _ = _
      rw [List.splitOn_append_cons_self]
      simpa using ih
  | last writes =>
      obtain ⟨clear, someText⟩ := field_clear _ _ writes
      rw [List.splitOn_eq_singleton clear]
      simp [someText, readField_written _ _ writes]
  | field writes _ ih =>
      obtain ⟨clear, someText⟩ := field_clear _ _ writes
      rw [List.splitOn_append_cons_self, List.splitOn_eq_singleton clear]
      simpa [someText, readField_written _ _ writes] using ih

/-! ### Every list of fields can be written -/

theorem escapes_some (bytes : List UInt8) : ∃ text, Percent.Escapes bytes text := by
  induction bytes with
  | nil => exact ⟨[], .nil⟩
  | cons byte rest ih =>
      obtain ⟨text, escapes⟩ := ih
      exact ⟨_, .cons byte _ _ (Or.inl rfl) (Or.inl rfl) escapes⟩

theorem spells_some (text : List Char) : ∃ written, Spells text written := by
  induction text with
  | nil => exact ⟨[], .nil⟩
  | cons char rest ih =>
      obtain ⟨written, spelled⟩ := ih
      obtain ⟨escapes, bytes⟩ := escapes_some (String.utf8EncodeChar char)
      exact ⟨_, .escaped char bytes spelled⟩

theorem writes_some (entries : List (String × String)) : ∃ raw, Writes entries raw := by
  induction entries with
  | nil => exact ⟨[], .nil⟩
  | cons field rest ih =>
      obtain ⟨raw, writes⟩ := ih
      obtain ⟨name, named⟩ := spells_some field.1.toList
      obtain ⟨value, valued⟩ := spells_some field.2.toList
      exact ⟨_, .field (.pair named valued) writes⟩

end HttpRouter.Form
