import HttpRouter.Text.Utf8

/-!
Percent escapes. Decoding turns every `%` with two hex digits into a byte, keeps every other `%`,
and reads the bytes as UTF-8. A text can be written in many ways that all read back: `Spells` lets
each character stand for itself or be escaped, in hex digits of either case, but a percent sign or a
separator only the latter. Encoding is the way that escapes every byte but ASCII letters and digits.
Main statements: `decode_spelled`, a text reads back whichever way it was written, and
`decode_separator`, the three texts that read as a lone separator.
-/

namespace HttpRouter.Percent

def percentSign : UInt8 := 0x25

def digitValue (byte : UInt8) : Option UInt8 :=
  if 0x30 ≤ byte ∧ byte ≤ 0x39 then some (byte - 0x30)
  else if 0x41 ≤ byte ∧ byte ≤ 0x46 then some (byte - 0x37)
  else if 0x61 ≤ byte ∧ byte ≤ 0x66 then some (byte - 0x57)
  else none

def escaped (sign high low : UInt8) : Option UInt8 :=
  if sign = percentSign then
    match digitValue high, digitValue low with
    | some upper, some lower => some (upper * 16 + lower)
    | _, _ => none
  else none

def unescape : List UInt8 → List UInt8
  | [] => []
  | [first] => [first]
  | [first, second] => [first, second]
  | first :: high :: low :: rest =>
      match escaped first high low with
      | some byte => byte :: unescape rest
      | none => first :: unescape (high :: low :: rest)

def decodeChars (text : List Char) : List Char :=
  Utf8.decode (unescape (Utf8.encode text))

def decode (text : String) : String :=
  String.ofList (decodeChars text.toList)

def isPlain (byte : UInt8) : Bool :=
  (0x30 ≤ byte && byte ≤ 0x39) || (0x41 ≤ byte && byte ≤ 0x5A) || (0x61 ≤ byte && byte ≤ 0x7A)

def digit (value : UInt8) : Char :=
  Char.ofNat (if value < 10 then 0x30 + value.toNat else 0x37 + value.toNat)

def encodeByte (byte : UInt8) : List Char :=
  if isPlain byte then [Char.ofNat byte.toNat] else ['%', digit (byte / 16), digit (byte % 16)]

def encodeChars (text : List Char) : List Char :=
  (Utf8.encode text).flatMap encodeByte

/-- Writes a text with letters and digits alone left as they are. -/
def encode (text : String) : String :=
  String.ofList (encodeChars text.toList)

/-! ### Ways to write a text -/

def HexDigit (char : Char) (value : UInt8) : Prop :=
  char = digit value ∨ char = (digit value).toLower

instance (char : Char) (value : UInt8) : Decidable (HexDigit char value) :=
  inferInstanceAs (Decidable (_ ∨ _))

/-- Bytes, and a text with one escape for each. -/
inductive Escapes : List UInt8 → List Char → Prop where
  | nil : Escapes [] []
  | cons (byte : UInt8) (high low : Char) {bytes : List UInt8} {text : List Char}
      (upper : HexDigit high (byte / 16)) (lower : HexDigit low (byte % 16))
      (rest : Escapes bytes text) : Escapes (byte :: bytes) ('%' :: high :: low :: text)

/-- A text, and a way to write it within a piece of a path. Each character has the choice anew. -/
inductive Spells : List Char → List Char → Prop where
  | nil : Spells [] []
  | itself (char : Char) {text written : List Char} (noSign : char ≠ '%')
      (noSeparator : char ≠ '/') (rest : Spells text written) :
      Spells (char :: text) (char :: written)
  | escaped (char : Char) {escapes text written : List Char}
      (bytes : Escapes (String.utf8EncodeChar char) escapes) (rest : Spells text written) :
      Spells (char :: text) (escapes ++ written)

/-! ### Reading what was written -/

theorem unescape_plain (byte : UInt8) (rest : List UInt8) (plain : byte ≠ percentSign) :
    unescape (byte :: rest) = byte :: unescape rest := by
  match rest with
  | [] => rfl
  | [_] => rfl
  | high :: low :: rest => simp [unescape, escaped, plain]

theorem unescape_escape (high low upper lower : UInt8) (rest : List UInt8)
    (first : digitValue high = some upper) (second : digitValue low = some lower) :
    unescape (percentSign :: high :: low :: rest) = (upper * 16 + lower) :: unescape rest := by
  simp [unescape, escaped, first, second]

theorem unescape_unsigned (bytes rest : List UInt8) (unsigned : percentSign ∉ bytes) :
    unescape (bytes ++ rest) = bytes ++ unescape rest := by
  induction bytes with
  | nil => rfl
  | cons byte more ih =>
      rw [List.mem_cons, not_or] at unsigned
      rw [List.cons_append, unescape_plain byte _ (Ne.symm unsigned.1), ih unsigned.2]
      rfl

theorem char_unsigned (char : Char) (other : char ≠ '%') :
    percentSign ∉ String.utf8EncodeChar char := by
  intro member
  rcases Utf8.char_bytes char percentSign member with same | above
  · exact other (Char.toNat_inj.mp same.symm)
  · exact absurd above (by decide)

-- A written digit is one byte, and that byte is a digit of the same value.
theorem encode_hexDigit (char : Char) (value : UInt8) (small : value < 16)
    (hex : HexDigit char value) : (Utf8.encode [char]).map digitValue = [some value] := by
  have digits : ∀ value : Fin 16,
      (Utf8.encode [digit (.ofNat value.val)]).map digitValue = [some (.ofNat value.val)] ∧
        (Utf8.encode [(digit (.ofNat value.val)).toLower]).map digitValue =
          [some (.ofNat value.val)] := by
    decide
  have bound : value.toNat < 16 := UInt8.lt_iff_toNat_lt.mp small
  have either := digits ⟨value.toNat, bound⟩
  simp only [UInt8.ofNat_toNat] at either
  rcases hex with rfl | rfl
  · exact either.1
  · exact either.2

theorem halves_small (byte : UInt8) : byte / 16 < 16 ∧ byte % 16 < 16 := by
  have bound := byte.toNat_lt
  constructor
  · rw [UInt8.lt_iff_toNat_lt]
    simp
    omega
  · rw [UInt8.lt_iff_toNat_lt]
    simp
    omega

theorem halves_whole (byte : UInt8) : byte / 16 * 16 + byte % 16 = byte := by
  have bound := byte.toNat_lt
  rw [← UInt8.toNat_inj]
  simp
  omega

theorem unescape_escapes (bytes : List UInt8) (text : List Char) (escapes : Escapes bytes text)
    (rest : List UInt8) : unescape (Utf8.encode text ++ rest) = bytes ++ unescape rest := by
  induction escapes with
  | nil => rfl
  | @cons byte high low bytes text upper lower _ ih =>
      obtain ⟨highSmall, lowSmall⟩ := halves_small byte
      obtain ⟨first, highWritten, highValue⟩ :=
        List.map_eq_singleton_iff.mp (encode_hexDigit high _ highSmall upper)
      obtain ⟨second, lowWritten, lowValue⟩ :=
        List.map_eq_singleton_iff.mp (encode_hexDigit low _ lowSmall lower)
      have written : Utf8.encode ('%' :: high :: low :: text) ++ rest =
          percentSign :: first :: second :: (Utf8.encode text ++ rest) := by
        change Utf8.encode (['%'] ++ [high] ++ [low] ++ text) ++ rest = _
        rw [Utf8.encode_append, Utf8.encode_append, Utf8.encode_append, highWritten, lowWritten]
        rfl
      rw [written, unescape_escape first second _ _ _ highValue lowValue, halves_whole, ih]
      rfl

-- The bytes of one character stay together, whether they are escaped or not, so no character is
-- read across the end of another.
theorem unescape_spelled (text written : List Char) (spelled : Spells text written) :
    unescape (Utf8.encode written) = Utf8.encode text := by
  induction spelled with
  | nil => rfl
  | itself char noSign _ _ ih =>
      rw [Utf8.encode_cons, unescape_unsigned _ _ (char_unsigned char noSign), ih]
      rfl
  | escaped char bytes _ ih =>
      rw [Utf8.encode_append, unescape_escapes _ _ bytes, ih]
      rfl

theorem decode_spelled (text written : List Char) (spelled : Spells text written) :
    decode (String.ofList written) = String.ofList text := by
  rw [decode, decodeChars, String.toList_ofList, unescape_spelled text written spelled,
    Utf8.decode_encode]

theorem decode_unsigned (text : String) (unsigned : '%' ∉ text.toList) : decode text = text := by
  have bytes : percentSign ∉ Utf8.encode text.toList := by
    intro member
    obtain ⟨char, inside, signed⟩ := List.mem_flatMap.mp member
    have other : char ≠ '%' := fun same => unsigned (same ▸ inside)
    exact char_unsigned char other signed
  have kept := unescape_unsigned (Utf8.encode text.toList) [] bytes
  rw [List.append_nil, unescape, List.append_nil] at kept
  rw [decode, decodeChars, kept, Utf8.decode_encode, String.ofList_toList]

/-! ### What a written text is made of -/

theorem hexDigit_alphanum (char : Char) (value : UInt8) (small : value < 16)
    (hex : HexDigit char value) : char.isAlphanum = true := by
  have digits : ∀ value : Fin 16, (digit (.ofNat value.val)).isAlphanum = true ∧
      (digit (.ofNat value.val)).toLower.isAlphanum = true := by
    decide
  have bound : value.toNat < 16 := UInt8.lt_iff_toNat_lt.mp small
  have either := digits ⟨value.toNat, bound⟩
  simp only [UInt8.ofNat_toNat] at either
  rcases hex with rfl | rfl
  · exact either.1
  · exact either.2

theorem escapes_plain (bytes : List UInt8) (text : List Char) (escapes : Escapes bytes text)
    (char : Char) (member : char ∈ text) : char = '%' ∨ char.isAlphanum = true := by
  induction escapes with
  | nil => cases member
  | cons byte high low upper lower _ ih =>
      obtain ⟨highSmall, lowSmall⟩ := halves_small byte
      rcases List.mem_cons.mp member with rfl | member
      · exact Or.inl rfl
      · rcases List.mem_cons.mp member with rfl | member
        · exact Or.inr (hexDigit_alphanum char _ highSmall upper)
        · rcases List.mem_cons.mp member with rfl | member
          · exact Or.inr (hexDigit_alphanum char _ lowSmall lower)
          · exact ih member

theorem spelled_clear (text written : List Char) (spelled : Spells text written) :
    '/' ∉ written := by
  induction spelled with
  | nil => exact List.not_mem_nil
  | itself char _ noSeparator _ ih =>
      rw [List.mem_cons, not_or]
      exact ⟨Ne.symm noSeparator, ih⟩
  | escaped char bytes _ ih =>
      rw [List.mem_append, not_or]
      refine ⟨?_, ih⟩
      intro member
      have plain := escapes_plain _ _ bytes '/' member
      exact absurd plain (by decide)

/-! ### Encoding, as one of the ways -/

theorem plain_bound (byte : UInt8) (plain : isPlain byte = true) : byte.toNat < 128 := by
  simp [isPlain, UInt8.le_iff_toNat_le] at plain
  omega

theorem plain_alphanum (byte : UInt8) (plain : isPlain byte = true) :
    (Char.ofNat byte.toNat).isAlphanum = true := by
  have ascii : ∀ value : Fin 128, isPlain (.ofNat value.val) = true →
      (Char.ofNat value.val).isAlphanum = true := by decide
  exact ascii ⟨byte.toNat, plain_bound byte plain⟩ (by simpa using plain)

theorem plain_char (char : Char) (byte : UInt8) (member : byte ∈ String.utf8EncodeChar char)
    (plain : isPlain byte = true) :
    String.utf8EncodeChar char = [byte] ∧ Char.ofNat byte.toNat = char := by
  have bound := plain_bound byte plain
  have same : byte.toNat = char.toNat :=
    (Utf8.char_bytes char byte member).resolve_right (by omega)
  have single : String.utf8EncodeChar char = [UInt8.ofNat char.toNat] :=
    if_pos (show char.toNat ≤ 127 by omega)
  rw [single, ← same, UInt8.ofNat_toNat, same, Char.ofNat_toNat]
  exact ⟨rfl, rfl⟩

theorem encodeBytes_escapes (bytes : List UInt8) (masked : ∀ byte ∈ bytes, isPlain byte = false) :
    Escapes bytes (bytes.flatMap encodeByte) := by
  induction bytes with
  | nil => exact .nil
  | cons byte rest ih =>
      have tail := ih fun later member => masked later (List.mem_cons_of_mem byte member)
      rw [List.flatMap_cons, encodeByte, masked byte List.mem_cons_self]
      exact .cons byte _ _ (Or.inl rfl) (Or.inl rfl) tail

theorem encodeChars_spells (text : List Char) : Spells text (encodeChars text) := by
  induction text with
  | nil => exact .nil
  | cons char rest ih =>
      rw [encodeChars, Utf8.encode_cons, List.flatMap_append]
      by_cases found : ∃ byte ∈ String.utf8EncodeChar char, isPlain byte = true
      · obtain ⟨byte, member, plain⟩ := found
        obtain ⟨single, same⟩ := plain_char char byte member plain
        have letter := plain_alphanum byte plain
        rw [same] at letter
        rw [single, List.flatMap_singleton, encodeByte, if_pos plain, same]
        refine .itself char ?_ ?_ ih
        · rintro rfl
          exact absurd letter (by decide)
        · rintro rfl
          exact absurd letter (by decide)
      · refine .escaped char (encodeBytes_escapes _ ?_) ih
        intro byte member
        rw [← Bool.not_eq_true]
        exact fun plain => found ⟨byte, member, plain⟩

/-! ### What reads as one separator -/

theorem unescape_empty (bytes : List UInt8) (nothing : unescape bytes = []) : bytes = [] := by
  match bytes with
  | [] => rfl
  | [_] => cases nothing
  | [_, _] => cases nothing
  | first :: high :: low :: rest =>
      rw [unescape] at nothing
      split at nothing <;> cases nothing

theorem unescape_lone (bytes : List UInt8) (byte : UInt8) (read : unescape bytes = [byte]) :
    bytes = [byte] ∨
      ∃ high low, bytes = [percentSign, high, low] ∧ escaped percentSign high low = some byte := by
  match bytes with
  | [] => cases read
  | [_] => exact Or.inl read
  | [_, _] => cases read
  | first :: high :: low :: rest =>
      rw [unescape] at read
      split at read
      · next value escape =>
          obtain ⟨rfl, nothing⟩ := List.cons.inj read
          have sign : first = percentSign := Classical.byContradiction fun other => by
            rw [escaped, if_neg other] at escape
            cases escape
          subst sign
          rw [unescape_empty rest nothing]
          exact Or.inr ⟨high, low, rfl, escape⟩
      · have more := unescape_empty _ (List.cons.inj read).2
        cases more

theorem digitValue_toNat (byte value : UInt8) (digit : digitValue byte = some value) :
    (0x30 ≤ byte.toNat ∧ byte.toNat ≤ 0x39 ∧ value.toNat = byte.toNat - 0x30) ∨
      (0x41 ≤ byte.toNat ∧ byte.toNat ≤ 0x46 ∧ value.toNat = byte.toNat - 0x37) ∨
      (0x61 ≤ byte.toNat ∧ byte.toNat ≤ 0x66 ∧ value.toNat = byte.toNat - 0x57) := by
  unfold digitValue at digit
  simp only [UInt8.le_iff_toNat_le] at digit
  split at digit
  · next range =>
      cases digit
      exact Or.inl ⟨range.1, range.2, UInt8.toNat_sub_of_le _ _ range.1⟩
  · split at digit
    · next range =>
        cases digit
        have least : (0x37 : UInt8) ≤ byte := by
          rw [UInt8.le_iff_toNat_le]
          exact Nat.le_trans (by decide) range.1
        exact Or.inr (Or.inl ⟨range.1, range.2, UInt8.toNat_sub_of_le _ _ least⟩)
    · split at digit
      · next range =>
          cases digit
          have least : (0x57 : UInt8) ≤ byte := by
            rw [UInt8.le_iff_toNat_le]
            exact Nat.le_trans (by decide) range.1
          exact Or.inr (Or.inr ⟨range.1, range.2, UInt8.toNat_sub_of_le _ _ least⟩)
      · cases digit

theorem escaped_separator (high low : UInt8) (escape : escaped percentSign high low = some 0x2F) :
    high = 0x32 ∧ (low = 0x46 ∨ low = 0x66) := by
  unfold escaped at escape
  rw [if_pos rfl] at escape
  split at escape
  · next upper lower first second =>
      have value := congrArg UInt8.toNat (Option.some.inj escape)
      have highRange := digitValue_toNat high upper first
      have lowRange := digitValue_toNat low lower second
      rw [UInt8.toNat_add, UInt8.toNat_mul] at value
      simp only [← UInt8.toNat_inj]
      simp at value ⊢
      omega
  · cases escape

theorem decodeChars_empty (text : List Char) (nothing : decodeChars text = []) : text = [] := by
  have bytes := unescape_empty _ (Utf8.decode_empty _ nothing)
  exact Utf8.encode_injective text [] bytes

theorem decodeChars_separator (text : List Char) (read : decodeChars text = ['/']) :
    text = ['/'] ∨ text = ['%', '2', 'F'] ∨ text = ['%', '2', 'f'] := by
  obtain ⟨byte, unescaped, value⟩ := Utf8.decode_letter '/' ⟨by decide, by decide⟩ _ read
  have separator : byte = 0x2F := UInt8.toNat_inj.mp value
  subst separator
  rcases unescape_lone _ _ unescaped with plain | ⟨high, low, written, escape⟩
  · exact Or.inl (Utf8.encode_injective text ['/'] plain)
  · obtain ⟨rfl, rfl | rfl⟩ := escaped_separator high low escape
    · exact Or.inr (Or.inl (Utf8.encode_injective text ['%', '2', 'F'] written))
    · exact Or.inr (Or.inr (Utf8.encode_injective text ['%', '2', 'f'] written))

theorem decode_blank (text : String) : decode text = "" ↔ text = "" := by
  constructor
  · intro nothing
    exact String.toList_eq_nil_iff.mp
      (decodeChars_empty text.toList (String.ofList_eq_empty_iff.mp nothing))
  · rintro rfl
    rfl

theorem decode_separator (text : String) :
    decode text = "/" ↔ text = "/" ∨ text = "%2F" ∨ text = "%2f" := by
  constructor
  · intro read
    have chars : decodeChars text.toList = ['/'] := by
      simpa [decode] using congrArg String.toList read
    simpa [← String.toList_inj] using decodeChars_separator text.toList chars
  · rintro (rfl | rfl | rfl) <;> decide

end HttpRouter.Percent
