/-!
UTF-8 as lists of bytes. `encode` writes a text. `decode` reads any bytes at all: what is not
UTF-8 becomes replacement characters, one for every longest piece that some character starts with.
Main statements: `decode_encode`, a text that was written reads back, and `decode_letter`, no other
bytes are read as a lone letter of ASCII than its own.
-/

namespace HttpRouter.Utf8

def encode (text : List Char) : List UInt8 :=
  text.flatMap String.utf8EncodeChar

def replacement : Char := '\uFFFD'

/-- Where a reader stands between two bytes: at the start of a character, or inside one, with the
bounds of the next byte, the number of bytes owed after it and the bits read so far. -/
inductive Stand where
  | outside
  | inside (low high owed bits : Nat)
  deriving DecidableEq, Repr

/-- The first byte of a character. The bounds of the second byte exclude overlong forms,
surrogates and everything above U+10FFFF. -/
def enter (byte : Nat) : List Char × Stand :=
  if byte < 0x80 then ([Char.ofNat byte], .outside)
  else if byte < 0xC2 then ([replacement], .outside)
  else if byte < 0xE0 then ([], .inside 0x80 0xBF 0 (byte - 0xC0))
  else if byte = 0xE0 then ([], .inside 0xA0 0xBF 1 0)
  else if byte = 0xED then ([], .inside 0x80 0x9F 1 0x0D)
  else if byte < 0xF0 then ([], .inside 0x80 0xBF 1 (byte - 0xE0))
  else if byte = 0xF0 then ([], .inside 0x90 0xBF 2 0)
  else if byte < 0xF4 then ([], .inside 0x80 0xBF 2 (byte - 0xF0))
  else if byte = 0xF4 then ([], .inside 0x80 0x8F 2 4)
  else ([replacement], .outside)

/-- One byte: the characters it settles and where the reader stands after it. A byte out of bounds
ends the broken character and is read again as a first byte. -/
def step : Stand → Nat → List Char × Stand
  | .outside, byte => enter byte
  | .inside low high owed bits, byte =>
      if low ≤ byte ∧ byte ≤ high then
        let gathered := bits * 64 + (byte - 0x80)
        match owed with
        | 0 => ([Char.ofNat gathered], .outside)
        | owed + 1 => ([], .inside 0x80 0xBF owed gathered)
      else (replacement :: (enter byte).1, (enter byte).2)

/-- What the end of the text settles: an unfinished character is one replacement. -/
def finish : Stand → List Char
  | .outside => []
  | .inside .. => [replacement]

def decodeFrom : Stand → List UInt8 → List Char
  | stand, [] => finish stand
  | stand, byte :: rest =>
      (step stand byte.toNat).1 ++ decodeFrom (step stand byte.toNat).2 rest

def decode (bytes : List UInt8) : List Char :=
  decodeFrom .outside bytes

@[simp] theorem encode_cons (char : Char) (text : List Char) :
    encode (char :: text) = String.utf8EncodeChar char ++ encode text := rfl

@[simp] theorem encode_append (left right : List Char) :
    encode (left ++ right) = encode left ++ encode right := by
  simp [encode]

@[simp] theorem decode_nil : decode [] = [] := rfl

/-! ### Reading what was written -/

theorem toNat_ofNat_byte (value : Nat) (small : value < 256) :
    (UInt8.ofNat value).toNat = value := by
  simp; omega

theorem decodeFrom_cons (stand : Stand) (byte : UInt8) (rest : List UInt8) :
    decodeFrom stand (byte :: rest) =
      (step stand byte.toNat).1 ++ decodeFrom (step stand byte.toNat).2 rest := by
  cases stand <;> rfl

theorem step_inside (low high owed bits byte : Nat) (above : low ≤ byte) (below : byte ≤ high) :
    step (.inside low high (owed + 1) bits) byte =
      ([], .inside 0x80 0xBF owed (bits * 64 + (byte - 0x80))) := by
  simp [step, above, below]

theorem step_last (low high bits byte : Nat) (above : low ≤ byte) (below : byte ≤ high) :
    step (.inside low high 0 bits) byte =
      ([Char.ofNat (bits * 64 + (byte - 0x80))], .outside) := by
  simp [step, above, below]

theorem enter_two (lead : Nat) (above : 2 ≤ lead) (below : lead < 32) :
    enter (lead + 192) = ([], .inside 0x80 0xBF 0 lead) := by
  simp only [enter]
  rw [if_neg (by omega), if_neg (by omega), if_pos (by omega), Nat.add_sub_cancel]

theorem enter_three (lead : Nat) (below : lead < 16) :
    enter (lead + 224) =
      ([], .inside (if lead = 0 then 0xA0 else 0x80)
        (if lead = 13 then 0x9F else 0xBF) 1 lead) := by
  have leads : ∀ lead : Fin 16, enter (lead.val + 224) =
      ([], .inside (if lead.val = 0 then 0xA0 else 0x80)
        (if lead.val = 13 then 0x9F else 0xBF) 1 lead.val) := by decide
  exact leads ⟨lead, below⟩

theorem enter_four (lead : Nat) (below : lead < 5) :
    enter (lead + 240) =
      ([], .inside (if lead = 0 then 0x90 else 0x80) (if lead = 4 then 0x8F else 0xBF) 2 lead) := by
  have leads : ∀ lead : Fin 5, enter (lead.val + 240) =
      ([], .inside (if lead.val = 0 then 0x90 else 0x80)
        (if lead.val = 4 then 0x8F else 0xBF) 2 lead.val) := by decide
  exact leads ⟨lead, below⟩

theorem decodeFrom_char (char : Char) (rest : List UInt8) :
    decodeFrom .outside (String.utf8EncodeChar char ++ rest) =
      char :: decodeFrom .outside rest := by
  have bound : char.val.toNat < 0xD800 ∨ (0xDFFF < char.val.toNat ∧ char.val.toNat < 0x110000) :=
    char.valid
  have back : Char.ofNat char.val.toNat = char := Char.ofNat_toNat char
  unfold String.utf8EncodeChar
  generalize char.val.toNat = value at bound back ⊢
  dsimp only
  split
  · next one =>
      rw [List.cons_append, decodeFrom_cons, toNat_ofNat_byte _ (by omega)]
      simp only [step, enter]
      rw [if_pos (by omega), back]
      rfl
  · split
    · next two =>
        have lead : value / 64 % 32 = value / 64 := by omega
        have whole : value / 64 * 64 + (value % 64 + 128 - 128) = value := by omega
        simp only [List.cons_append, List.nil_append, decodeFrom_cons]
        rw [toNat_ofNat_byte _ (by omega), toNat_ofNat_byte _ (by omega), lead]
        simp only [step.eq_1, enter_two _ (show 2 ≤ value / 64 by omega) (by omega)]
        rw [step_last _ _ _ _ (by omega) (by omega), whole, back]
        rfl
    · split
      · next three =>
          have lead : value / 4096 % 16 = value / 4096 := by omega
          have whole : (value / 4096 * 64 + (value / 64 % 64 + 128 - 128)) * 64 +
              (value % 64 + 128 - 128) = value := by omega
          simp only [List.cons_append, List.nil_append, decodeFrom_cons]
          rw [toNat_ofNat_byte _ (by omega), toNat_ofNat_byte _ (by omega),
            toNat_ofNat_byte _ (by omega), lead]
          simp only [step.eq_1, enter_three _ (show value / 4096 < 16 by omega)]
          rw [step_inside _ _ _ _ _ (by split <;> omega) (by split <;> omega),
            step_last _ _ _ _ (by omega) (by omega), whole, back]
          rfl
      · next four =>
          have lead : value / 262144 % 8 = value / 262144 := by omega
          have whole : ((value / 262144 * 64 + (value / 4096 % 64 + 128 - 128)) * 64 +
              (value / 64 % 64 + 128 - 128)) * 64 + (value % 64 + 128 - 128) = value := by omega
          simp only [List.cons_append, List.nil_append, decodeFrom_cons]
          rw [toNat_ofNat_byte _ (by omega), toNat_ofNat_byte _ (by omega),
            toNat_ofNat_byte _ (by omega), toNat_ofNat_byte _ (by omega), lead]
          simp only [step.eq_1, enter_four _ (show value / 262144 < 5 by omega)]
          rw [step_inside _ _ _ _ _ (by split <;> omega) (by split <;> omega),
            step_inside _ _ _ _ _ (by omega) (by omega),
            step_last _ _ _ _ (by omega) (by omega), whole, back]
          rfl

theorem decode_encode_append (text : List Char) (rest : List UInt8) :
    decode (encode text ++ rest) = text ++ decode rest := by
  induction text with
  | nil => rfl
  | cons char text ih =>
      rw [encode_cons, List.append_assoc, decode, decodeFrom_char]
      exact congrArg (char :: ·) ih

theorem decode_encode (text : List Char) : decode (encode text) = text := by
  simpa using decode_encode_append text []

/-! ### What is read as ASCII -/

theorem char_bytes (char : Char) (byte : UInt8) (member : byte ∈ String.utf8EncodeChar char) :
    byte.toNat = char.toNat ∨ 0x80 ≤ byte.toNat := by
  have above : ∀ value, 0x80 ≤ value → value < 256 → 0x80 ≤ (UInt8.ofNat value).toNat := by
    intro value least bound
    rwa [toNat_ofNat_byte value bound]
  change byte.toNat = char.val.toNat ∨ _
  unfold String.utf8EncodeChar at member
  generalize char.val.toNat = value at member ⊢
  dsimp only at member
  split at member
  · next single =>
      left
      rw [List.mem_singleton.mp member, toNat_ofNat_byte value (by omega)]
  · right
    split at member
    · simp only [List.mem_cons, List.not_mem_nil, or_false] at member
      rcases member with rfl | rfl <;> exact above _ (by omega) (by omega)
    · split at member <;> simp only [List.mem_cons, List.not_mem_nil, or_false] at member
      · rcases member with rfl | rfl | rfl <;> exact above _ (by omega) (by omega)
      · rcases member with rfl | rfl | rfl | rfl <;> exact above _ (by omega) (by omega)

/-- A number that is above ASCII once the bits of some more bytes stand behind it. -/
def Wide (least : Nat) : Nat → Prop
  | 0 => 0x80 ≤ least
  | owed + 1 => Wide (least * 64) owed

theorem wide_above (owed least more : Nat) (above : least ≤ more) (wide : Wide least owed) :
    Wide more owed := by
  induction owed generalizing least more with
  | zero => exact Nat.le_trans wide above
  | succ owed ih => exact ih (least * 64) (more * 64) (Nat.mul_le_mul_right 64 above) wide

/-- What a first byte above ASCII comes to: a broken character, or one begun. The bounds of the
second byte keep the character above ASCII. -/
inductive Begins : List Char × Stand → Prop where
  | broken : Begins ([replacement], .outside)
  | inside (low high owed bits : Nat) (wide : Wide (bits * 64 + (low - 0x80)) owed) :
      Begins ([], .inside low high owed bits)

theorem enter_begins (byte : Nat) (above : 0x80 ≤ byte) : Begins (enter byte) := by
  unfold enter
  rw [if_neg (by omega)]
  refine iteInduction (fun _ => .broken) fun _ => ?_
  -- The seven ranges of bytes that a longer character may start with.
  iterate 7
    refine iteInduction (fun _ => .inside _ _ _ _ (by simp only [Wide]; omega)) fun _ => ?_
  exact .broken

def Ascii (letter : Char) : Prop :=
  0 < letter.toNat ∧ letter.toNat < 0x80

section Letters
variable (letter : Char) (ascii : Ascii letter)
include ascii

theorem replacement_unlike : replacement ≠ letter := by
  rintro rfl
  exact absurd ascii.2 (by decide)

theorem ofNat_unlike (value : Nat) (wide : 0x80 ≤ value) : Char.ofNat value ≠ letter := by
  rintro rfl
  by_cases valid : value.isValidChar
  · have same : (Char.ofNat value).toNat = value := by
      rw [Char.ofNat, dif_pos valid]
      rfl
    have small := ascii.2
    omega
  · have none : (Char.ofNat value).toNat = 0 := by
      rw [Char.ofNat, dif_neg valid]
      rfl
    have someLetter := ascii.1
    omega

theorem decodeFrom_wide (low high owed bits : Nat) (bytes : List UInt8)
    (wide : Wide (bits * 64 + (low - 0x80)) owed) :
    ∃ first text, decodeFrom (.inside low high owed bits) bytes = first :: text ∧
      first ≠ letter := by
  induction bytes generalizing low high owed bits with
  | nil => exact ⟨replacement, [], rfl, replacement_unlike letter ascii⟩
  | cons byte rest ih =>
      rw [decodeFrom_cons]
      by_cases bounds : low ≤ byte.toNat ∧ byte.toNat ≤ high
      · have gathered : bits * 64 + (low - 0x80) ≤ bits * 64 + (byte.toNat - 0x80) := by omega
        have onward := wide_above owed _ _ gathered wide
        cases owed with
        | zero =>
            rw [step_last _ _ _ _ bounds.1 bounds.2]
            exact ⟨_, _, rfl, ofNat_unlike letter ascii _ onward⟩
        | succ owed =>
            rw [step_inside _ _ _ _ _ bounds.1 bounds.2]
            rw [Wide] at onward
            apply ih
            rw [Nat.sub_self, Nat.add_zero]
            exact onward
      · rw [step, if_neg bounds]
        exact ⟨replacement, _, rfl, replacement_unlike letter ascii⟩

theorem decode_first (byte : UInt8) (rest : List UInt8) :
    (byte.toNat < 0x80 ∧ decode (byte :: rest) = Char.ofNat byte.toNat :: decode rest) ∨
      ∃ first text, decode (byte :: rest) = first :: text ∧ first ≠ letter := by
  rw [decode, decodeFrom_cons, step]
  by_cases single : byte.toNat < 0x80
  · left
    refine ⟨single, ?_⟩
    rw [enter, if_pos single]
    rfl
  · right
    have begins := enter_begins byte.toNat (by omega)
    generalize enter byte.toNat = entered at begins ⊢
    cases begins with
    | broken => exact ⟨replacement, _, rfl, replacement_unlike letter ascii⟩
    | inside low high owed bits wide =>
        exact decodeFrom_wide letter ascii low high owed bits rest wide

end Letters

theorem decode_empty (bytes : List UInt8) (nothing : decode bytes = []) : bytes = [] := by
  cases bytes with
  | nil => rfl
  | cons byte rest =>
      rcases decode_first 'a' ⟨by decide, by decide⟩ byte rest with
        ⟨_, read⟩ | ⟨first, text, read, _⟩
      · rw [read] at nothing
        cases nothing
      · rw [read] at nothing
        cases nothing

theorem decode_letter (letter : Char) (ascii : Ascii letter) (bytes : List UInt8)
    (read : decode bytes = [letter]) : ∃ byte, bytes = [byte] ∧ byte.toNat = letter.toNat := by
  cases bytes with
  | nil => cases read
  | cons byte rest =>
      rcases decode_first letter ascii byte rest with ⟨single, whole⟩ | ⟨first, text, whole, other⟩
      · obtain ⟨same, nothing⟩ := List.cons.inj (whole.symm.trans read)
        have bare := decode_empty rest nothing
        have valid : byte.toNat.isValidChar := Or.inl (by omega)
        refine ⟨byte, by rw [bare], ?_⟩
        rw [← same, Char.ofNat, dif_pos valid]
        rfl
      · exact absurd (List.cons.inj (whole.symm.trans read)).1 other

theorem encode_injective (left right : List Char) (same : encode left = encode right) :
    left = right := by
  rw [← decode_encode left, same, decode_encode]

end HttpRouter.Utf8
