namespace Lexicon.Text

abbrev Bytes := List UInt8

def utf8 (s : String) : Bytes := s.toByteArray.data.toList

/-- The encoding of a text is that of its characters, one after the other. -/
theorem utf8_eq_flatMap (s : String) : utf8 s = s.toList.flatMap String.utf8EncodeChar := by
  rw [utf8, ← String.utf8Encode_toList, List.utf8Encode]
  simp

theorem utf8_append (s s' : String) : utf8 (s ++ s') = utf8 s ++ utf8 s' := by
  rw [utf8_eq_flatMap, utf8_eq_flatMap, utf8_eq_flatMap, String.toList_append, List.flatMap_append]

theorem utf8_join (texts : List String) : utf8 (String.join texts) = texts.flatMap utf8 := by
  have hutf8 : utf8 = fun s => s.toList.flatMap String.utf8EncodeChar := funext utf8_eq_flatMap
  rw [utf8_eq_flatMap, String.toList_join, List.flatMap_assoc, hutf8]

/-- `needle` occurs in `haystack` as a run of neighbouring bytes; the empty needle always does. -/
def occursIn (needle : Bytes) : Bytes → Bool
  | [] => needle.isEmpty
  | b :: rest => needle.isPrefixOf (b :: rest) || occursIn needle rest

theorem occursIn_iff {needle haystack : Bytes} : occursIn needle haystack = true ↔ needle <:+: haystack := by
  induction haystack with
  | nil => simp [occursIn]
  | cons b rest ih => simp [occursIn, ih, List.infix_cons_iff]

/-- What a leading byte promises: its own payload bits, how many continuation bytes follow, and the
bounds of the first of them. The bounds exclude overlong forms, surrogates and values past the last scalar. -/
structure Lead where
  bits : Nat
  tail : Nat
  low : UInt8
  high : UInt8

def lead? (b : UInt8) : Option Lead :=
  if b < 0x80 then some ⟨b.toNat, 0, 0x80, 0xBF⟩
  else if b < 0xC2 then none
  else if b < 0xE0 then some ⟨b.toNat - 0xC0, 1, 0x80, 0xBF⟩
  else if b == 0xE0 then some ⟨0, 2, 0xA0, 0xBF⟩
  else if b == 0xED then some ⟨0xD, 2, 0x80, 0x9F⟩
  else if b < 0xF0 then some ⟨b.toNat - 0xE0, 2, 0x80, 0xBF⟩
  else if b == 0xF0 then some ⟨0, 3, 0x90, 0xBF⟩
  else if b < 0xF4 then some ⟨b.toNat - 0xF0, 3, 0x80, 0xBF⟩
  else if b == 0xF4 then some ⟨4, 3, 0x80, 0x8F⟩
  else none

/-- Reads the continuation bytes that are owed. The answer is the scalar's value, if none is missing,
and the number of bytes taken. -/
def readTail (acc taken : Nat) : (owed : Nat) → (low high : UInt8) → Bytes → Option Nat × Nat
  | 0, _, _, _ => (some acc, taken)
  | owed + 1, low, high, b :: rest =>
    if low ≤ b ∧ b ≤ high then readTail (acc * 64 + (b.toNat - 0x80)) (taken + 1) owed 0x80 0xBF rest
    else (none, taken)
  | _ + 1, _, _, [] => (none, taken)

/-- The first unit of a byte string that is not empty: a scalar, or `none` for an ill-formed piece, with
the number of bytes after the first that belong to it. -/
def firstUnit (b : UInt8) (rest : Bytes) : Option Char × Nat :=
  match lead? b with
  | none => (none, 0)
  | some lead =>
    let (value, taken) := readTail lead.bits 0 lead.tail lead.low lead.high rest
    (value.map Char.ofNat, taken)

def scalarAt? : Bytes → Option (Char × Nat)
  | [] => none
  | b :: rest =>
    match firstUnit b rest with
    | (some c, taken) => some (c, taken + 1)
    | (none, _) => none

def lossyChars : Bytes → List Char
  | [] => []
  | b :: rest =>
    let (unit, taken) := firstUnit b rest
    unit.getD '\uFFFD' :: lossyChars (rest.drop taken)
termination_by bytes => bytes.length
decreasing_by
  simp only [List.length_drop, List.length_cons]
  omega

def lossy (bytes : Bytes) : String := String.ofList (lossyChars bytes)

def decodeChars? : Bytes → Option (List Char)
  | [] => some []
  | b :: rest =>
    match firstUnit b rest with
    | (some c, taken) => (decodeChars? (rest.drop taken)).map (c :: ·)
    | (none, _) => none
termination_by bytes => bytes.length
decreasing_by
  simp only [List.length_drop, List.length_cons]
  omega

def decode? (bytes : Bytes) : Option String := (decodeChars? bytes).map String.ofList

end Lexicon.Text
