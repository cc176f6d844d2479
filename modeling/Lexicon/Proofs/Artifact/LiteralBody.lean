import Mathlib
import Lexicon.Artifact.Literal

/-! The bodies of C literals read back. A compiler takes bytes from a body, and an octal escape
stands for one byte. The control characters beyond ASCII have two bytes in UTF-8, but are escaped as
one; every other character is read as its own bytes. As characters, all of a text comes back. -/
namespace Lexicon.Artifact.Literal

open Text (Bytes)

/-- The short escapes: a character, and what stands behind the backslash. -/
def shortEscapes : List (Char × Char) :=
  [('"', '"'), ('\\', '\\'), ('\n', 'n'), ('\t', 't'), ('\r', 'r')]

def IsPlain (c : Char) : Prop := c ≠ '"' ∧ c ≠ '\\' ∧ Text.Unicode.isControl c = false

def IsHighControl (c : Char) : Prop := 0x80 ≤ c.toNat ∧ c.toNat < 0xA0

instance (c : Char) : Decidable (IsHighControl c) := inferInstanceAs (Decidable (_ ∧ _))

def octalDigits (n : Nat) : List Char :=
  [(n / 64).digitChar, (n / 8 % 8).digitChar, (n % 8).digitChar]

inductive Spelling (c : Char) : List Char → Prop
  | short {d : Char} : (c, d) ∈ shortEscapes → Spelling c ['\\', d]
  | octal : Text.Unicode.isControl c = true → Spelling c ('\\' :: octalDigits c.toNat)
  | plain : IsPlain c → Spelling c [c]

/-- Below 512 three octal digits are enough, with zeros in front where there are fewer. -/
theorem padStart_toDigits_eight {n : Nat} (h : n < 512) :
    Text.padStart 3 '0' (Nat.toDigits 8 n) = octalDigits n := by
  unfold Text.padStart octalDigits
  -- the number has one, two or three digits of its own
  by_cases h8 : n < 8
  · have hq : n / 64 = 0 := by omega
    have hm : n / 8 % 8 = 0 := by omega
    have hr : n % 8 = n := by omega
    rw [Nat.toDigits_of_lt_base h8, hq, hm, hr]
    rfl
  have hn : 8 ≤ n := by omega
  rw [Nat.toDigits_of_base_le (by decide) hn]
  by_cases h64 : n / 8 < 8
  · have hq : n / 64 = 0 := by omega
    have hm : n / 8 % 8 = n / 8 := by omega
    rw [Nat.toDigits_of_lt_base h64, hq, hm]
    rfl
  · have hn8 : 8 ≤ n / 8 := by omega
    have hq : n / 8 / 8 = n / 64 := by omega
    have hlt : n / 64 < 8 := by omega
    rw [Nat.toDigits_of_base_le (by decide) hn8, hq, Nat.toDigits_of_lt_base hlt]
    rfl

theorem isControl_iff (c : Char) : Text.Unicode.isControl c = true ↔
    c.toNat < 0x20 ∨ (0x7F ≤ c.toNat ∧ c.toNat < 0xA0) := by
  simp only [Text.Unicode.isControl, Bool.or_eq_true, Bool.and_eq_true, decide_eq_true_eq]

theorem lt_of_isControl {c : Char} (h : Text.Unicode.isControl c = true) : c.toNat < 512 := by
  rw [isControl_iff] at h
  omega

theorem not_isHighControl {c : Char} (h : Text.Unicode.isControl c = false) : ¬IsHighControl c := by
  intro hc
  have hcontrol : Text.Unicode.isControl c = true :=
    (isControl_iff c).mpr (.inr ⟨Nat.le_of_succ_le hc.1, hc.2⟩)
  exact Bool.false_ne_true (h.symm.trans hcontrol)

theorem spelling_escapeChar (c : Char) : Spelling c (escapeChar c) := by
  unfold escapeChar
  -- the tests come in this order, so that what fails the last one needs no escape
  split_ifs with hquote hbackslash hbreak htab hreturn hcontrol
  · exact .short (by rw [beq_iff_eq.mp hquote]; decide)
  · exact .short (by rw [beq_iff_eq.mp hbackslash]; decide)
  · exact .short (by rw [beq_iff_eq.mp hbreak]; decide)
  · exact .short (by rw [beq_iff_eq.mp htab]; decide)
  · exact .short (by rw [beq_iff_eq.mp hreturn]; decide)
  · rw [padStart_toDigits_eight (lt_of_isControl hcontrol)]
    exact .octal hcontrol
  · rw [beq_iff_eq] at hquote hbackslash
    exact .plain ⟨hquote, hbackslash, Bool.eq_false_iff.mpr hcontrol⟩

/-! ### What a compiler reads -/

/-- The bytes that a compiler takes for a character that was escaped. -/
def bytesRead (c : Char) : Bytes :=
  if IsHighControl c then [UInt8.ofNat c.toNat] else String.utf8EncodeChar c

theorem bytesRead_of_not {c : Char} (h : ¬IsHighControl c) :
    bytesRead c = String.utf8EncodeChar c := if_neg h

/-- An octal escape is read as one byte. -/
theorem bytesRead_of_isControl {c : Char} (h : Text.Unicode.isControl c = true) :
    bytesRead c = [UInt8.ofNat c.toNat] := by
  by_cases hhigh : IsHighControl c
  · exact if_pos hhigh
  · -- what is left of the control characters is ASCII, where UTF-8 has one byte
    have hascii : c.val.toNat ≤ 127 := by
      rw [isControl_iff] at h
      unfold IsHighControl at hhigh
      change c.toNat ≤ 127
      omega
    rw [bytesRead_of_not hhigh]
    exact if_pos hascii

theorem digitChar_spec : ∀ d < 8, isOctal d.digitChar = true ∧ Text.digitValue d.digitChar = d ∧
    d.digitChar ≠ '"' ∧ d.digitChar ≠ '\\' ∧ d.digitChar ≠ 'n' ∧ d.digitChar ≠ 't' ∧
    d.digitChar ≠ 'r' := by decide

theorem readFrom_cons {pending next : Pending} {c : Char} {bytes : Bytes}
    (h : readChar pending c = some (bytes, next)) (rest : List Char) :
    readFrom pending (c :: rest) = (readFrom next rest).map (bytes ++ ·) := by
  rw [readFrom, h]

/-- Three octal digits behind a backslash are read as one byte, whatever follows them. -/
theorem readFrom_octal {n : Nat} (h : n < 512) (rest : List Char) :
    readFrom .none ('\\' :: (octalDigits n ++ rest)) =
      (readFrom .none rest).map ([UInt8.ofNat n] ++ ·) := by
  obtain ⟨ho₁, hv₁, hq₁, hb₁, hn₁, ht₁, hr₁⟩ := digitChar_spec (n / 64) (by omega)
  obtain ⟨ho₂, hv₂, -⟩ := digitChar_spec (n / 8 % 8) (by omega)
  obtain ⟨ho₃, hv₃, -⟩ := digitChar_spec (n % 8) (by omega)
  have hopen : readChar .none '\\' = some ([], .backslash) := by decide
  -- a first digit opens the escape, and two more digits are owed
  have hfirst : readChar .backslash (n / 64).digitChar = some ([], .octal 2 (n / 64)) := by
    simp [readChar, hq₁, hb₁, hn₁, ht₁, hr₁, ho₁, hv₁]
  have hsecond : readChar (.octal 2 (n / 64)) (n / 8 % 8).digitChar =
      some ([], .octal 1 (n / 8)) := by
    have hvalue : n / 64 * 8 + n / 8 % 8 = n / 8 := by omega
    simp [readChar, ho₂, hv₂, hvalue]
  have hthird : readChar (.octal 1 (n / 8)) (n % 8).digitChar =
      some ([UInt8.ofNat n], .none) := by
    have hvalue : n / 8 * 8 + n % 8 = n := by omega
    simp [readChar, ho₃, hv₃, hvalue]
  change readFrom .none
    ('\\' :: (n / 64).digitChar :: (n / 8 % 8).digitChar :: (n % 8).digitChar :: rest) = _
  rw [readFrom_cons hopen, readFrom_cons hfirst, readFrom_cons hsecond, readFrom_cons hthird]
  simp only [List.nil_append, Option.map_id_fun', id]

theorem readChar_short : ∀ e ∈ shortEscapes,
    readChar .backslash e.2 = some (bytesRead e.1, .none) := by decide

/-- A spelt character is read as its bytes, and nothing of what follows is read with it. -/
theorem Spelling.readFrom_append {c : Char} {body : List Char} (h : Spelling c body)
    (rest : List Char) :
    readFrom .none (body ++ rest) = (readFrom .none rest).map (bytesRead c ++ ·) := by
  cases h with
  | short h =>
    -- a backslash reads nothing yet
    have hopen : readChar .none '\\' = some ([], .backslash) := by decide
    change readFrom .none ('\\' :: _ :: rest) = _
    rw [readFrom_cons hopen, readFrom_cons (readChar_short _ h)]
    simp only [List.nil_append, Option.map_id_fun', id]
  | octal h =>
    rw [bytesRead_of_isControl h]
    exact readFrom_octal (lt_of_isControl h) rest
  | plain h =>
    obtain ⟨hquote, hbackslash, hcontrol⟩ := h
    -- a line break would be a control character
    have hbreak : c ≠ '\n' := by
      rintro rfl
      exact absurd hcontrol (by decide)
    have hplain : readChar .none c = some (String.utf8EncodeChar c, .none) := by
      simp [readChar, hquote, hbackslash, hbreak]
    rw [bytesRead_of_not (not_isHighControl hcontrol)]
    exact readFrom_cons hplain rest

/-- A compiler reads an escaped text to its end, character by character. -/
theorem readFrom_flatMap (cs : List Char) :
    readFrom .none (cs.flatMap escapeChar) = some (cs.flatMap bytesRead) := by
  induction cs with
  | nil => rfl
  | cons c cs ih =>
    rw [List.flatMap_cons, (spelling_escapeChar c).readFrom_append, ih, Option.map_some,
      List.flatMap_cons]

/-- A high control character loses one of its two bytes; no other character loses any. -/
theorem length_bytesRead (c : Char) :
    (bytesRead c).length + (if IsHighControl c then 1 else 0) =
      (String.utf8EncodeChar c).length := by
  by_cases h : IsHighControl c
  · -- two bytes in UTF-8, of which the escape keeps one
    have hlow : ¬c.val.toNat ≤ 127 := Nat.not_le.mpr h.1
    have hhigh : c.val.toNat ≤ 2047 := by
      have := h.2
      change c.toNat ≤ 2047
      omega
    rw [bytesRead, if_pos h, if_pos h, String.utf8EncodeChar, if_neg hlow, if_pos hhigh]
    rfl
  · rw [bytesRead_of_not h, if_neg h, Nat.add_zero]

/-- Each control character beyond ASCII costs a text one byte. -/
theorem length_flatMap_bytesRead (cs : List Char) :
    (cs.flatMap bytesRead).length + cs.countP (fun c => decide (IsHighControl c)) =
      (cs.flatMap String.utf8EncodeChar).length := by
  induction cs with
  | nil => rfl
  | cons c cs ih =>
    have hc := length_bytesRead c
    rw [List.flatMap_cons, List.flatMap_cons, List.length_append, List.length_append,
      List.countP_cons, ← ih]
    simp only [decide_eq_true_eq]
    omega

/-- As bytes, a text comes back exactly if it has no high control character. -/
theorem flatMap_bytesRead_eq_iff (cs : List Char) :
    cs.flatMap bytesRead = cs.flatMap String.utf8EncodeChar ↔ ∀ c ∈ cs, ¬IsHighControl c := by
  constructor
  · intro heq
    -- no byte is missing, so there is no character that costs one
    have hlength := length_flatMap_bytesRead cs
    rw [heq] at hlength
    have hcount : cs.countP (fun c => decide (IsHighControl c)) = 0 := by omega
    rw [List.countP_eq_zero] at hcount
    intro c hc hhigh
    exact hcount c hc (decide_eq_true hhigh)
  · intro h
    apply List.flatMap_congr
    intro c hc
    exact bytesRead_of_not (h c hc)

/-- Where nothing needs an escape, the escaped text is the text itself. -/
theorem escape_of_isPlain {s : String} (h : ∀ c ∈ s.toList, IsPlain c) : escape s = s := by
  have hchar : ∀ c ∈ s.toList, escapeChar c = [c] := by
    intro c hc
    obtain ⟨hquote, hbackslash, hcontrol⟩ := h c hc
    have hne : ∀ d, Text.Unicode.isControl d = true → c ≠ d := by
      rintro d hd rfl
      exact Bool.false_ne_true (hcontrol.symm.trans hd)
    simp [escapeChar, hquote, hbackslash, hcontrol, hne '\n' (by decide), hne '\t' (by decide),
      hne '\r' (by decide)]
  rw [escape, List.flatMap_congr hchar, List.flatMap_singleton', String.ofList_toList]

/-- A compiler reads the literal of every text to its end. It takes the UTF-8 bytes of the text
exactly if the text has no control character beyond ASCII; each of these is taken as the one byte of
its number. A text in which nothing needs an escape is written as it is. -/
theorem read_escape_iff (s : String) :
    read (escape s) = some (s.toList.flatMap bytesRead) ∧
    (read (escape s) = some (Text.utf8 s) ↔ ∀ c ∈ s.toList, ¬IsHighControl c) ∧
    ((∀ c ∈ s.toList, IsPlain c) → escape s = s) := by
  have hread : read (escape s) = some (s.toList.flatMap bytesRead) := by
    rw [read, escape, String.toList_ofList]
    exact readFrom_flatMap s.toList
  refine ⟨hread, ?_, escape_of_isPlain⟩
  rw [hread, Option.some.injEq, Text.utf8_eq_flatMap]
  exact flatMap_bytesRead_eq_iff s.toList

/-- A quote, a letter outside of ASCII and a bell with a digit behind it are read as they are. -/
theorem read_escape_bell : (∀ c ∈ "\"ä\x071".toList, ¬IsHighControl c) ∧
    read (escape "\"ä\x071") = some (Text.utf8 "\"ä\x071") := by
  have hlow : ∀ c ∈ "\"ä\x071".toList, ¬IsHighControl c := by simp [IsHighControl]
  exact ⟨hlow, (read_escape_iff _).2.1.mpr hlow⟩

/-- The next-line control character is read as one byte that is no UTF-8. -/
theorem read_escape_nextLine_ne : read (escape "\u0085") ≠ some (Text.utf8 "\u0085") := by
  decide

/-! ### Which text was escaped -/

/-- Takes the escapes out of a body. An octal escape has three digits and stands for the character
with their number. -/
def unescapeFrom : Pending → List Char → Option (List Char)
  | .none, [] => some []
  | _, [] => none
  | .none, c :: rest =>
    if c = '\\' then unescapeFrom .backslash rest else (unescapeFrom .none rest).map (c :: ·)
  | .backslash, c :: rest =>
    if isOctal c then unescapeFrom (.octal 2 (Text.digitValue c)) rest
    else (shortEscapes.find? (·.2 == c)).bind fun e => (unescapeFrom .none rest).map (e.1 :: ·)
  | .octal left value, c :: rest =>
    if isOctal c then
      let value := value * 8 + Text.digitValue c
      if left ≤ 1 then (unescapeFrom .none rest).map (Char.ofNat value :: ·)
      else unescapeFrom (.octal (left - 1) value) rest
    else none

def unescape (body : String) : Option String :=
  (unescapeFrom .none body.toList).map String.ofList

theorem unescapeFrom_octal {n : Nat} (h : n < 512) (rest : List Char) :
    unescapeFrom .none ('\\' :: (octalDigits n ++ rest)) =
      (unescapeFrom .none rest).map (Char.ofNat n :: ·) := by
  obtain ⟨ho₁, hv₁, -⟩ := digitChar_spec (n / 64) (by omega)
  obtain ⟨ho₂, hv₂, -⟩ := digitChar_spec (n / 8 % 8) (by omega)
  obtain ⟨ho₃, hv₃, -⟩ := digitChar_spec (n % 8) (by omega)
  have hvalue : (n / 64 * 8 + n / 8 % 8) * 8 + n % 8 = n := by omega
  simp [octalDigits, unescapeFrom, ho₁, hv₁, ho₂, hv₂, ho₃, hv₃, hvalue]

theorem find?_shortEscapes : ∀ e ∈ shortEscapes,
    isOctal e.2 = false ∧ shortEscapes.find? (·.2 == e.2) = some e := by decide

/-- Whatever follows a spelt character, it is told apart from all other characters. -/
theorem Spelling.unescapeFrom_append {c : Char} {body : List Char} (h : Spelling c body)
    (rest : List Char) :
    unescapeFrom .none (body ++ rest) = (unescapeFrom .none rest).map (c :: ·) := by
  cases h with
  | short h =>
    obtain ⟨hoctal, hfind⟩ := find?_shortEscapes _ h
    simp [unescapeFrom, hoctal, hfind]
  | octal h =>
    have hc := unescapeFrom_octal (lt_of_isControl h) rest
    rw [Char.ofNat_toNat] at hc
    exact hc
  | plain h =>
    obtain ⟨-, hbackslash, -⟩ := h
    simp [unescapeFrom, hbackslash]

/-- The escapes of a text can be taken out again. -/
theorem unescape_escape (s : String) : unescape (escape s) = some s := by
  have hchars (cs : List Char) : unescapeFrom .none (cs.flatMap escapeChar) = some cs := by
    induction cs with
    | nil => rfl
    | cons c cs ih =>
      rw [List.flatMap_cons, (spelling_escapeChar c).unescapeFrom_append, ih, Option.map_some]
  rw [unescape, escape, String.toList_ofList, hchars, Option.map_some, String.ofList_toList]

end Lexicon.Artifact.Literal
