import Lexicon.Text.Hex
import Lexicon.Text.CodeRanges
import Lexicon.Proofs.Text.Lines

namespace Lexicon.Text

def isDigitOf (base : Nat) (c : Char) : Bool := c.isAlphanum && decide (digitValue c < base)

def digitsValue (base : Nat) (cs : List Char) : Nat :=
  cs.foldl (fun n c => n * base + digitValue c) 0

def number? (base : Nat) (cs : List Char) : Option Nat :=
  if !cs.isEmpty && cs.all (isDigitOf base) then some (digitsValue base cs) else none

theorem digitsValue_append_singleton (base : Nat) (cs : List Char) (c : Char) :
    digitsValue base (cs ++ [c]) = digitsValue base cs * base + digitValue c := by
  rw [digitsValue, List.foldl_append]
  rfl

theorem digitsValue_padStart (base width : Nat) (cs : List Char) :
    digitsValue base (padStart width '0' cs) = digitsValue base cs := by
  -- digits are read from the left, so zeros come first and leave nothing behind
  have hzeros (k : Nat) : digitsValue base (List.replicate k '0') = 0 := by
    induction k with
    | zero => rfl
    | succ k ih =>
      rw [List.replicate_succ', digitsValue_append_singleton, ih, Nat.zero_mul]
      rfl
  rw [padStart, digitsValue, List.foldl_append]
  change List.foldl _ (digitsValue base (List.replicate _ '0')) cs = _
  rw [hzeros]
  rfl

/-- How the digits of a base are written: each digit as a character that stands for it. -/
def Spells (base : Nat) (spell : Char → Char) : Prop :=
  ∀ d < base, isDigitOf base (spell d.digitChar) = true ∧ digitValue (spell d.digitChar) = d

instance (base : Nat) (spell : Char → Char) : Decidable (Spells base spell) :=
  inferInstanceAs (Decidable (∀ d < base, _))

theorem spells_decimal : Spells 10 id := by decide

theorem spells_hex : Spells 16 Char.toUpper := by decide

section
variable {base : Nat} {spell : Char → Char}

theorem exists_of_mem_toDigits (hb : 1 < base) {n : Nat} {c : Char} (hc : c ∈ Nat.toDigits base n) :
    ∃ d < base, c = d.digitChar := by
  induction n using Nat.strongRecOn with
  | _ n ih =>
    by_cases h : n < base
    · rw [Nat.toDigits_of_lt_base h] at hc
      exact ⟨n, h, List.eq_of_mem_singleton hc⟩
    · have hn : base ≤ n := Nat.not_lt.mp h
      rw [Nat.toDigits_of_base_le hb hn, List.mem_append, List.mem_singleton] at hc
      rcases hc with hc | hc
      · exact ih (n / base) (Nat.div_lt_self (by omega) hb) hc
      · exact ⟨n % base, Nat.mod_lt n (by omega), hc⟩

/-- Digits, however they are spelt, spell the number that they come from. -/
theorem digits_toDigits (hb : 1 < base) (hs : Spells base spell) (n : Nat) :
    (∀ c ∈ (Nat.toDigits base n).map spell, isDigitOf base c = true) ∧
      digitsValue base ((Nat.toDigits base n).map spell) = n := by
  constructor
  · intro c hc
    obtain ⟨digit, hdigit, rfl⟩ := List.mem_map.mp hc
    obtain ⟨d, hd, rfl⟩ := exists_of_mem_toDigits hb hdigit
    exact (hs d hd).1
  induction n using Nat.strongRecOn with
  | _ n ih =>
    by_cases h : n < base
    · rw [Nat.toDigits_of_lt_base h]
      change 0 * base + digitValue (spell n.digitChar) = n
      rw [(hs n h).2, Nat.zero_mul, Nat.zero_add]
    · -- the last digit is the remainder, the digits in front of it are those of the quotient
      have hn : base ≤ n := Nat.not_lt.mp h
      have hquotient := ih (n / base) (Nat.div_lt_self (by omega) hb)
      have hremainder := (hs (n % base) (Nat.mod_lt n (by omega))).2
      rw [Nat.toDigits_of_base_le hb hn, List.map_append, List.map_singleton,
        digitsValue_append_singleton, hquotient, hremainder]
      exact Nat.div_add_mod' n base

/-- A number is read back from its digits, with zeros in front or without. -/
theorem number?_padStart_toDigits (hb : 1 < base) (hs : Spells base spell) (width n : Nat) :
    number? base (padStart width '0' ((Nat.toDigits base n).map spell)) = some n := by
  obtain ⟨hdigits, hvalue⟩ := digits_toDigits hb hs n
  have hzero : isDigitOf base '0' = true := decide_eq_true (Nat.lt_trans Nat.zero_lt_one hb)
  have hne : padStart width '0' ((Nat.toDigits base n).map spell) ≠ [] := by
    rw [padStart, ne_eq, List.append_eq_nil_iff, List.map_eq_nil_iff]
    exact fun hnil => Nat.toDigits_ne_nil hnil.2
  have hall :
      ∀ c ∈ padStart width '0' ((Nat.toDigits base n).map spell), isDigitOf base c = true := by
    intro c hc
    rcases List.mem_append.mp hc with hc | hc
    · rw [List.eq_of_mem_replicate hc]
      exact hzero
    · exact hdigits c hc
  rw [number?, List.isEmpty_eq_false_iff.mpr hne, List.all_eq_true.mpr hall, digitsValue_padStart,
    hvalue]
  rfl

end

theorem number?_hex (width n : Nat) : number? 16 (hex width n).toList = some n := by
  rw [hex, String.toList_ofList]
  exact number?_padStart_toDigits (by decide) spells_hex width n

theorem number?_toString (n : Nat) : number? 10 (toString n).toList = some n := by
  have h := number?_padStart_toDigits (by decide) spells_decimal 0 n
  rw [List.map_id, padStart, Nat.zero_sub] at h
  rw [Nat.toString_eq_ofList_toDigits, String.toList_ofList]
  exact h

theorem isDigitOf_of_mem_hex {width n : Nat} {c : Char} (hc : c ∈ (hex width n).toList) :
    isDigitOf 16 c = true := by
  rw [hex, String.toList_ofList] at hc
  rcases List.mem_append.mp hc with hc | hc
  · rw [List.eq_of_mem_replicate hc]
    decide
  · exact (digits_toDigits (by decide) spells_hex n).1 c hc

def isCapitalDigit (c : Char) : Bool := ('0' ≤ c && c ≤ '9') || ('A' ≤ c && c ≤ 'F')

theorem isCapitalDigit_of_mem_hex {width n : Nat} {c : Char} (hc : c ∈ (hex width n).toList) :
    isCapitalDigit c = true := by
  have hdigits : ∀ d < 16, isCapitalDigit (Nat.digitChar d).toUpper = true := by decide
  rw [hex, String.toList_ofList, padStart, List.mem_append] at hc
  rcases hc with hc | hc
  · rw [List.eq_of_mem_replicate hc]
    decide
  · obtain ⟨digit, hdigit, rfl⟩ := List.mem_map.mp hc
    obtain ⟨d, hd, rfl⟩ := exists_of_mem_toDigits (by decide : 1 < 16) hdigit
    exact hdigits d hd

theorem le_length_hex (width n : Nat) : width ≤ (hex width n).toList.length := by
  rw [hex, String.toList_ofList, length_padStart]
  exact Nat.le_max_left _ _

/-- A word of 32 bits is written in exactly eight digits. -/
theorem length_hex {n : Nat} (hn : n < 4294967296) : (hex 8 n).length = 8 := by
  have hdigits : (Nat.toDigits 16 n).length ≤ 8 :=
    (Nat.length_toDigits_le_iff (by decide) (by decide)).mpr hn
  rw [hex, String.length_ofList, length_padStart, hexDigits, List.length_map]
  exact Nat.max_eq_left hdigits

/-- A number of base sixteen as it stands in an artifact, with its marker. -/
structure Numeral where
  spelling : String
  value : Nat
  deriving DecidableEq, Repr

namespace Numeral

def read? (cs : List Char) : Option Numeral :=
  ("0x".toList.isPrefixOf? cs).bind fun digits => (number? 16 digits).map fun value =>
    ⟨String.ofList cs, value⟩

def ofNat (n : Nat) : Numeral := ⟨"0x" ++ hex 8 n, n⟩

theorem read?_ofNat (n : Nat) : read? (ofNat n).spelling.toList = some (ofNat n) := by
  rw [read?, ofNat, String.toList_append, isPrefixOf?_append, Option.bind_some, number?_hex,
    Option.map_some, ← String.toList_append, String.ofList_toList]

theorem length_spelling_ofNat {n : Nat} (hn : n < 4294967296) : (ofNat n).spelling.length = 10 := by
  rw [ofNat, String.length_append, length_hex hn]
  rfl

theorem isAlphanum_of_mem_ofNat {n : Nat} {c : Char} (hc : c ∈ (ofNat n).spelling.toList) :
    c.isAlphanum = true := by
  rw [ofNat, String.toList_append] at hc
  rcases List.mem_append.mp hc with hc | hc
  · have hmarker : "0x".toList.all Char.isAlphanum = true := by decide
    exact List.all_eq_true.mp hmarker c hc
  · exact (Bool.and_eq_true_iff.mp (isDigitOf_of_mem_hex hc)).1

end Numeral

end Lexicon.Text
