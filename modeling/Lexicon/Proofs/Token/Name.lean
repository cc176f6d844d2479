import Mathlib.Data.List.Forall2
import Mathlib.Tactic.SplitIfs
import Lexicon.Text.Bytes
import Lexicon.Token.Definition

namespace Lexicon

def NameChar (c : Char) : Prop :=
  ('a' ≤ c ∧ c ≤ 'z') ∨ ('A' ≤ c ∧ c ≤ 'Z') ∨ ('0' ≤ c ∧ c ≤ '9') ∨ c = '_'

/-- What a short name has to look like, because it becomes part of an identifier. -/
def WellFormedName (name : String) : Prop := name ≠ "" ∧ ∀ c ∈ name.toList, NameChar c

/-- Two names that differ at most in the case of ASCII letters. -/
def SameIgnoringCase (a b : String) : Prop := a.toList.map Char.toLower = b.toList.map Char.toLower

instance (c : Char) : Decidable (NameChar c) := inferInstanceAs (Decidable (_ ∨ _))

instance (a b : String) : Decidable (SameIgnoringCase a b) := inferInstanceAs (Decidable (_ = _))

theorem isNameChar_iff (c : Char) : isNameChar c = true ↔ NameChar c := by
  have hupper : c.isUpper = true ↔ 'A' ≤ c ∧ c ≤ 'Z' := decide_eq_true_iff
  have hlower : c.isLower = true ↔ 'a' ≤ c ∧ c ≤ 'z' :=
    Bool.and_eq_true_iff.trans (and_congr decide_eq_true_iff decide_eq_true_iff)
  have hdigit : c.isDigit = true ↔ '0' ≤ c ∧ c ≤ '9' := Char.isDigit_iff_toNat
  change (((c.isUpper || c.isLower) || c.isDigit) || c == '_') = true ↔ _
  rw [Bool.or_eq_true, Bool.or_eq_true, Bool.or_eq_true, hupper, hlower, hdigit, beq_iff_eq]
  -- the test asks for capital letters first
  rw [or_assoc, or_assoc, or_left_comm]
  exact Iff.rfl

theorem isWellFormedName_iff (name : String) :
    isWellFormedName name = true ↔ WellFormedName name := by
  have he : (!name.isEmpty) = true ↔ name ≠ "" := by
    rw [Bool.not_eq_true', Bool.eq_false_iff, ne_eq, ne_eq, String.isEmpty_iff]
  simp only [isWellFormedName, WellFormedName, Bool.and_eq_true, he, List.all_eq_true,
    isNameChar_iff]

instance (name : String) : Decidable (WellFormedName name) :=
  decidable_of_iff _ (isWellFormedName_iff name)

theorem SameIgnoringCase.refl (a : String) : SameIgnoringCase a a := rfl

theorem SameIgnoringCase.symm {a b : String} (h : SameIgnoringCase a b) : SameIgnoringCase b a :=
  Eq.symm h

theorem SameIgnoringCase.trans {a b c : String} (h : SameIgnoringCase a b)
    (h' : SameIgnoringCase b c) :
    SameIgnoringCase a c := Eq.trans h h'

/-- Only ASCII letters change case. -/
theorem toNat_toUpper (c : Char) :
    c.toUpper.toNat = if 97 ≤ c.toNat ∧ c.toNat ≤ 122 then c.toNat - 32 else c.toNat := by
  have hc : ('a'.val ≤ c.val ∧ c.val ≤ 'z'.val) ↔ 97 ≤ c.toNat ∧ c.toNat ≤ 122 := Iff.rfl
  unfold Char.toUpper
  by_cases h : 97 ≤ c.toNat ∧ c.toNat ≤ 122
  · have hn : c.val.toNat = c.toNat := rfl
    have hs : ('A'.val - 'a'.val).toNat = 4294967264 := rfl
    rw [dif_pos (hc.2 h), if_pos h]
    change (c.val + ('A'.val - 'a'.val)).toNat = c.toNat - 32
    rw [UInt32.toNat_add, hn, hs]
    omega
  · rw [dif_neg (fun h' => h (hc.1 h')), if_neg h]

theorem toNat_toLower (c : Char) :
    c.toLower.toNat = if 65 ≤ c.toNat ∧ c.toNat ≤ 90 then c.toNat + 32 else c.toNat := by
  have hc : ('A'.val ≤ c.val ∧ c.val ≤ 'Z'.val) ↔ 65 ≤ c.toNat ∧ c.toNat ≤ 90 := Iff.rfl
  unfold Char.toLower
  by_cases h : 65 ≤ c.toNat ∧ c.toNat ≤ 90
  · have hn : c.val.toNat = c.toNat := rfl
    have hs : ('a'.val - 'A'.val).toNat = 32 := rfl
    rw [dif_pos (hc.2 h), if_pos h]
    change (c.val + ('a'.val - 'A'.val)).toNat = c.toNat + 32
    rw [UInt32.toNat_add, hn, hs]
    omega
  · rw [dif_neg (fun h' => h (hc.1 h')), if_neg h]

theorem nameChar_iff_toNat (c : Char) : NameChar c ↔
    (97 ≤ c.toNat ∧ c.toNat ≤ 122) ∨ (65 ≤ c.toNat ∧ c.toNat ≤ 90) ∨
      (48 ≤ c.toNat ∧ c.toNat ≤ 57) ∨ c.toNat = 95 := by
  rw [NameChar, ← Char.toNat_inj]
  exact Iff.rfl

/-- Raising the case of characters tells the same characters apart as lowering it. -/
theorem toUpper_eq_iff_toLower_eq (c d : Char) : c.toUpper = d.toUpper ↔ c.toLower = d.toLower := by
  rw [← Char.toNat_inj, ← Char.toNat_inj, toNat_toUpper, toNat_toUpper, toNat_toLower,
    toNat_toLower]
  split_ifs <;> omega

theorem map_toUpper_eq_iff (cs ds : List Char) :
    cs.map Char.toUpper = ds.map Char.toUpper ↔ cs.map Char.toLower = ds.map Char.toLower := by
  induction cs generalizing ds with
  | nil =>
    rw [List.map_nil, List.map_nil, eq_comm, eq_comm (a := []), List.map_eq_nil_iff,
      List.map_eq_nil_iff]
  | cons c cs ih =>
    cases ds with
    | nil => simp
    | cons d ds => simp only [List.map_cons, List.cons.injEq, toUpper_eq_iff_toLower_eq, ih]

theorem constantName_eq_iff (a b : String) :
    constantName a = constantName b ↔ SameIgnoringCase a b := by
  unfold SameIgnoringCase constantName
  rw [← map_toUpper_eq_iff, ← String.toList_inj, String.toList_append, String.toList_append,
    List.append_cancel_left_eq, String.toList_map, String.toList_map]

theorem NameChar.toUpper {c : Char} (h : NameChar c) : NameChar c.toUpper := by
  rw [nameChar_iff_toNat] at h ⊢
  rw [toNat_toUpper]
  split_ifs <;> omega

theorem NameChar.utf8Size {c : Char} (h : NameChar c) : c.utf8Size = 1 := by
  rw [nameChar_iff_toNat] at h
  rw [Char.utf8Size_eq_one_iff, UInt32.le_iff_toNat_le]
  change c.toNat ≤ 127
  omega

/-- Names are ASCII: each character is one byte. -/
theorem WellFormedName.length_utf8 {name : String} (h : WellFormedName name) :
    (Text.utf8 name).length = name.length := by
  have hsizes : name.toList.map (fun c => (String.utf8EncodeChar c).length) =
      name.toList.map fun _ => 1 := by
    refine List.map_congr_left fun c hc => ?_
    rw [String.length_utf8EncodeChar, (h.2 c hc).utf8Size]
  rw [Text.utf8_eq_flatMap, List.length_flatMap, hsizes, List.map_const', List.sum_replicate_nat,
    Nat.mul_one, String.length_toList]

/-- A character that no name has. -/
theorem NameChar.ne {c d : Char} (h : NameChar c) (hd : ¬NameChar d) : c ≠ d :=
  fun he => hd (he ▸ h)

/-- The constant of a name is such a name itself. -/
theorem WellFormedName.constantName {name : String} (h : WellFormedName name) :
    WellFormedName (Lexicon.constantName name) := by
  have hstem : WellFormedName constantStem := by decide
  refine ⟨fun hempty => ?_, fun c hc => ?_⟩
  · rw [Lexicon.constantName, String.append_eq_empty_iff] at hempty
    exact absurd hempty.1 (by decide)
  · rw [Lexicon.constantName, String.toList_append, String.toList_map] at hc
    rcases List.mem_append.mp hc with hc | hc
    · exact hstem.2 c hc
    · obtain ⟨d, hd, rfl⟩ := List.mem_map.mp hc
      exact (h.2 d hd).toUpper

def Spaced (name label : String) : Prop :=
  List.Forall₂ (fun c b => (if c = '_' then ' ' else c) = b) name.toList label.toList

theorem spacedName_eq_iff (name label : String) : spacedName name = label ↔ Spaced name label := by
  have hspaced : (fun c : Char => if c == '_' then ' ' else c) = fun c => if c = '_' then ' ' else c :=
    funext fun c => by simp only [beq_iff_eq]
  rw [← String.toList_inj, spacedName, String.toList_map, Spaced, ← List.forall₂_map_left_iff,
    List.forall₂_eq_eq_eq, hspaced]

/-- The label of a definition in diagnostics: its own, the short name marked as a keyword, or the
short name with blanks. -/
inductive Definition.HasLabel (d : Definition) : String → Prop
  | own (label : String) (h : d.display = some label) : d.HasLabel label
  | keyword (h : d.display = none) (hkeyword : d.category = .keyword) :
    d.HasLabel (d.name ++ " keyword")
  | spaced (label : String) (h : d.display = none) (hother : d.category ≠ .keyword)
    (hspaced : Spaced d.name label) : d.HasLabel label

namespace Definition

theorem hasLabel_displayName (d : Definition) : d.HasLabel d.displayName := by
  rw [displayName]
  cases hdisplay : d.display with
  | some label => exact .own label hdisplay
  | none =>
    rw [Option.getD_none]
    split_ifs with hkeyword
    · exact .keyword hdisplay (beq_iff_eq.mp hkeyword)
    · have hother : d.category ≠ .keyword := fun h => hkeyword (beq_iff_eq.mpr h)
      exact .spaced _ hdisplay hother ((spacedName_eq_iff _ _).mp rfl)

/-- The label of a definition is the one that its parts ask for. -/
theorem displayName_eq_iff (d : Definition) (label : String) :
    d.displayName = label ↔ d.HasLabel label := by
  refine ⟨fun h => h ▸ d.hasLabel_displayName, fun h => ?_⟩
  rw [displayName]
  cases h with
  | own _ h => rw [h, Option.getD_some]
  | keyword h hkeyword =>
    have hkeyword : d.isKeyword = true := beq_iff_eq.mpr hkeyword
    rw [h, Option.getD_none, if_pos hkeyword]
  | spaced _ h hother hspaced =>
    have hkeyword : ¬d.isKeyword = true := fun hkeyword => hother (beq_iff_eq.mp hkeyword)
    rw [h, Option.getD_none, if_neg hkeyword]
    exact (spacedName_eq_iff _ _).mpr hspaced

end Definition

end Lexicon
