import Mathlib.Data.List.Infix
import Lexicon.Text.Bytes

namespace Lexicon.Text

/-- The groups of six bits that stand behind the first byte of a character. -/
def sixBitGroups (c : Char) : List Nat :=
  if c.toNat ≤ 0x7F then []
  else if c.toNat ≤ 0x7FF then [c.toNat % 64]
  else if c.toNat ≤ 0xFFFF then [c.toNat / 64 % 64, c.toNat % 64]
  else [c.toNat / 4096 % 64, c.toNat / 64 % 64, c.toNat % 64]

def groupByte (g : Nat) : UInt8 := UInt8.ofNat (g + 0x80)

theorem lt_of_mem_sixBitGroups {c : Char} : ∀ g ∈ sixBitGroups c, g < 64 := by
  unfold sixBitGroups
  intro g hg
  split at hg
  · exact nomatch hg
  split at hg
  · rw [List.mem_singleton] at hg
    omega
  split at hg
  · simp only [List.mem_cons, List.not_mem_nil, or_false] at hg
    omega
  · simp only [List.mem_cons, List.not_mem_nil, or_false] at hg
    omega

theorem toNat_groupByte {g : Nat} (h : g < 64) : (groupByte g).toNat = g + 0x80 := by
  rw [groupByte, UInt8.toNat_ofNat']
  exact Nat.mod_eq_of_lt (by omega)

theorem utf8EncodeChar_eq (c : Char) : String.utf8EncodeChar c =
    if c.toNat ≤ 0x7F then [UInt8.ofNat c.toNat]
    else if c.toNat ≤ 0x7FF then
      [UInt8.ofNat (c.toNat / 64 % 32 + 0xC0), groupByte (c.toNat % 64)]
    else if c.toNat ≤ 0xFFFF then
      [UInt8.ofNat (c.toNat / 4096 % 16 + 0xE0), groupByte (c.toNat / 64 % 64),
        groupByte (c.toNat % 64)]
    else
      [UInt8.ofNat (c.toNat / 262144 % 8 + 0xF0), groupByte (c.toNat / 4096 % 64),
        groupByte (c.toNat / 64 % 64), groupByte (c.toNat % 64)] := rfl

/-- The first byte tells whether groups follow. -/
theorem utf8EncodeChar_cases (c : Char) :
    (c.toNat ≤ 0x7F ∧ sixBitGroups c = [] ∧ String.utf8EncodeChar c = [UInt8.ofNat c.toNat]) ∨
      (0x7F < c.toNat ∧ ∃ lead : UInt8, 0xC0 ≤ lead.toNat ∧
        String.utf8EncodeChar c = lead :: (sixBitGroups c).map groupByte) := by
  have hlead {n : Nat} (hlow : 0xC0 ≤ n) (hhigh : n < 256) : 0xC0 ≤ (UInt8.ofNat n).toNat := by
    rw [UInt8.toNat_ofNat', Nat.mod_eq_of_lt hhigh]
    exact hlow
  rw [utf8EncodeChar_eq, sixBitGroups]
  by_cases h1 : c.toNat ≤ 0x7F
  · exact .inl ⟨h1, if_pos h1, if_pos h1⟩
  refine .inr ⟨by omega, ?_⟩
  -- the number of groups is that of the further bytes, since both go by the same bounds
  rw [if_neg h1, if_neg h1]
  by_cases h2 : c.toNat ≤ 0x7FF
  · rw [if_pos h2, if_pos h2]
    exact ⟨_, hlead (by omega) (by omega), rfl⟩
  rw [if_neg h2, if_neg h2]
  by_cases h3 : c.toNat ≤ 0xFFFF
  · rw [if_pos h3, if_pos h3]
    exact ⟨_, hlead (by omega) (by omega), rfl⟩
  · rw [if_neg h3, if_neg h3]
    exact ⟨_, hlead (by omega) (by omega), rfl⟩

theorem groupByte_inj {g g' : Nat} (h : g < 64) (h' : g' < 64) :
    groupByte g = groupByte g' ↔ g = g' := by
  rw [← UInt8.toNat_inj, toNat_groupByte h, toNat_groupByte h', Nat.add_right_cancel_iff]

theorem le_of_mem_map_groupByte {c : Char} {b : UInt8}
    (hb : b ∈ (sixBitGroups c).map groupByte) : 0x80 ≤ b.toNat := by
  obtain ⟨g, hg, rfl⟩ := List.mem_map.mp hb
  rw [toNat_groupByte (lt_of_mem_sixBitGroups g hg)]
  omega

/-- Nothing but the character itself has an ASCII byte. -/
theorem mem_utf8EncodeChar_iff_toNat {b : UInt8} (hb : b.toNat ≤ 0x7F) (c : Char) :
    b ∈ String.utf8EncodeChar c ↔ c.toNat = b.toNat := by
  rcases utf8EncodeChar_cases c with ⟨hc, -, henc⟩ | ⟨hc, lead, hlead, henc⟩
  · have hnat : (UInt8.ofNat c.toNat).toNat = c.toNat := by
      rw [UInt8.toNat_ofNat']
      exact Nat.mod_eq_of_lt (by omega)
    rw [henc, List.mem_singleton, ← UInt8.toNat_inj, hnat, eq_comm]
  · rw [henc, List.mem_cons]
    refine iff_of_false ?_ (by omega)
    rintro (rfl | hgroup)
    · omega
    · have hle := le_of_mem_map_groupByte hgroup
      omega

/-- The bytes from `0x80` to `0xBF` are those of the groups. -/
theorem groupByte_mem_utf8EncodeChar_iff {g : Nat} (hg : g < 64) (c : Char) :
    groupByte g ∈ String.utf8EncodeChar c ↔ g ∈ sixBitGroups c := by
  have hnat := toNat_groupByte hg
  rcases utf8EncodeChar_cases c with ⟨hc, hgroups, henc⟩ | ⟨hc, lead, hlead, henc⟩
  · rw [henc, hgroups, List.mem_singleton]
    refine iff_of_false (fun heq => ?_) nofun
    have hle := congrArg UInt8.toNat heq
    rw [hnat, UInt8.toNat_ofNat', Nat.mod_eq_of_lt (by omega)] at hle
    omega
  · rw [henc, List.mem_cons, List.mem_map]
    constructor
    · rintro (rfl | ⟨g', hg', heq⟩)
      · omega
      · rw [(groupByte_inj (lt_of_mem_sixBitGroups g' hg') hg).mp heq] at hg'
        exact hg'
    · exact fun hmem => .inr ⟨g, hmem, rfl⟩

theorem le_of_mem_tail_utf8EncodeChar {c : Char} {b : UInt8}
    (hb : b ∈ (String.utf8EncodeChar c).tail) : 0x80 ≤ b.toNat := by
  rcases utf8EncodeChar_cases c with ⟨-, -, henc⟩ | ⟨-, lead, -, henc⟩
  · rw [henc] at hb
    exact nomatch hb
  · rw [henc] at hb
    exact le_of_mem_map_groupByte hb

/-- The last group of a character is its last byte, unless the character is ASCII. -/
theorem groupByte_suffix_iff {g : Nat} (hg : g < 64) (c : Char) :
    [groupByte g] <:+ String.utf8EncodeChar c ↔ (sixBitGroups c).getLast? = some g := by
  have hnat := toNat_groupByte hg
  -- an ASCII character has no groups, and its byte is no group byte
  rcases utf8EncodeChar_cases c with ⟨hc, hgroups, henc⟩ | ⟨hc, lead, hlead, henc⟩
  · rw [hgroups]
    refine iff_of_false (fun hsuffix => ?_) nofun
    have hmem : groupByte g ∈ String.utf8EncodeChar c := hsuffix.subset List.mem_cons_self
    rw [groupByte_mem_utf8EncodeChar_iff hg, hgroups] at hmem
    exact nomatch hmem
  · have hne : ¬[groupByte g] = lead :: (sixBitGroups c).map groupByte := by
      rintro heq
      rw [← (List.cons.inj heq).1] at hlead
      omega
    rw [henc, List.suffix_cons_iff, or_iff_right hne]
    constructor
    · rintro ⟨front, hfront⟩
      have hlast : ((sixBitGroups c).map groupByte).getLast? = some (groupByte g) :=
        List.getLast?_eq_some_iff.mpr ⟨front, hfront.symm⟩
      rw [List.getLast?_map, Option.map_eq_some_iff] at hlast
      obtain ⟨g', hg', heq⟩ := hlast
      have hmem := lt_of_mem_sixBitGroups g' (List.mem_of_getLast? hg')
      rw [← (groupByte_inj hmem hg).mp heq]
      exact hg'
    · intro hlast
      obtain ⟨front, hfront⟩ := List.getLast?_eq_some_iff.mp hlast
      rw [hfront, List.map_append]
      exact List.suffix_append _ _

/-- ASCII bytes at the start of a text are whole characters. -/
theorem exists_prefix_of_ascii {tail : Bytes} {cs : List Char} (htail : ∀ b ∈ tail, b.toNat ≤ 0x7F)
    (hstart : tail <+: cs.flatMap String.utf8EncodeChar) :
    ∃ ds, ds <+: cs ∧ ds.flatMap String.utf8EncodeChar = tail := by
  induction cs generalizing tail with
  | nil => exact ⟨[], List.nil_prefix, (List.prefix_nil.mp hstart).symm⟩
  | cons c cs ih =>
    cases tail with
    | nil => exact ⟨[], List.nil_prefix, rfl⟩
    | cons b tail =>
      obtain ⟨hb, htail⟩ := List.forall_mem_cons.mp htail
      rw [List.flatMap_cons] at hstart
      rcases utf8EncodeChar_cases c with ⟨-, -, henc⟩ | ⟨-, lead, hlead, henc⟩
      · rw [henc, List.singleton_append, List.cons_prefix_cons] at hstart
        obtain ⟨ds, hds, rfl⟩ := ih htail hstart.2
        refine ⟨c :: ds, List.cons_prefix_cons.mpr ⟨rfl, hds⟩, ?_⟩
        rw [List.flatMap_cons, henc, hstart.1, List.singleton_append]
      · rw [henc, List.cons_append, List.cons_prefix_cons] at hstart
        -- a lead byte is not ASCII
        rw [← hstart.1] at hlead
        omega

/-- Inside of one character, no ASCII byte stands behind another byte. -/
theorem eq_nil_of_infix_utf8EncodeChar {c : Char} {b : UInt8} {rest : Bytes}
    (h : b :: rest <:+: String.utf8EncodeChar c) (hrest : ∀ x ∈ rest, x.toNat ≤ 0x7F) :
    rest = [] := by
  cases rest with
  | nil => rfl
  | cons x rest =>
    have hlow := hrest x List.mem_cons_self
    have hmem : x ∈ (String.utf8EncodeChar c).tail := by
      obtain ⟨before, behind, heq⟩ := h
      rw [← heq]
      cases before <;> simp
    have hhigh := le_of_mem_tail_utf8EncodeChar hmem
    omega

section

variable {g : Nat} (hg : g < 64) {tail : Bytes} (hne : tail ≠ [])
  (htail : ∀ b ∈ tail, b.toNat ≤ 0x7F)
include hg hne htail

/-- A group byte with ASCII behind it ends a character, and characters of that ASCII stand behind
it. -/
theorem exists_of_infix_flatMap {cs : List Char}
    (hin : groupByte g :: tail <:+: cs.flatMap String.utf8EncodeChar) :
    ∃ c ds, (sixBitGroups c).getLast? = some g ∧ ds.flatMap String.utf8EncodeChar = tail ∧
      c :: ds <:+: cs := by
  induction cs with
  | nil => exact absurd (List.infix_nil.mp hin) (List.cons_ne_nil _ _)
  | cons c cs ih =>
    have hlater (hin : groupByte g :: tail <:+: cs.flatMap String.utf8EncodeChar) :
        ∃ c' ds, (sixBitGroups c').getLast? = some g ∧
          ds.flatMap String.utf8EncodeChar = tail ∧ c' :: ds <:+: c :: cs := by
      obtain ⟨c', ds, hlast, hds, hin⟩ := ih hin
      exact ⟨c', ds, hlast, hds, hin.trans (List.suffix_cons c cs).isInfix⟩
    -- the bytes lie in the first character, or behind it, or they begin in it and go on behind it
    rw [List.flatMap_cons, List.infix_append_iff] at hin
    rcases hin with hin | hin | ⟨front, back, heq, hfront, hback⟩
    · exact absurd (eq_nil_of_infix_utf8EncodeChar hin htail) hne
    · exact hlater hin
    · cases front with
      | nil => exact hlater (heq ▸ hback.isInfix)
      | cons b front =>
        obtain ⟨rfl, rfl⟩ := List.cons.inj heq
        obtain rfl : front = [] := eq_nil_of_infix_utf8EncodeChar hfront.isInfix
          fun x hx => htail x (List.mem_append_left back hx)
        obtain ⟨ds, hds, heq⟩ := exists_prefix_of_ascii htail hback
        refine ⟨c, ds, (groupByte_suffix_iff hg c).mp hfront, heq, ?_⟩
        exact (List.cons_prefix_cons.mpr ⟨rfl, hds⟩).isInfix

/-- The byte of a group with ASCII bytes behind it ends a character, and the ASCII bytes are the
characters that follow. -/
theorem group_infix_iff (cs : List Char) :
    groupByte g :: tail <:+: cs.flatMap String.utf8EncodeChar ↔
      ∃ c ds, (sixBitGroups c).getLast? = some g ∧ ds.flatMap String.utf8EncodeChar = tail ∧
        c :: ds <:+: cs := by
  refine ⟨exists_of_infix_flatMap hg hne htail, ?_⟩
  rintro ⟨c, ds, hlast, rfl, before, behind, rfl⟩
  obtain ⟨front, hfront⟩ := (groupByte_suffix_iff hg c).mpr hlast
  refine ⟨before.flatMap String.utf8EncodeChar ++ front, behind.flatMap String.utf8EncodeChar, ?_⟩
  rw [List.flatMap_append, List.flatMap_append, List.flatMap_cons, ← hfront]
  simp only [List.append_assoc, List.cons_append, List.nil_append]

end

end Lexicon.Text
