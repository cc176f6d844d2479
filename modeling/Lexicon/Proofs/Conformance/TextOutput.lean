import Lexicon.Proofs.Conformance.Manifest
import Lexicon.Proofs.Conformance.NormalOutput
import Lexicon.Proofs.Conformance.Run
import Lexicon.Proofs.Text.SixBitGroups

/-! Output that is text. Escape sequences are looked for among bytes, and the bytes of their
eight-bit forms also spell parts of characters. A character loses such a byte, or takes the text
behind it for a control sequence; the six-bit groups of its number tell which characters these
are. -/
namespace Lexicon.Conformance

open Text (Bytes sixBitGroups groupByte)

/-- A byte of the character is a sequence by itself. -/
def LosesByte (c : Char) : Prop := ∃ g ∈ sixBitGroups c, g < 32 ∧ g ≠ 27

/-- The last byte of the character introduces control sequences. -/
def IntroducesControl (c : Char) : Prop := (sixBitGroups c).getLast? = some 27

/-- No character loses a byte, and none has a text behind it that completes a control sequence. -/
structure Intact (s : String) : Prop where
  characters : ∀ c ∈ s.toList, ¬LosesByte c
  introducers : ∀ c ds, IntroducesControl c → c :: ds <:+: s.toList →
    ¬Escape.IsTail (ds.flatMap String.utf8EncodeChar)

/-! ### Sequences without an escape byte -/

theorem isSingle_iff_groupByte (b : UInt8) :
    Escape.isSingle b = true ↔ ∃ g, g < 32 ∧ g ≠ 27 ∧ groupByte g = b := by
  rw [Escape.isSingle_iff]
  constructor
  · intro h
    refine ⟨b.toNat - 0x80, by omega, by omega, ?_⟩
    rw [← UInt8.toNat_inj, Text.toNat_groupByte (by omega)]
    omega
  · rintro ⟨g, hg, hne, rfl⟩
    rw [Text.toNat_groupByte (by omega)]
    omega

/-- Without an escape byte, a sequence is the byte of a group, alone or with a tail. -/
theorem isSequence_iff_of_not_mem {sequence : Bytes} (h : Escape.escape ∉ sequence) :
    Escape.IsSequence sequence ↔
      (∃ g, g < 32 ∧ g ≠ 27 ∧ sequence = [groupByte g]) ∨
        ∃ tail, Escape.IsTail tail ∧ sequence = groupByte 27 :: tail := by
  rw [Escape.IsSequence.cases_iff]
  constructor
  · rintro (⟨b, -, rfl⟩ | ⟨b, hb, rfl⟩ | ⟨introducer, hintroducer, tail, htail, rfl⟩)
    · exact absurd List.mem_cons_self h
    · obtain ⟨g, hg, hne, rfl⟩ := (isSingle_iff_groupByte b).mp hb
      exact .inl ⟨g, hg, hne, rfl⟩
    · simp only [Escape.introducers, List.mem_cons, List.not_mem_nil, or_false] at hintroducer
      rcases hintroducer with rfl | rfl
      · exact absurd List.mem_cons_self h
      · exact .inr ⟨tail, htail, rfl⟩
  · rintro (⟨g, hg, hne, rfl⟩ | ⟨tail, htail, rfl⟩)
    · exact .inr (.inl ⟨_, (isSingle_iff_groupByte _).mpr ⟨g, hg, hne, rfl⟩, rfl⟩)
    · exact .inr (.inr ⟨[0x9B], by decide, tail, htail, rfl⟩)

theorem ascii_of_isTail {tail : Bytes} (h : Escape.IsTail tail) : ∀ b ∈ tail, b.toNat ≤ 0x7F := by
  intro b hb
  have hle := (h.isInner b hb).2
  omega

theorem ne_nil_of_isTail {tail : Bytes} (h : Escape.IsTail tail) : tail ≠ [] := by
  obtain ⟨parameters, intermediates, final, rfl, -⟩ := h
  exact List.append_ne_nil_of_right_ne_nil _ (List.cons_ne_nil _ _)

/-! ### Texts -/

theorem not_mem_utf8 {s : String} {b : UInt8} {c : Char} (hb : b.toNat ≤ 0x7F)
    (hc : c.toNat = b.toNat) (h : c ∉ s.toList) : b ∉ Text.utf8 s := by
  rw [Text.utf8_eq_flatMap, List.mem_flatMap]
  rintro ⟨d, hd, hmem⟩
  rw [Text.mem_utf8EncodeChar_iff_toNat hb, ← hc, Char.toNat_inj] at hmem
  exact h (hmem ▸ hd)

theorem groupByte_mem_utf8_iff {g : Nat} (hg : g < 64) (s : String) :
    groupByte g ∈ Text.utf8 s ↔ ∃ c ∈ s.toList, g ∈ sixBitGroups c := by
  rw [Text.utf8_eq_flatMap, List.mem_flatMap]
  exact exists_congr fun c => and_congr_right fun _ => Text.groupByte_mem_utf8EncodeChar_iff hg c

/-- The byte of an introducer ends a character, and a tail behind it is the text that follows. -/
theorem introducer_infix_utf8_iff {tail : Bytes} (htail : Escape.IsTail tail) (s : String) :
    groupByte 27 :: tail <:+: Text.utf8 s ↔ ∃ c ds, IntroducesControl c ∧
      ds.flatMap String.utf8EncodeChar = tail ∧ c :: ds <:+: s.toList := by
  rw [Text.utf8_eq_flatMap]
  exact Text.group_infix_iff (by decide) (ne_nil_of_isTail htail) (ascii_of_isTail htail) s.toList

/-- A text is normal by its characters. -/
theorem normal_utf8_iff {s : String} (hescape : '\x1B' ∉ s.toList) (hreturn : '\r' ∉ s.toList) :
    Normal (Text.utf8 s) ↔ Intact s := by
  constructor
  · intro h
    constructor
    case characters =>
      rintro c hc ⟨g, hg, hlt, hne⟩
      have hsequence : Escape.IsSequence [groupByte g] :=
        .single ((isSingle_iff_groupByte _).mpr ⟨g, hlt, hne, rfl⟩)
      have hmem : groupByte g ∈ Text.utf8 s :=
        (groupByte_mem_utf8_iff (by omega) s).mpr ⟨c, hc, hg⟩
      exact h.sequences _ hsequence ((List.singleton_infix_iff _ _).mpr hmem)
    case introducers =>
      intro c ds hc hin htail
      have hsequence : Escape.IsSequence ([0x9B] ++ ds.flatMap String.utf8EncodeChar) :=
        htail.isSequence (by decide)
      exact h.sequences _ hsequence ((introducer_infix_utf8_iff htail s).mpr ⟨c, ds, hc, rfl, hin⟩)
  · intro h
    have hnoEscape : Escape.escape ∉ Text.utf8 s := not_mem_utf8 (by decide) rfl hescape
    have hnoReturn : 13 ∉ Text.utf8 s := not_mem_utf8 (by decide) rfl hreturn
    constructor
    case lineBreaks => exact fun hin => hnoReturn (hin.subset List.mem_cons_self)
    case sequences =>
      intro sequence hsequence hin
      -- only the forms of eight bits are left, and their bytes are those of groups
      rw [isSequence_iff_of_not_mem fun hmem => hnoEscape (hin.subset hmem)] at hsequence
      rcases hsequence with ⟨g, hlt, hne, rfl⟩ | ⟨tail, htail, rfl⟩
      · have hmem : groupByte g ∈ Text.utf8 s := hin.subset List.mem_cons_self
        obtain ⟨c, hc, hg⟩ := (groupByte_mem_utf8_iff (by omega) s).mp hmem
        exact h.characters c hc ⟨g, hg, hlt, hne⟩
      · obtain ⟨c, ds, hc, rfl, hchars⟩ := (introducer_infix_utf8_iff htail s).mp hin
        exact h.introducers c ds hc hchars htail

theorem Case.outcomeOf_eq_passed_iff (c : Case) (command : String) (ending : Ending) :
    c.outcomeOf command (.ok ending) = .passed ↔
      c.check.accepts (normalizeOutput ending.stdout ending.stderr) = true ∧
        c.exit.accepts ending.code = true := by
  unfold outcomeOf mismatch?
  dsimp only
  cases c.check.accepts (normalizeOutput ending.stdout ending.stderr) <;>
    cases c.exit.accepts ending.code <;> simp

/-- A text without escape characters and carriage returns is left as it is exactly if it is intact,
and exactly then a case that looks for this text accepts a program that prints it and ends as
expected. -/
theorem normalizeOutput_utf8_iff {s : String} (hescape : '\x1B' ∉ s.toList)
    (hreturn : '\r' ∉ s.toList) :
    (normalizeOutput (Text.utf8 s) [] = Text.utf8 s ↔ Intact s) ∧
    Check.decoder.Reads (.object [("contains", .text s)]) (.contains (Text.utf8 s)) ∧
    ∀ (c : Case) (command : String) (code : Option Int32), c.check = .contains (Text.utf8 s) →
      c.exit.accepts code = true →
      (c.outcomeOf command (.ok ⟨Text.utf8 s, [], code⟩) = .passed ↔ Intact s) := by
  have hself : normalizeOutput (Text.utf8 s) [] = Text.utf8 s ↔ Intact s := by
    rw [normalizeOutput_eq_self_iff, normal_utf8_iff hescape hreturn]
  refine ⟨hself, (CheckForm.reads _ _ (.contains s)).2, ?_⟩
  intro c command code hcheck hcode
  rw [c.outcomeOf_eq_passed_iff, and_iff_left hcode, hcheck, Check.accepts_iff, ← hself]
  exact infix_normalizeOutput_self_iff (Text.utf8 s)

/-- A letter outside of ASCII is left, and so is one that ends with the byte of an introducer, at
the end of its line. -/
theorem normalizeOutput_utf8_accents : '\x1B' ∉ "é Û\n".toList ∧ '\r' ∉ "é Û\n".toList ∧
    normalizeOutput (Text.utf8 "é Û\n") [] = Text.utf8 "é Û\n" ∧ Intact "é Û\n" := by
  have hescape : '\x1B' ∉ "é Û\n".toList := by decide
  have hreturn : '\r' ∉ "é Û\n".toList := by decide
  have hout : normalizeOutput (Text.utf8 "é Û\n") [] = Text.utf8 "é Û\n" := by cbv
  exact ⟨hescape, hreturn, hout, (normalizeOutput_utf8_iff hescape hreturn).1.mp hout⟩

/-- A letter loses its second byte, although it is no control character, and is not found in the
output that consists of it. -/
theorem normalizeOutput_utf8_loses : '\x1B' ∉ "À".toList ∧ '\r' ∉ "À".toList ∧
    (∀ c ∈ "À".toList, ¬(0x80 ≤ c.toNat ∧ c.toNat ≤ 0x9F)) ∧
    normalizeOutput (Text.utf8 "À") [] ≠ Text.utf8 "À" ∧
    (Check.contains (Text.utf8 "À")).accepts (normalizeOutput (Text.utf8 "À") []) = false := by
  have hout : normalizeOutput (Text.utf8 "À") [] = [0xC3] := by cbv
  rw [hout]
  exact ⟨by decide, by decide, by simp, by decide, by decide⟩

end Lexicon.Conformance
