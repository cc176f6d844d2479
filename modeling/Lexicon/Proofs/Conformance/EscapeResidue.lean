import Mathlib.Data.List.Infix
import Lexicon.Proofs.Conformance.EscapeSequence

/-! What the scanner leaves. Removing a sequence brings its two neighbours together, so a sequence
can come about that was not there before: one that had whole sequences between its bytes. This is
the only way, and a sequence with others between its bytes always comes about, because none of its
own bytes but the first can belong to another one. -/
namespace Lexicon.Conformance.Escape

open Text (Bytes)

/-- A byte that can stand in a sequence behind the first one. -/
def IsInner (b : UInt8) : Prop := 0x20 ≤ b.toNat ∧ b.toNat ≤ 0x7E

instance (b : UInt8) : Decidable (IsInner b) := inferInstanceAs (Decidable (_ ∧ _))

/-- A byte that begins no sequence. -/
def IsIdle (b : UInt8) : Prop := ∀ rest, ¬IsSequence (b :: rest)

/-- Whole sequences, one behind the other. -/
def IsGap (gap : Bytes) : Prop :=
  ∃ sequences : List Bytes, (∀ s ∈ sequences, IsSequence s) ∧ sequences.flatten = gap

/-- Bytes with whole sequences between them; between two neighbours there may be any number, or
none. -/
inductive Spread : Bytes → Bytes → Prop
  | last (b : UInt8) : Spread [b] [b]
  | next {b : UInt8} {gap text spread : Bytes} : IsGap gap → Spread text spread →
      Spread (b :: text) (b :: (gap ++ spread))

theorem IsTail.isInner {tail : Bytes} (h : IsTail tail) : ∀ b ∈ tail, IsInner b := by
  obtain ⟨parameters, intermediates, final, rfl, hp, hi, hf⟩ := h
  unfold IsInner
  intro b hb
  rw [List.mem_append, List.mem_append, List.mem_singleton] at hb
  rcases hb with (hb | hb) | rfl
  · have h := (isParameter_iff b).mp (hp b hb)
    omega
  · have h := (isIntermediate_iff b).mp (hi b hb)
    omega
  · have h := (isFinal_iff b).mp hf
    omega

/-- A sequence is two bytes, one byte or an introducer with a tail. -/
theorem IsSequence.cases_iff (s : Bytes) : IsSequence s ↔
    (∃ b, isShort b = true ∧ s = [escape, b]) ∨ (∃ b, isSingle b = true ∧ s = [b]) ∨
      ∃ introducer ∈ introducers, ∃ tail, IsTail tail ∧ s = introducer ++ tail := by
  constructor
  · intro h
    cases h with
    | short hb => exact .inl ⟨_, hb, rfl⟩
    | single hb => exact .inr (.inl ⟨_, hb, rfl⟩)
    | @control introducer parameters intermediates final hintroducer hp hi hf =>
      refine .inr (.inr ⟨introducer, hintroducer, _, ⟨_, _, _, rfl, hp, hi, hf⟩, ?_⟩)
      rw [List.append_assoc introducer, List.append_assoc introducer]
  · rintro (⟨b, hb, rfl⟩ | ⟨b, hb, rfl⟩ | ⟨introducer, hintroducer, tail, htail, rfl⟩)
    · exact .short hb
    · exact .single hb
    · exact htail.isSequence hintroducer

/-- Only the escape byte and bytes from `0x80` to `0x9F` begin a sequence, and no such byte stands
further back in one. -/
theorem IsSequence.bytes {b : UInt8} {rest : Bytes} (h : IsSequence (b :: rest)) :
    (b = escape ∨ (0x80 ≤ b.toNat ∧ b.toNat ≤ 0x9F)) ∧ ∀ c ∈ rest, IsInner c := by
  rcases (cases_iff _).mp h with ⟨c, hc, heq⟩ | ⟨c, hc, heq⟩ |
    ⟨introducer, hintroducer, tail, htail, heq⟩
  · obtain ⟨rfl, rfl⟩ := List.cons.inj heq
    refine ⟨.inl rfl, fun d hd => ?_⟩
    rw [List.mem_singleton.mp hd]
    have hc := (isShort_iff c).mp hc
    unfold IsInner
    omega
  · obtain ⟨rfl, rfl⟩ := List.cons.inj heq
    have hb := (isSingle_iff b).mp hc
    exact ⟨.inr (by omega), nofun⟩
  · simp only [introducers, List.mem_cons, List.not_mem_nil, or_false] at hintroducer
    rcases hintroducer with rfl | rfl
    · obtain ⟨rfl, rfl⟩ := List.cons.inj heq
      exact ⟨.inl rfl, List.forall_mem_cons.mpr ⟨by decide, htail.isInner⟩⟩
    · obtain ⟨rfl, rfl⟩ := List.cons.inj heq
      exact ⟨.inr (by decide), htail.isInner⟩

theorem isIdle_of_isInner {b : UInt8} (h : IsInner b) : IsIdle b := by
  intro rest hsequence
  obtain ⟨rfl | hb, -⟩ := hsequence.bytes
  · exact absurd h (by decide)
  · have hle := h.2
    omega

theorem isIdle_of_ascii {b : UInt8} (hne : b ≠ escape) (hlt : b.toNat < 0x80) : IsIdle b := by
  intro rest hsequence
  rcases hsequence.bytes.1 with heq | hle
  · exact hne heq
  · omega

theorem IsSequence.head_not_isInner {s : Bytes} (h : IsSequence s) (rest : Bytes) :
    ∀ c ∈ (s ++ rest).head?, ¬IsInner c := by
  obtain ⟨b, s, rfl⟩ := List.exists_cons_of_ne_nil h.ne_nil
  rintro c ⟨⟩ hinner
  exact isIdle_of_isInner hinner s h

/-- A sequence that has begun does not go on past a byte that is no inner one. -/
theorem IsSequence.prefix_of_prefix_append {s p q : Bytes} (h : IsSequence s) (hs : s <+: p ++ q)
    (hp : p ≠ []) (hq : ∀ c ∈ q.head?, ¬IsInner c) : s <+: p := by
  obtain ⟨b, rest, rfl⟩ := List.exists_cons_of_ne_nil h.ne_nil
  rcases List.prefix_or_prefix_of_prefix hs (List.prefix_append p q) with hsp | ⟨more, hmore⟩
  · exact hsp
  · cases more with
    | nil =>
      rw [List.append_nil] at hmore
      exact hmore ▸ List.prefix_refl p
    | cons c more =>
      -- the first byte of `q` would stand behind the first byte of the sequence
      rw [← hmore, List.prefix_append_right_inj] at hs
      obtain ⟨q', rfl⟩ := hs
      obtain ⟨b', p', rfl⟩ := List.exists_cons_of_ne_nil hp
      obtain ⟨rfl, hrest⟩ := List.cons.inj hmore
      have hc : c ∈ rest := by
        rw [← hrest]
        exact List.mem_append_right p' List.mem_cons_self
      exact absurd (h.bytes.2 c hc) (hq c rfl)

/-! ### Stripping in parts -/

theorem stripped_strip (bytes : Bytes) : Stripped bytes (strip bytes) :=
  (stripped_iff bytes _).mpr rfl

/-- Two texts are stripped apart from each other if the second one cannot go on with a sequence of
the first. -/
theorem Stripped.append {bytes out bytes' out' : Bytes} (h : Stripped bytes out)
    (h' : Stripped bytes' out') (hhead : ∀ c ∈ bytes'.head?, ¬IsInner c) :
    Stripped (bytes ++ bytes') (out ++ out') := by
  induction h with
  | nil => exact h'
  | remove hsequence _ ih =>
    rw [List.append_assoc]
    exact .remove hsequence ih
  | @keep b rest _ hkeep _ ih =>
    refine .keep (fun s hs hsequence => ?_) ih
    change s <+: b :: rest ++ bytes' at hs
    exact hkeep s (hsequence.prefix_of_prefix_append hs nofun hhead) hsequence

/-- What begins with a byte that is no inner one is stripped by itself. -/
theorem strip_append_of_head {bytes bytes' : Bytes} (h : ∀ c ∈ bytes'.head?, ¬IsInner c) :
    strip (bytes ++ bytes') = strip bytes ++ strip bytes' := by
  rw [← stripped_iff]
  exact (stripped_strip bytes).append (stripped_strip bytes') h

/-- A sequence is removed wherever it stands, whatever has begun in front of it. -/
theorem strip_append_sequence {s : Bytes} (h : IsSequence s) (before behind : Bytes) :
    strip (before ++ s ++ behind) = strip before ++ strip behind := by
  rw [List.append_assoc, strip_append_of_head (h.head_not_isInner behind), strip_append h]

theorem strip_gap_append {gap : Bytes} (h : IsGap gap) (rest : Bytes) :
    strip (gap ++ rest) = strip rest := by
  obtain ⟨sequences, hsequences, rfl⟩ := h
  induction sequences with
  | nil => rfl
  | cons s sequences ih =>
    obtain ⟨hs, hsequences⟩ := List.forall_mem_cons.mp hsequences
    rw [List.flatten_cons, List.append_assoc, strip_append hs, ih hsequences]

theorem strip_cons_of_none {b : UInt8} {rest : Bytes}
    (h : ∀ s, s <+: b :: rest → ¬IsSequence s) : strip (b :: rest) = b :: strip rest :=
  strip_cons ((sequenceLength?_eq_none_iff _).mpr h)

theorem strip_cons_of_isIdle {b : UInt8} (h : IsIdle b) (rest : Bytes) :
    strip (b :: rest) = b :: strip rest := by
  apply strip_cons_of_none
  rintro s hs hsequence
  obtain ⟨c, s', rfl⟩ := List.exists_cons_of_ne_nil hsequence.ne_nil
  obtain ⟨rfl, -⟩ := List.cons_prefix_cons.mp hs
  exact h s' hsequence

theorem Stripped.sublist {bytes out : Bytes} (h : Stripped bytes out) : out.Sublist bytes := by
  induction h with
  | nil => exact .slnil
  | @remove sequence _ _ _ _ ih => exact ih.trans (List.sublist_append_right sequence _)
  | keep _ _ ih => exact ih.cons_cons _

/-- The scanner changes nothing exactly if there is no sequence anywhere. -/
theorem strip_eq_self_iff (bytes : Bytes) :
    strip bytes = bytes ↔ ∀ s, IsSequence s → ¬s <:+: bytes := by
  constructor
  · rintro heq s hs ⟨before, behind, rfl⟩
    -- what stands before the sequence is stripped by itself, and the sequence is removed
    have hlength := congrArg List.length heq
    have hpos : 0 < s.length := List.length_pos_iff.mpr hs.ne_nil
    have hbefore := (stripped_strip before).sublist.length_le
    have hbehind := (stripped_strip behind).sublist.length_le
    rw [strip_append_sequence hs, List.length_append, List.length_append, List.length_append]
      at hlength
    omega
  · intro h
    -- a byte that begins no sequence is kept, and so are the ones behind it
    induction bytes with
    | nil => rw [strip]
    | cons b rest ih =>
      have hrest := ih fun s hs hin => h s hs (hin.trans (List.suffix_cons b rest).isInfix)
      rw [strip_cons_of_none fun s hs hsequence => h s hsequence hs.isInfix, hrest]

/-! ### What comes about -/

theorem Spread.ne_nil {text spread : Bytes} (h : Spread text spread) : text ≠ [] := by
  cases h <;> exact nofun

/-- Bytes at the start of what is left come from bytes that were spread, and no sequence began where
these did. -/
theorem Stripped.exists_gap_spread {bytes out : Bytes} (h : Stripped bytes out) :
    ∀ text, text ≠ [] → text <+: out →
      ∃ gap spread, IsGap gap ∧ Spread text spread ∧ ¬IsSequence spread ∧
        gap ++ spread <+: bytes := by
  induction h with
  | nil =>
    intro text hne htext
    exact absurd (List.prefix_nil.mp htext) hne
  | @remove sequence _ _ hsequence _ ih =>
    intro text hne htext
    obtain ⟨gap, spread, ⟨sequences, hall, rfl⟩, hspread, hnone, hstart⟩ := ih text hne htext
    -- a removed sequence joins the gap in front
    refine ⟨sequence ++ sequences.flatten, spread, ⟨sequence :: sequences, ?_, rfl⟩, hspread,
      hnone, ?_⟩
    · exact List.forall_mem_cons.mpr ⟨hsequence, hall⟩
    · rw [List.append_assoc]
      exact (List.prefix_append_right_inj sequence).mpr hstart
  | @keep b rest out hkeep _ ih =>
    intro text hne htext
    -- a kept byte begins the text, and the gap that the rest has found comes behind it
    have hgap : IsGap [] := ⟨[], nofun, rfl⟩
    obtain ⟨c, more, rfl⟩ := List.exists_cons_of_ne_nil hne
    obtain ⟨rfl, hmore⟩ := List.cons_prefix_cons.mp htext
    cases more with
    | nil =>
      have hstart : [c] <+: c :: rest := List.cons_prefix_cons.mpr ⟨rfl, List.nil_prefix⟩
      exact ⟨[], [c], hgap, .last c, hkeep _ hstart, hstart⟩
    | cons d more =>
      obtain ⟨gap, spread, hgap', hspread, -, hstart⟩ := ih (d :: more) nofun hmore
      have hstart' : c :: (gap ++ spread) <+: c :: rest := List.cons_prefix_cons.mpr ⟨rfl, hstart⟩
      exact ⟨[], _, hgap, .next hgap' hspread, hkeep _ hstart', hstart'⟩

/-- What stands in the outcome stood in the bytes, with whole sequences between its own. -/
theorem Stripped.exists_spread {bytes out text : Bytes} (h : Stripped bytes out) (hne : text ≠ [])
    (htext : text <:+: out) :
    ∃ spread, Spread text spread ∧ ¬IsSequence spread ∧ spread <:+: bytes := by
  induction h with
  | nil => exact absurd (List.infix_nil.mp htext) hne
  | remove _ _ ih =>
    obtain ⟨spread, hspread, hnone, hin⟩ := ih htext
    exact ⟨spread, hspread, hnone, hin.trans (List.suffix_append _ _).isInfix⟩
  | keep hkeep hrest ih =>
    rcases List.infix_cons_iff.mp htext with hstart | hin
    · obtain ⟨gap, spread, -, hspread, hnone, hin⟩ :=
        (Stripped.keep hkeep hrest).exists_gap_spread text hne hstart
      exact ⟨spread, hspread, hnone, (List.suffix_append gap spread).isInfix.trans hin.isInfix⟩
    · obtain ⟨spread, hspread, hnone, hin⟩ := ih hin
      exact ⟨spread, hspread, hnone, hin.trans (List.suffix_cons _ _).isInfix⟩

/-- Of a text that is spread, the scanner leaves the text, if no byte of it begins a sequence. -/
theorem Spread.prefix_strip {text spread : Bytes} (h : Spread text spread)
    (htext : ∀ b ∈ text, IsIdle b) (rest : Bytes) : text <+: strip (spread ++ rest) := by
  induction h with
  | last b =>
    rw [List.singleton_append, strip_cons_of_isIdle (htext b List.mem_cons_self)]
    exact List.cons_prefix_cons.mpr ⟨rfl, List.nil_prefix⟩
  | next hgap _ ih =>
    obtain ⟨hb, htext⟩ := List.forall_mem_cons.mp htext
    rw [List.cons_append, strip_cons_of_isIdle hb, List.append_assoc, strip_gap_append hgap]
    exact List.cons_prefix_cons.mpr ⟨rfl, ih htext⟩

/-- A spread text agrees with the text up to the first sequence in it. -/
theorem Spread.eq_or_departs {text spread : Bytes} (h : Spread text spread) :
    spread = text ∨ ∃ (p : Bytes) (c : UInt8) (rest : Bytes),
      spread = p ++ c :: rest ∧ p <+: text ∧ p ≠ [] ∧ p ≠ text ∧ ¬IsInner c := by
  induction h with
  | last b => exact .inl rfl
  | @next b gap text spread hgap hspread ih =>
    obtain ⟨_ | ⟨s, sequences⟩, hsequences, rfl⟩ := hgap
    · -- an empty gap changes nothing, so that the rest decides
      rw [List.flatten_nil, List.nil_append]
      rcases ih with rfl | ⟨p, c, rest, rfl, hp, -, hne, hc⟩
      · exact .inl rfl
      · refine .inr ⟨b :: p, c, rest, rfl, List.cons_prefix_cons.mpr ⟨rfl, hp⟩, nofun, ?_, hc⟩
        intro heq
        exact hne (List.cons.inj heq).2
    · -- a gap begins with a sequence, and that with a byte from outside of one
      have hs := hsequences s List.mem_cons_self
      obtain ⟨c, s, rfl⟩ := List.exists_cons_of_ne_nil hs.ne_nil
      refine .inr ⟨[b], c, s ++ sequences.flatten ++ spread, rfl, ?_, nofun, ?_, ?_⟩
      · exact List.cons_prefix_cons.mpr ⟨rfl, List.nil_prefix⟩
      · intro heq
        exact hspread.ne_nil (List.cons.inj heq).2.symm
      · exact fun hc => isIdle_of_isInner hc s hs

/-- A sequence that is spread is not begun anew where it begins. -/
theorem Spread.not_isSequence {s spread : Bytes} (h : Spread s spread) (hs : IsSequence s)
    (hne : spread ≠ s) (rest : Bytes) : ∀ s', s' <+: spread ++ rest → ¬IsSequence s' := by
  intro s' hs' hsequence
  rcases h.eq_or_departs with heq | ⟨p, c, behind, rfl, hp, hpne, hps, hc⟩
  · exact hne heq
  · rw [List.append_assoc] at hs'
    have hhead : ∀ d ∈ (c :: behind ++ rest).head?, ¬IsInner d := by
      rintro d ⟨⟩
      exact hc
    have hs'p := hsequence.prefix_of_prefix_append hs' hpne hhead
    -- one of two sequences would begin the other
    have heq : s' = s := hsequence.eq_of_prefix hs (hs'p.trans hp) (List.prefix_refl s)
    rw [heq] at hs'p
    exact hps (hp.eq_of_length (Nat.le_antisymm hp.length_le hs'p.length_le))

/-- A text is left behind if it was spread, if its first byte was kept, and if none of its bytes is
taken for a part of a sequence. -/
theorem Spread.infix_strip {b : UInt8} {text spread bytes : Bytes} (h : Spread (b :: text) spread)
    (hb : ¬IsInner b) (htext : ∀ c ∈ text, IsIdle c)
    (hkept : ∀ rest s, s <+: spread ++ rest → ¬IsSequence s) (hin : spread <:+: bytes) :
    b :: text <:+: strip bytes := by
  obtain ⟨before, behind, rfl⟩ := hin
  have hhead : ∀ c ∈ (spread ++ behind).head?, ¬IsInner c := by
    cases h <;> rintro c ⟨⟩ <;> exact hb
  -- the first byte is kept, and then whole sequences and idle bytes follow
  have hstart : b :: text <+: strip (spread ++ behind) := by
    have hfirst := hkept behind
    cases h with
    | last =>
      rw [List.singleton_append] at hfirst ⊢
      rw [strip_cons_of_none hfirst]
      exact List.cons_prefix_cons.mpr ⟨rfl, List.nil_prefix⟩
    | next hgap hspread =>
      rw [List.cons_append] at hfirst ⊢
      rw [strip_cons_of_none hfirst, List.append_assoc, strip_gap_append hgap]
      exact List.cons_prefix_cons.mpr ⟨rfl, hspread.prefix_strip htext behind⟩
  rw [List.append_assoc, strip_append_of_head hhead]
  exact hstart.isInfix.trans (List.suffix_append _ _).isInfix

/-- A sequence comes about exactly where whole sequences stood between its bytes. -/
theorem infix_strip_iff {s : Bytes} (hs : IsSequence s) (bytes : Bytes) :
    s <:+: strip bytes ↔ ∃ spread, Spread s spread ∧ spread ≠ s ∧ spread <:+: bytes := by
  constructor
  · intro hin
    obtain ⟨spread, hspread, hnone, hin⟩ := (stripped_strip bytes).exists_spread hs.ne_nil hin
    refine ⟨spread, hspread, ?_, hin⟩
    rintro rfl
    exact hnone hs
  · rintro ⟨spread, hspread, hne, hin⟩
    obtain ⟨b, rest, rfl⟩ := List.exists_cons_of_ne_nil hs.ne_nil
    refine hspread.infix_strip ?_ ?_ (hspread.not_isSequence hs hne) hin
    · exact fun hb => isIdle_of_isInner hb rest hs
    · exact fun c hc => isIdle_of_isInner (hs.bytes.2 c hc)

/-- Two bytes that no sequence has are brought together exactly where nothing but sequences stood
between them. -/
theorem pair_infix_strip_iff {b c : UInt8} (hb : IsIdle b) (hinner : ¬IsInner b) (hc : IsIdle c)
    (bytes : Bytes) :
    [b, c] <:+: strip bytes ↔ ∃ spread, Spread [b, c] spread ∧ spread <:+: bytes := by
  constructor
  · intro hin
    obtain ⟨spread, hspread, -, hin⟩ :=
      (stripped_strip bytes).exists_spread (List.cons_ne_nil b [c]) hin
    exact ⟨spread, hspread, hin⟩
  · rintro ⟨spread, hspread, hin⟩
    refine hspread.infix_strip hinner (List.forall_mem_singleton.mpr hc) ?_ hin
    intro rest s hs hsequence
    obtain ⟨d, s, rfl⟩ := List.exists_cons_of_ne_nil hsequence.ne_nil
    cases hspread with
    | next =>
      obtain ⟨rfl, -⟩ := List.cons_prefix_cons.mp hs
      exact hb s hsequence

end Lexicon.Conformance.Escape
