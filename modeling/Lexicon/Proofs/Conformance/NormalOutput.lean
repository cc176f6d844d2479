import Lexicon.Conformance.Output
import Lexicon.Proofs.Conformance.EscapeResidue

namespace Lexicon.Conformance

open Text (Bytes)

def lineBreakPair : Bytes := [13, 10]

/-- Nothing is left to normalise. -/
structure Normal (output : Bytes) : Prop where
  lineBreaks : ¬lineBreakPair <:+: output
  sequences : ∀ s, Escape.IsSequence s → ¬s <:+: output

/-! ### Line breaks -/

theorem lineBreakPair_prefix_cons_iff (b : UInt8) (rest : Bytes) :
    lineBreakPair <+: b :: rest ↔ b = 13 ∧ ∃ more, rest = 10 :: more := by
  rw [lineBreakPair, List.cons_prefix_cons, eq_comm]
  exact and_congr_right fun _ => ⟨fun ⟨more, h⟩ => ⟨more, h.symm⟩, fun ⟨more, h⟩ => ⟨more, h.symm⟩⟩

theorem not_lineBreakPair_prefix_lineFeed (rest : Bytes) : ¬lineBreakPair <+: 10 :: rest := by
  rw [lineBreakPair_prefix_cons_iff]
  exact fun h => absurd h.1 (by decide)

theorem foldLineBreaks_pair (rest : Bytes) :
    foldLineBreaks (13 :: 10 :: rest) = foldLineBreaks (10 :: rest) := by
  rw [foldLineBreaks, if_pos (by simp)]

theorem foldLineBreaks_cons {b : UInt8} {rest : Bytes} (h : ¬lineBreakPair <+: b :: rest) :
    foldLineBreaks (b :: rest) = b :: foldLineBreaks rest := by
  rw [foldLineBreaks, if_neg]
  intro hpair
  rw [Bool.and_eq_true, beq_iff_eq, beq_iff_eq, List.head?_eq_some_iff] at hpair
  exact h ((lineBreakPair_prefix_cons_iff b rest).mpr hpair)

theorem foldLineBreaks_sublist (bytes : Bytes) : (foldLineBreaks bytes).Sublist bytes := by
  induction bytes with
  | nil => exact .slnil
  | cons b rest ih =>
    rw [foldLineBreaks]
    split
    · exact ih.cons b
    · exact ih.cons_cons b

/-- Folding changes nothing exactly if there is no pair to fold. -/
theorem foldLineBreaks_eq_self_iff (bytes : Bytes) :
    foldLineBreaks bytes = bytes ↔ ¬lineBreakPair <:+: bytes := by
  induction bytes with
  | nil => exact iff_of_true rfl (by decide)
  | cons b rest ih =>
    rw [List.infix_cons_iff, not_or]
    by_cases hpair : lineBreakPair <+: b :: rest
    · -- a carriage return is gone, and nothing is put in its place
      refine iff_of_false (fun heq => ?_) (fun h => h.1 hpair)
      obtain ⟨rfl, more, rfl⟩ := (lineBreakPair_prefix_cons_iff b rest).mp hpair
      have hlength := (foldLineBreaks_sublist (10 :: more)).length_le
      rw [foldLineBreaks_pair] at heq
      rw [heq, List.length_cons] at hlength
      omega
    · rw [foldLineBreaks_cons hpair, List.cons.injEq, ih]
      simp only [true_and, hpair, not_false_eq_true]

theorem lineFeed_prefix_foldLineBreaks_iff (bytes : Bytes) :
    [10] <+: foldLineBreaks bytes ↔ [10] <+: bytes ∨ lineBreakPair <+: bytes := by
  cases bytes with
  | nil => decide
  | cons b rest =>
    by_cases hpair : lineBreakPair <+: b :: rest
    · refine iff_of_true ?_ (.inr hpair)
      obtain ⟨rfl, more, rfl⟩ := (lineBreakPair_prefix_cons_iff b rest).mp hpair
      rw [foldLineBreaks_pair, foldLineBreaks_cons (not_lineBreakPair_prefix_lineFeed more)]
      exact ⟨_, rfl⟩
    · rw [foldLineBreaks_cons hpair, List.cons_prefix_cons, List.cons_prefix_cons]
      simp only [List.nil_prefix, and_true, hpair, or_false]

/-- Folding leaves a pair where a further carriage return stood in front of one. -/
theorem pair_infix_foldLineBreaks_iff (bytes : Bytes) :
    lineBreakPair <:+: foldLineBreaks bytes ↔ 13 :: lineBreakPair <:+: bytes := by
  induction bytes with
  | nil => decide
  | cons b rest ih =>
    by_cases hpair : lineBreakPair <+: b :: rest
    · obtain ⟨rfl, more, rfl⟩ := (lineBreakPair_prefix_cons_iff b rest).mp hpair
      -- a pair that is folded begins no pair with a further carriage return
      have hfirst : ¬13 :: lineBreakPair <+: 13 :: 10 :: more :=
        fun h => not_lineBreakPair_prefix_lineFeed more (List.cons_prefix_cons.mp h).2
      rw [foldLineBreaks_pair, ih]
      exact ⟨fun h => List.infix_cons_iff.mpr (.inr h),
        fun h => (List.infix_cons_iff.mp h).resolve_left hfirst⟩
    · rw [foldLineBreaks_cons hpair, List.infix_cons_iff, List.infix_cons_iff, ih]
      -- behind a byte that is kept, a line feed is left by one that stood there or by a pair
      have hfirst : lineBreakPair <+: b :: foldLineBreaks rest ↔
          13 :: lineBreakPair <+: b :: rest := by
        have hfeed := lineFeed_prefix_foldLineBreaks_iff rest
        rw [lineBreakPair, List.cons_prefix_cons] at hpair ⊢
        rw [List.cons_prefix_cons, hfeed]
        constructor
        · rintro ⟨rfl, hfeed | hmore⟩
          · exact absurd ⟨rfl, hfeed⟩ hpair
          · exact ⟨rfl, hmore⟩
        · rintro ⟨rfl, hmore⟩
          exact ⟨rfl, .inr hmore⟩
      rw [hfirst]

/-! ### Normal output -/

/-- Neither byte of a line break is a part of an escape sequence. -/
theorem lineBreakPair_infix_strip_iff (bytes : Bytes) :
    lineBreakPair <:+: Escape.strip bytes ↔
      ∃ spread, Escape.Spread lineBreakPair spread ∧ spread <:+: bytes := by
  have hreturn : Escape.IsIdle 13 := Escape.isIdle_of_ascii (by decide) (by decide)
  have hfeed : Escape.IsIdle 10 := Escape.isIdle_of_ascii (by decide) (by decide)
  exact Escape.pair_infix_strip_iff hreturn (by decide) hfeed bytes

/-- Normalising leaves an output as it is exactly if nothing is left to normalise. -/
theorem normalizeOutput_eq_self_iff (output : Bytes) :
    normalizeOutput output [] = output ↔ Normal output := by
  change Escape.strip (foldLineBreaks output) = output ↔ _
  have hfold := foldLineBreaks_eq_self_iff output
  have hstrip := Escape.strip_eq_self_iff output
  constructor
  · intro heq
    -- neither step can put back what the other one takes away
    have hsublist := (Escape.stripped_strip (foldLineBreaks output)).sublist
    rw [heq] at hsublist
    have hsame := (foldLineBreaks_sublist output).antisymm hsublist
    rw [hsame] at heq
    exact ⟨hfold.mp hsame, hstrip.mp heq⟩
  · intro h
    rw [hfold.mpr h.lineBreaks, hstrip.mpr h.sequences]

theorem normalizeOutput_sublist (output : Bytes) : (normalizeOutput output []).Sublist output :=
  (Escape.stripped_strip (foldLineBreaks output)).sublist.trans (foldLineBreaks_sublist output)

/-- An output is found in what is left of it only if all of it is left. -/
theorem infix_normalizeOutput_self_iff (output : Bytes) :
    output <:+: normalizeOutput output [] ↔ normalizeOutput output [] = output := by
  constructor
  · intro hin
    have hlength := Nat.le_antisymm hin.length_le (normalizeOutput_sublist output).length_le
    exact (hin.eq_of_length hlength).symm
  · intro heq
    rw [heq]

/-- In a normalised output, a carriage return stands in front of a line feed exactly where nothing
but escape sequences stood between them in the folded streams, and an escape sequence stands exactly
where whole sequences stood between its bytes. Normalising again changes nothing exactly if there is
neither. -/
theorem normalizeOutput_normal_iff (stdout stderr : Bytes) :
    (∀ bytes, lineBreakPair <:+: foldLineBreaks bytes ↔ 13 :: lineBreakPair <:+: bytes) ∧
    (lineBreakPair <:+: normalizeOutput stdout stderr ↔
      ∃ spread, Escape.Spread lineBreakPair spread ∧
        spread <:+: foldLineBreaks stderr ++ foldLineBreaks stdout) ∧
    (∀ s, Escape.IsSequence s → (s <:+: normalizeOutput stdout stderr ↔
      ∃ spread, Escape.Spread s spread ∧ spread ≠ s ∧
        spread <:+: foldLineBreaks stderr ++ foldLineBreaks stdout)) ∧
    (normalizeOutput (normalizeOutput stdout stderr) [] = normalizeOutput stdout stderr ↔
      Normal (normalizeOutput stdout stderr)) :=
  ⟨pair_infix_foldLineBreaks_iff, lineBreakPair_infix_strip_iff _,
    fun _ hs => Escape.infix_strip_iff hs _, normalizeOutput_eq_self_iff _⟩

/-- Two carriage returns in front of a line feed, and a reset with another one in it. -/
def nestedOutput : Bytes := [13, 13, 10, 0x1B, 0x1B, 0x5B, 0x30, 0x6D, 0x5B, 0x30, 0x6D]

/-- A line break of two bytes and an escape sequence are left, which a second time are gone. -/
theorem nestedOutput_not_normal :
    lineBreakPair <:+: normalizeOutput nestedOutput [] ∧
      (∃ s, Escape.IsSequence s ∧ s <:+: normalizeOutput nestedOutput []) ∧
      normalizeOutput (normalizeOutput nestedOutput []) [] = [10] ∧
      normalizeOutput nestedOutput [] ≠ [10] := by
  have hout : normalizeOutput nestedOutput [] = [13, 10, 0x1B, 0x5B, 0x30, 0x6D] := by cbv
  have hagain : normalizeOutput [13, 10, 0x1B, 0x5B, 0x30, 0x6D] [] = [10] := by cbv
  have htail : Escape.IsTail [0x30, 0x6D] :=
    ⟨[0x30], [], 0x6D, rfl, List.forall_mem_singleton.mpr (by decide), List.forall_mem_nil _,
      by decide⟩
  have hreset : Escape.IsSequence ([Escape.escape, 0x5B] ++ [0x30, 0x6D]) :=
    htail.isSequence (by decide)
  rw [hout]
  exact ⟨by decide, ⟨_, hreset, by decide⟩, hagain, by decide⟩

end Lexicon.Conformance
