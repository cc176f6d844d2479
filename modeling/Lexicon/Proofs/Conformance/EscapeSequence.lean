import Mathlib.Data.List.TakeDrop
import Mathlib.Data.List.TakeWhile
import Mathlib.Tactic.SplitIfs
import Lexicon.Conformance.Escape

namespace Lexicon.Conformance.Escape

open Text (Bytes)

/-- What is left of bytes once the sequences are removed, from left to right. -/
inductive Stripped : Bytes → Bytes → Prop
  | nil : Stripped [] []
  | remove {sequence rest out : Bytes} : IsSequence sequence → Stripped rest out →
      Stripped (sequence ++ rest) out
  | keep {b : UInt8} {rest out : Bytes} : (∀ sequence, sequence <+: b :: rest → ¬IsSequence sequence) →
      Stripped rest out → Stripped (b :: rest) (b :: out)

/-! ### The parts of a control sequence -/

theorem isParameter_iff (b : UInt8) : isParameter b = true ↔ 0x30 ≤ b.toNat ∧ b.toNat ≤ 0x3F := by
  simp only [isParameter, Bool.and_eq_true, decide_eq_true_eq, UInt8.le_iff_toNat_le,
    UInt8.reduceToNat]

theorem isIntermediate_iff (b : UInt8) :
    isIntermediate b = true ↔ 0x20 ≤ b.toNat ∧ b.toNat ≤ 0x2F := by
  simp only [isIntermediate, Bool.and_eq_true, decide_eq_true_eq, UInt8.le_iff_toNat_le,
    UInt8.reduceToNat]

theorem isFinal_iff (b : UInt8) : isFinal b = true ↔ 0x40 ≤ b.toNat ∧ b.toNat ≤ 0x7E := by
  simp only [isFinal, Bool.and_eq_true, decide_eq_true_eq, UInt8.le_iff_toNat_le,
    UInt8.reduceToNat]

theorem isShort_iff (b : UInt8) : isShort b = true ↔
    (0x40 ≤ b.toNat ∧ b.toNat ≤ 0x5A) ∨ (0x5C ≤ b.toNat ∧ b.toNat ≤ 0x5F) := by
  simp only [isShort, Bool.or_eq_true, Bool.and_eq_true, decide_eq_true_eq,
    UInt8.le_iff_toNat_le, UInt8.reduceToNat]

theorem isSingle_iff (b : UInt8) : isSingle b = true ↔
    (0x80 ≤ b.toNat ∧ b.toNat ≤ 0x9A) ∨ (0x9C ≤ b.toNat ∧ b.toNat ≤ 0x9F) := by
  simp only [isSingle, Bool.or_eq_true, Bool.and_eq_true, decide_eq_true_eq,
    UInt8.le_iff_toNat_le, UInt8.reduceToNat]

theorem isParameter_of_isIntermediate {b : UInt8} (h : isIntermediate b = true) :
    isParameter b = false := by
  rw [isIntermediate_iff] at h
  rw [Bool.eq_false_iff, ne_eq, isParameter_iff]
  omega

theorem isIntermediate_of_isParameter {b : UInt8} (h : isParameter b = true) :
    isIntermediate b = false := by
  rw [isParameter_iff] at h
  rw [Bool.eq_false_iff, ne_eq, isIntermediate_iff]
  omega

theorem isFinal_of_isParameter {b : UInt8} (h : isParameter b = true) : isFinal b = false := by
  rw [isParameter_iff] at h
  rw [Bool.eq_false_iff, ne_eq, isFinal_iff]
  omega

theorem isFinal_of_isIntermediate {b : UInt8} (h : isIntermediate b = true) :
    isFinal b = false := by
  rw [isIntermediate_iff] at h
  rw [Bool.eq_false_iff, ne_eq, isFinal_iff]
  omega

/-- What completes a control sequence behind its introducer. -/
def IsTail (tail : Bytes) : Prop :=
  ∃ (parameters intermediates : Bytes) (final : UInt8),
    tail = parameters ++ intermediates ++ [final] ∧ (∀ b ∈ parameters, isParameter b = true) ∧
      (∀ b ∈ intermediates, isIntermediate b = true) ∧ isFinal final = true

/-- The scanner finds the end of a control sequence, whatever stands behind it. -/
theorem controlLength?_append {tail : Bytes} (h : IsTail tail) (rest : Bytes) :
    controlLength? (tail ++ rest) = some tail.length := by
  obtain ⟨parameters, intermediates, final, rfl, hp, hi, hf⟩ := h
  -- the parameters end where an intermediate or the final byte stands, and the intermediates alike
  have hfinal : isIntermediate final = false := by
    rw [Bool.eq_false_iff]
    intro h
    rw [isFinal_of_isIntermediate h] at hf
    exact Bool.false_ne_true hf
  have hstop : (intermediates ++ final :: rest).takeWhile isParameter = [] ∧
      (intermediates ++ final :: rest).dropWhile isParameter = intermediates ++ final :: rest := by
    cases intermediates with
    | nil =>
      have hp : isParameter final = false := by
        rw [Bool.eq_false_iff]
        intro h
        rw [isFinal_of_isParameter h] at hf
        exact Bool.false_ne_true hf
      simp [hp]
    | cons b bs => simp [isParameter_of_isIntermediate (hi b List.mem_cons_self)]
  have hbytes : parameters ++ intermediates ++ [final] ++ rest =
      parameters ++ (intermediates ++ final :: rest) := by
    simp only [List.append_assoc, List.cons_append, List.nil_append]
  rw [hbytes, controlLength?, List.takeWhile_append_of_pos hp, List.dropWhile_append_of_pos hp,
    hstop.1, hstop.2, List.takeWhile_append_of_pos hi, List.dropWhile_append_of_pos hi,
    List.takeWhile_cons_of_neg (by rw [hfinal]; exact Bool.false_ne_true),
    List.dropWhile_cons_of_neg (by rw [hfinal]; exact Bool.false_ne_true)]
  simp [hf, Nat.add_assoc]

/-- What the scanner takes for the rest of a control sequence is one. -/
theorem exists_of_controlLength? {bytes : Bytes} {n : Nat} (h : controlLength? bytes = some n) :
    ∃ tail rest, bytes = tail ++ rest ∧ IsTail tail ∧ tail.length = n := by
  unfold controlLength? at h
  have hsplit : bytes = bytes.takeWhile isParameter ++
      ((bytes.dropWhile isParameter).takeWhile isIntermediate ++
        (bytes.dropWhile isParameter).dropWhile isIntermediate) := by
    rw [List.takeWhile_append_dropWhile, List.takeWhile_append_dropWhile]
  -- parameters, then intermediates, then one byte that has to be final
  dsimp only at h
  split at h
  · exact nomatch h
  · rename_i final rest hrest
    split at h
    · rename_i hfinal
      rw [hrest] at hsplit
      refine ⟨bytes.takeWhile isParameter ++
        (bytes.dropWhile isParameter).takeWhile isIntermediate ++ [final], rest, ?_,
        ⟨_, _, final, rfl, ?_, ?_, hfinal⟩, ?_⟩
      · rw [List.append_assoc, List.append_assoc, List.cons_append, List.nil_append]
        exact hsplit
      · exact fun b hb => List.mem_takeWhile_imp hb
      · exact fun b hb => List.mem_takeWhile_imp hb
      · rw [List.length_append, List.length_append, List.length_singleton]
        exact Option.some.inj h
    · exact nomatch h

/-! ### Sequences -/

theorem IsTail.isSequence {tail introducer : Bytes} (h : IsTail tail)
    (hintroducer : introducer ∈ introducers) : IsSequence (introducer ++ tail) := by
  obtain ⟨parameters, intermediates, final, rfl, hp, hi, hf⟩ := h
  rw [← List.append_assoc, ← List.append_assoc]
  exact .control hintroducer hp hi hf

/-- The scanner finds a sequence, whatever follows it. -/
theorem IsSequence.sequenceLength?_append {sequence : Bytes} (h : IsSequence sequence)
    (rest : Bytes) : sequenceLength? (sequence ++ rest) = some sequence.length := by
  cases h with
  | short h => simp [sequenceLength?, h]
  | @single b h =>
    have hescape : b ≠ escape := by
      rintro rfl
      exact absurd h (by decide)
    cases rest with
    | nil => simp [sequenceLength?, h]
    | cons c rest => simp [sequenceLength?, h, hescape]
  | @control introducer parameters intermediates final hintroducer hp hi hf =>
    have htail : IsTail (parameters ++ intermediates ++ [final]) := ⟨_, _, _, rfl, hp, hi, hf⟩
    have hlength := controlLength?_append htail rest
    rw [List.append_assoc introducer, List.append_assoc introducer]
    generalize parameters ++ intermediates ++ [final] = tail at htail hlength
    simp only [introducers, List.mem_cons, List.not_mem_nil, or_false] at hintroducer
    rcases hintroducer with rfl | rfl
    · have hshort : isShort 0x5B = false := by decide
      simp [sequenceLength?, hshort, hlength]
    · -- the introducer of one byte has something behind it, because the sequence is complete
      have hsingle : isSingle 0x9B = false := by decide
      have hescape : (0x9B : UInt8) ≠ escape := by decide
      cases hbytes : tail ++ rest with
      | nil =>
        rw [hbytes] at hlength
        exact nomatch hlength
      | cons c cs =>
        rw [hbytes] at hlength
        simp [sequenceLength?, hsingle, hescape, hbytes, hlength]

/-- What the scanner takes for a sequence is one. -/
theorem exists_of_sequenceLength? {bytes : Bytes} {n : Nat} (h : sequenceLength? bytes = some n) :
    ∃ sequence rest, bytes = sequence ++ rest ∧ IsSequence sequence ∧ sequence.length = n := by
  -- an escape byte decides with the byte behind it; any other byte decides alone
  match bytes with
  | [] => exact nomatch h
  | [b] =>
    simp only [sequenceLength?] at h
    split at h
    · exact ⟨[b], [], rfl, .single ‹_›, Option.some.inj h⟩
    · exact nomatch h
  | b :: c :: rest =>
    simp only [sequenceLength?] at h
    split_ifs at h with hescape hshort hbracket hsingle hintroducer
    · obtain rfl : b = escape := beq_iff_eq.mp hescape
      exact ⟨[escape, c], rest, rfl, .short hshort, Option.some.inj h⟩
    · obtain rfl : b = escape := beq_iff_eq.mp hescape
      obtain rfl : c = 0x5B := beq_iff_eq.mp hbracket
      obtain ⟨k, hk, rfl⟩ := Option.map_eq_some_iff.mp h
      obtain ⟨tail, rest, rfl, htail, rfl⟩ := exists_of_controlLength? hk
      exact ⟨[escape, 0x5B] ++ tail, rest, rfl, htail.isSequence (by decide), by simp⟩
    · exact ⟨[b], c :: rest, rfl, .single hsingle, Option.some.inj h⟩
    · obtain rfl : b = 0x9B := beq_iff_eq.mp hintroducer
      obtain ⟨k, hk, rfl⟩ := Option.map_eq_some_iff.mp h
      obtain ⟨tail, rest', hbytes, htail, rfl⟩ := exists_of_controlLength? hk
      refine ⟨[0x9B] ++ tail, rest', ?_, htail.isSequence (by decide), by simp⟩
      rw [hbytes, List.append_assoc, List.singleton_append]

/-- No sequence begins another one. -/
theorem IsSequence.eq_of_prefix {s s' bytes : Bytes} (h : IsSequence s) (h' : IsSequence s')
    (hs : s <+: bytes) (hs' : s' <+: bytes) : s = s' := by
  obtain ⟨rest, hrest⟩ := hs
  obtain ⟨rest', hrest'⟩ := hs'
  -- the scanner finds the same length for both
  have hlength := h.sequenceLength?_append rest
  rw [hrest, ← hrest', h'.sequenceLength?_append rest', Option.some.injEq] at hlength
  exact (List.append_inj (hrest.trans hrest'.symm) hlength.symm).1

theorem sequenceLength?_eq_none_iff (bytes : Bytes) : sequenceLength? bytes = none ↔
    ∀ sequence, sequence <+: bytes → ¬IsSequence sequence := by
  constructor
  · rintro hnone sequence ⟨rest, rfl⟩ h
    rw [h.sequenceLength?_append] at hnone
    exact nomatch hnone
  · intro h
    rw [Option.eq_none_iff_forall_ne_some]
    intro n hn
    obtain ⟨sequence, rest, rfl, hsequence, -⟩ := exists_of_sequenceLength? hn
    exact h sequence (List.prefix_append _ _) hsequence

theorem IsSequence.ne_nil {sequence : Bytes} (h : IsSequence sequence) : sequence ≠ [] := by
  rintro rfl
  have hlength := h.sequenceLength?_append []
  exact nomatch hlength

/-! ### The scanner -/

theorem strip_append {sequence : Bytes} (h : IsSequence sequence) (rest : Bytes) :
    strip (sequence ++ rest) = strip rest := by
  obtain ⟨b, bs, rfl⟩ := List.exists_cons_of_ne_nil h.ne_nil
  have hlength := h.sequenceLength?_append rest
  rw [List.cons_append] at hlength ⊢
  rw [strip, hlength]
  simp

theorem strip_cons {b : UInt8} {rest : Bytes} (h : sequenceLength? (b :: rest) = none) :
    strip (b :: rest) = b :: strip rest := by
  rw [strip, h]

/-- The scanner leaves what is left of the bytes, and nothing else can be left. -/
theorem stripped_iff (bytes out : Bytes) : Stripped bytes out ↔ strip bytes = out := by
  constructor
  · intro h
    induction h with
    | nil => rw [strip]
    | remove hsequence _ ih => rw [strip_append hsequence, ih]
    | keep hkeep _ ih => rw [strip_cons ((sequenceLength?_eq_none_iff _).mpr hkeep), ih]
  · rintro rfl
    -- the rest to be scanned becomes shorter with every step
    induction hn : bytes.length using Nat.strongRecOn generalizing bytes with
    | _ n ih =>
      cases bytes with
      | nil =>
        rw [strip]
        exact .nil
      | cons b rest =>
        cases hlength : sequenceLength? (b :: rest) with
        | none =>
          rw [strip_cons hlength]
          have hrest : rest.length < n := by
            rw [← hn, List.length_cons]
            omega
          exact .keep ((sequenceLength?_eq_none_iff _).mp hlength) (ih _ hrest rest rfl)
        | some k =>
          obtain ⟨sequence, rest', hbytes, hsequence, -⟩ := exists_of_sequenceLength? hlength
          have hpos : 0 < sequence.length := List.length_pos_iff.mpr hsequence.ne_nil
          have hrest : rest'.length < n := by
            rw [← hn, hbytes, List.length_append]
            omega
          rw [hbytes, strip_append hsequence]
          exact .remove hsequence (ih _ hrest rest' rfl)

/-- An introducer is kept where its sequence is unfinished or ill-formed. -/
theorem strip_introducer_append {introducer rest : Bytes} (h : introducer ∈ introducers)
    (hnone : ∀ sequence, sequence <+: introducer ++ rest → ¬IsSequence sequence) :
    strip (introducer ++ rest) = introducer ++ strip rest := by
  have hlength := (sequenceLength?_eq_none_iff _).mpr hnone
  simp only [introducers, List.mem_cons, List.not_mem_nil, or_false] at h
  rcases h with rfl | rfl
  · -- behind the escape byte, the bracket begins no sequence either
    have hbracket : sequenceLength? (0x5B :: rest) = none := by
      have hescape : (0x5B : UInt8) ≠ escape := by decide
      have hsingle : isSingle 0x5B = false := by decide
      cases rest <;> simp [sequenceLength?, hescape, hsingle]
    have hkept : strip (escape :: 0x5B :: rest) = escape :: strip (0x5B :: rest) :=
      strip_cons hlength
    rw [strip_cons hbracket] at hkept
    exact hkept
  · exact strip_cons hlength

end Lexicon.Conformance.Escape
