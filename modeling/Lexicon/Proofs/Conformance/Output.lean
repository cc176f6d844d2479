import Mathlib.Data.Set.Subsingleton
import Lexicon.Conformance.Output
import Lexicon.Proofs.Conformance.EscapePattern

namespace Lexicon.Conformance

open Text (Bytes)

/-- A byte is left out where it is a carriage return and the next one of the same stream is a line
feed. -/
theorem foldLineBreaks_eq (bytes : Bytes) : foldLineBreaks bytes =
    (List.range bytes.length).filterMap fun i =>
      if bytes[i]? = some 13 ∧ bytes[i + 1]? = some 10 then none else bytes[i]? := by
  induction bytes with
  | nil => rfl
  | cons b rest ih =>
    rw [foldLineBreaks, List.length_cons, List.range_succ_eq_map, List.filterMap_cons,
      List.filterMap_map, ih, List.head?_eq_getElem?]
    simp only [Function.comp_def, List.getElem?_cons_succ, List.getElem?_cons_zero,
      Option.some.injEq, Bool.and_eq_true, beq_iff_eq]
    split_ifs <;> rfl

/-- Removing the matches of the pattern from left to right is what the scanner does. At every place
the matches are the sequences that begin there, of which there is at most one, so that it is all the
same which match a search prefers. -/
theorem normalizeOutput_scans (stdout stderr : Bytes) :
    (∀ bytes, foldLineBreaks bytes =
      (List.range bytes.length).filterMap fun i =>
        if bytes[i]? = some 13 ∧ bytes[i + 1]? = some 10 then none else bytes[i]?) ∧
    (∀ out, normalizeOutput stdout stderr = out ↔
      Escape.Stripped (foldLineBreaks stderr ++ foldLineBreaks stdout) out) ∧
    (∃ pattern, Pattern.ofText Escape.patternText = .ok pattern ∧
      normalizeOutput stdout stderr = Pattern.removeFrom pattern.expression
        (foldLineBreaks stderr ++ foldLineBreaks stdout).toArray 0 ∧
      ∀ (bytes : Bytes) (i j : Nat), j ∈ Pattern.ends bytes.toArray pattern.expression i ↔
        ∃ sequence, Escape.IsSequence sequence ∧ sequence <+: bytes.drop i ∧
          j = i + sequence.length) ∧
    (∀ bytes : Bytes,
      {sequence | Escape.IsSequence sequence ∧ sequence <+: bytes}.Subsingleton) ∧
    (∀ introducer ∈ Escape.introducers, ∀ rest : Bytes,
      (∀ sequence, sequence <+: introducer ++ rest → ¬Escape.IsSequence sequence) →
        Escape.strip (introducer ++ rest) = introducer ++ Escape.strip rest) := by
  refine ⟨foldLineBreaks_eq, fun out => (Escape.stripped_iff _ out).symm,
    ⟨_, Escape.ofText_patternText, ?_, ?_⟩, ?_, ?_⟩
  · exact (Escape.removeFrom_patternExpression _ 0).symm
  · intro bytes i j
    rw [Escape.ends_patternExpression, Option.mem_toList, Option.map_eq_some_iff]
    constructor
    · rintro ⟨n, hn, rfl⟩
      obtain ⟨sequence, rest, hbytes, hsequence, rfl⟩ := Escape.exists_of_sequenceLength? hn
      exact ⟨sequence, hsequence, hbytes ▸ List.prefix_append _ _, rfl⟩
    · rintro ⟨sequence, hsequence, ⟨rest, hrest⟩, rfl⟩
      exact ⟨_, hrest ▸ hsequence.sequenceLength?_append rest, rfl⟩
  · rintro bytes s ⟨hs, hprefix⟩ s' ⟨hs', hprefix'⟩
    exact hs.eq_of_prefix hs' hprefix hprefix'
  · exact fun introducer h rest hnone => Escape.strip_introducer_append h hnone

end Lexicon.Conformance
