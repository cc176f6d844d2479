import Lexicon.Proofs.Conformance.EscapeSequence
import Lexicon.Proofs.Pattern.Bytewise
import Lexicon.Proofs.Pattern.Preference

/-! Escape sequences as a pattern. The pattern has at most one match at a place, the sequence that
begins there, so neither the order of its branches nor the preference of its repetitions matters,
and removing its matches is what the scanner does. -/
namespace Lexicon.Conformance.Escape

open Text (Bytes CodeRanges)
open Pattern

def patternText : String :=
  "(?-u)(?:\\x1B[@-Z\\\\-_]|[\\x80-\\x9A\\x9C-\\x9F]|(?:\\x1B\\[|\\x9B)[0-?]*[ -/]*[@-~])"

def tailParts : List Expression :=
  [.repeated 0 none true (.byte ⟨#[(0x30, 0x3F)]⟩), .repeated 0 none true (.byte ⟨#[(0x20, 0x2F)]⟩),
    .byte ⟨#[(0x40, 0x7E)]⟩]

def patternExpression : Expression := .choice [
  .sequence [.literal [escape], .byte ⟨#[(0x40, 0x5A), (0x5C, 0x5F)]⟩],
  .byte ⟨#[(0x80, 0x9A), (0x9C, 0x9F)]⟩,
  .sequence (.choice (introducers.map .literal) :: tailParts)]

/-! ### The three branches as they are written -/

def shortText : List Char :=
  ['\\', 'x', '1', 'B', '[', '@', '-', 'Z', '\\', '\\', '-', '_', ']']

def singleText : List Char :=
  ['[', '\\', 'x', '8', '0', '-', '\\', 'x', '9', 'A', '\\', 'x', '9', 'C', '-', '\\', 'x', '9', 'F',
    ']']

def controlText : List Char :=
  ['(', '?', ':', '\\', 'x', '1', 'B', '\\', '[', '|', '\\', 'x', '9', 'B', ')',
    '[', '0', '-', '?', ']', '*', '[', ' ', '-', '/', ']', '*', '[', '@', '-', '~', ']']

theorem readParts_shortText (fuel : Nat) (rest : List Char) :
    readParts (fuel + 3) [] (.bytewise (shortText ++ '|' :: rest)) =
      some ([⟨.byte ⟨#[(0x40, 0x5A), (0x5C, 0x5F)]⟩, 2, false⟩, ⟨.literal [escape], 0, false⟩],
        .bytewise ('|' :: rest)) := by
  have hclass (fuel : Nat) : readClass (fuel + 5) (.bytewise ('@' :: '-' :: 'Z' :: '\\' :: '\\' ::
      '-' :: '_' :: ']' :: '|' :: rest)) =
      some ((CodeRanges.empty.union ⟨#[(0x40, 0x5A)]⟩).union ⟨#[(0x5C, 0x5F)]⟩, 2,
        .bytewise ('|' :: rest)) := rfl
  have hescape (cs : List Char) : readParts (fuel + 3) [] (.bytewise ('\\' :: 'x' :: '1' :: 'B' ::
      cs)) = readParts (fuel + 2) [⟨.literal [escape], 0, false⟩] (.bytewise cs) := rfl
  rw [union_empty, union_of_gap (by decide) (by decide)] at hclass
  simp only [shortText, List.cons_append, List.nil_append]
  rw [hescape, readParts_class (fuel + 1) _ (by simp) hclass]
  rfl

theorem readParts_singleText (fuel : Nat) (rest : List Char) :
    readParts (fuel + 2) [] (.bytewise (singleText ++ '|' :: rest)) =
      some ([⟨.byte ⟨#[(0x80, 0x9A), (0x9C, 0x9F)]⟩, 2, false⟩], .bytewise ('|' :: rest)) := by
  have hfirst (cs : List Char) : readRange (.bytewise ('\\' :: 'x' :: '8' :: '0' :: '-' :: '\\' ::
      'x' :: '9' :: 'A' :: cs)) = some (⟨#[(0x80, 0x9A)]⟩, .bytewise cs) := rfl
  have hsecond (cs : List Char) : readRange (.bytewise ('\\' :: 'x' :: '9' :: 'C' :: '-' :: '\\' ::
      'x' :: '9' :: 'F' :: cs)) = some (⟨#[(0x9C, 0x9F)]⟩, .bytewise cs) := rfl
  simp only [singleText, List.cons_append, List.nil_append]
  rw [readParts_class (fuel + 1) _ (by simp)
    (readClass_escaped (hfirst _) (hsecond _) (by decide) (by decide))]
  rfl

theorem readParts_controlText (fuel : Nat) (rest : List Char) :
    readParts (fuel + 9) [] (.bytewise (controlText ++ ')' :: rest)) =
      some ([⟨.byte ⟨#[(0x40, 0x7E)]⟩, 1, false⟩,
        ⟨.repeated 0 none true (.byte ⟨#[(0x20, 0x2F)]⟩), 2, false⟩,
        ⟨.repeated 0 none true (.byte ⟨#[(0x30, 0x3F)]⟩), 2, false⟩,
        ⟨.choice (introducers.map .literal), 3, false⟩], .bytewise (')' :: rest)) := by
  have hescape (cs : List Char) : readParts (fuel + 7) [] (.bytewise ('\\' :: 'x' :: '1' :: 'B' ::
      '\\' :: '[' :: '|' :: cs)) =
      some ([⟨.literal [0x5B], 0, false⟩, ⟨.literal [escape], 0, false⟩],
        .bytewise ('|' :: cs)) := rfl
  have hsingle (cs : List Char) : readParts (fuel + 6) [] (.bytewise ('\\' :: 'x' :: '9' :: 'B' ::
      ')' :: cs)) = some ([⟨.literal [0x9B], 0, false⟩], .bytewise (')' :: cs)) := rfl
  have hgroup (cs : List Char) : readBranches (fuel + 8) [] (.bytewise ('\\' :: 'x' :: '1' :: 'B' ::
      '\\' :: '[' :: '|' :: '\\' :: 'x' :: '9' :: 'B' :: ')' :: cs)) =
      some ([(.literal [0x9B], 0), (.literal [escape, 0x5B], 1)], .bytewise (')' :: cs)) := by
    rw [readBranches_next [] (hescape _), readBranches_last _ (hsingle cs)]
    rfl
  have hjoin : joinBranches [(.literal [0x9B], 0), (.literal [escape, 0x5B], 1)] =
      (.choice (introducers.map .literal), 2) := rfl
  have hmark (cs : List Char) : ('[' :: cs).head? ≠ some '?' := by
    rw [List.head?_cons]
    decide
  simp only [controlText, List.cons_append, List.nil_append]
  -- the two introducers, the parameters, the intermediates and the final byte, in this order
  rw [readParts_group (fuel + 8) [] (hgroup _), hjoin, readParts_class (fuel + 7) _ (by simp)
    (readClass_range · _ (by decide) (by decide) (by decide) (by decide))]
  change readParts (fuel + 7) (⟨.byte ⟨#[(0x30, 0x3F)]⟩, 1, false⟩ :: _) _ = _
  rw [readParts_star (fuel + 5) _ _ _ (hmark _), readParts_class (fuel + 4) _ (by simp)
    (readClass_range · _ (by decide) (by decide) (by decide) (by decide))]
  change readParts (fuel + 4) (⟨.byte ⟨#[(0x20, 0x2F)]⟩, 1, false⟩ :: _) _ = _
  rw [readParts_star (fuel + 2) _ _ _ (hmark _), readParts_class (fuel + 1) _ (by simp)
    (readClass_range · _ (by decide) (by decide) (by decide) (by decide))]
  rfl

/-- The text of the pattern is read as an expression with its three branches. -/
theorem read?_patternText : read? patternText = some patternExpression := by
  have htext : patternText.toList = '(' :: '?' :: '-' :: 'u' :: ')' :: '(' :: '?' :: ':' ::
      (shortText ++ '|' :: (singleText ++ '|' :: (controlText ++ [')']))) := by decide
  -- behind the switch stands a group of three branches
  have hgroup (fuel : Nat) : readBranches (fuel + 12) [] (.bytewise (shortText ++ '|' ::
      (singleText ++ '|' :: (controlText ++ [')'])))) =
      some ([(.sequence (.choice (introducers.map .literal) :: tailParts), 4),
        (.byte ⟨#[(0x80, 0x9A), (0x9C, 0x9F)]⟩, 2),
        (.sequence [.literal [escape], .byte ⟨#[(0x40, 0x5A), (0x5C, 0x5F)]⟩], 3)],
        .bytewise [')']) := by
    rw [readBranches_next _ (readParts_shortText (fuel + 8) _),
      readBranches_next _ (readParts_singleText (fuel + 8) _),
      readBranches_last _ (readParts_controlText fuel [])]
    rfl
  have hswitch (fuel : Nat) (cs : List Char) : readParts (fuel + 1) []
      ⟨'(' :: '?' :: '-' :: 'u' :: ')' :: cs, .initial, [], 0⟩ =
      readParts fuel [⟨.empty, 0, true⟩] (.bytewise cs) := rfl
  have hparts (fuel : Nat) : readParts (fuel + 14) [] ⟨patternText.toList, .initial, [], 0⟩ =
      some ([⟨patternExpression, 6, false⟩, ⟨.empty, 0, true⟩], .bytewise []) := by
    rw [htext, hswitch, readParts_group (fuel + 12) _ (hgroup fuel)]
    rfl
  have hlength : 4 * patternText.toList.length + 4 = 293 + 15 := by
    rw [htext]
    rfl
  have hbranches : readBranches (293 + 15) [] ⟨patternText.toList, .initial, [], 0⟩ =
      some ([(patternExpression, 7)], .bytewise []) := by
    rw [readBranches, hparts]
    rfl
  rw [read?]
  dsimp only
  rw [hlength, hbranches]
  rfl

/-- The text is a pattern, the one that stands here. -/
theorem ofText_patternText : Pattern.ofText patternText = .ok ⟨patternText, patternExpression⟩ := by
  have hfits : fits patternExpression = true := by decide +kernel
  rw [Pattern.ofText, read?_patternText]
  dsimp only
  rw [if_pos hfits]

/-! ### The sets of bytes -/

theorem contains_parameters (b : UInt8) :
    CodeRanges.contains ⟨#[(0x30, 0x3F)]⟩ b.toNat = isParameter b := by
  rw [Bool.eq_iff_iff, isParameter_iff]
  simp [CodeRanges.contains, Text.lastAtMost, Text.lastAtMost.halve]

theorem contains_intermediates (b : UInt8) :
    CodeRanges.contains ⟨#[(0x20, 0x2F)]⟩ b.toNat = isIntermediate b := by
  rw [Bool.eq_iff_iff, isIntermediate_iff]
  simp [CodeRanges.contains, Text.lastAtMost, Text.lastAtMost.halve]

theorem contains_finals (b : UInt8) :
    CodeRanges.contains ⟨#[(0x40, 0x7E)]⟩ b.toNat = isFinal b := by
  rw [Bool.eq_iff_iff, isFinal_iff]
  simp [CodeRanges.contains, Text.lastAtMost, Text.lastAtMost.halve]

theorem contains_shorts (b : UInt8) :
    CodeRanges.contains ⟨#[(0x40, 0x5A), (0x5C, 0x5F)]⟩ b.toNat = isShort b := by
  rw [Bool.eq_iff_iff, isShort_iff]
  by_cases h : 0x5C ≤ b.toNat
  · simp [CodeRanges.contains, Text.lastAtMost, Text.lastAtMost.halve, h]
    omega
  · simp [CodeRanges.contains, Text.lastAtMost, Text.lastAtMost.halve, h]

theorem contains_singles (b : UInt8) :
    CodeRanges.contains ⟨#[(0x80, 0x9A), (0x9C, 0x9F)]⟩ b.toNat = isSingle b := by
  rw [Bool.eq_iff_iff, isSingle_iff]
  by_cases h : 0x9C ≤ b.toNat
  · simp [CodeRanges.contains, Text.lastAtMost, Text.lastAtMost.halve, h]
    omega
  · simp [CodeRanges.contains, Text.lastAtMost, Text.lastAtMost.halve, h]

/-! ### What the pattern matches -/

/-- Neither repetition can give back a byte, because no part behind it begins with one. -/
theorem endsThrough_tailParts (bytes : Bytes) (i : Nat) :
    endsThrough bytes.toArray tailParts i =
      ((controlLength? (bytes.drop i)).map (i + ·)).toList := by
  have hfinal (j : Nat) : endsThrough bytes.toArray [.byte ⟨#[(0x40, 0x7E)]⟩] j =
      if bytes[j]?.any isFinal then [j + 1] else [] := by
    rw [endsThrough_singleton, ends_byte contains_finals]
  -- an intermediate byte is not final, so only the longest run is followed by one
  have hintermediates (j : Nat) : endsThrough bytes.toArray
      [.repeated 0 none true (.byte ⟨#[(0x20, 0x2F)]⟩), .byte ⟨#[(0x40, 0x7E)]⟩] j =
      endsThrough bytes.toArray [.byte ⟨#[(0x40, 0x7E)]⟩]
        (j + ((bytes.drop j).takeWhile isIntermediate).length) := by
    refine endsThrough_star contains_intermediates ?_ j
    intro k b hk hb
    rw [hfinal, hk, Option.any_some, isFinal_of_isIntermediate hb]
    rfl
  -- a parameter byte is neither intermediate nor final
  have hparameters : endsThrough bytes.toArray tailParts i = endsThrough bytes.toArray
      [.repeated 0 none true (.byte ⟨#[(0x20, 0x2F)]⟩), .byte ⟨#[(0x40, 0x7E)]⟩]
        (i + ((bytes.drop i).takeWhile isParameter).length) := by
    refine endsThrough_star contains_parameters ?_ i
    intro k b hk hb
    have hnone : (bytes.drop k).takeWhile isIntermediate = [] := by
      rw [← List.head?_drop] at hk
      obtain ⟨rest, hrest⟩ := List.head?_eq_some_iff.mp hk
      rw [hrest, List.takeWhile_cons_of_neg (by simp [isIntermediate_of_isParameter hb])]
    rw [hintermediates, hnone, List.length_nil, Nat.add_zero, hfinal, hk, Option.any_some,
      isFinal_of_isParameter hb]
    rfl
  -- what the scanner drops is what the repetition runs over
  have hdrop (j : Nat) (p : UInt8 → Bool) :
      bytes.drop (j + ((bytes.drop j).takeWhile p).length) = (bytes.drop j).dropWhile p := by
    rw [← List.drop_drop]
    nth_rewrite 2 [← List.takeWhile_append_dropWhile (p := p) (l := bytes.drop j)]
    exact List.drop_left
  have hrest := hdrop (i + ((bytes.drop i).takeWhile isParameter).length) isIntermediate
  rw [hparameters, hintermediates, hfinal, controlLength?, ← List.head?_drop, hrest, hdrop]
  cases ((bytes.drop i).dropWhile isParameter).dropWhile isIntermediate with
  | nil => rfl
  | cons b rest =>
    by_cases hb : isFinal b = true
    · simp [hb]
      omega
    · simp [hb]

/-- At every place there is one match or none. -/
theorem ends_patternExpression (bytes : Bytes) (i : Nat) :
    ends bytes.toArray patternExpression i =
      ((sequenceLength? (bytes.drop i)).map (i + ·)).toList := by
  have hshort : ends bytes.toArray
      (.sequence [.literal [escape], .byte ⟨#[(0x40, 0x5A), (0x5C, 0x5F)]⟩]) i =
      if [escape] <+: bytes.drop i then
        (if bytes[i + 1]?.any isShort then [i + 1 + 1] else []) else [] := by
    rw [ends, endsThrough, ends_literal]
    split
    · rw [List.flatMap_singleton, endsThrough_singleton, ends_byte contains_shorts]
      rfl
    · rfl
  have hcontrol : ends bytes.toArray
      (.sequence (.choice (introducers.map .literal) :: tailParts)) i =
      (if [escape, 0x5B] <+: bytes.drop i then
        ((controlLength? (bytes.drop (i + 2))).map (i + 2 + ·)).toList else []) ++
      (if [0x9B] <+: bytes.drop i then
        ((controlLength? (bytes.drop (i + 1))).map (i + 1 + ·)).toList else []) := by
    rw [ends, endsThrough, ends, introducers, List.map_cons, List.map_cons, List.map_nil, endsAny,
      endsAny, endsAny, ends_literal, ends_literal, List.append_nil, List.flatMap_append]
    congr 1
    · split
      · rw [List.flatMap_singleton, endsThrough_tailParts]
        rfl
      · rfl
    · split
      · rw [List.flatMap_singleton, endsThrough_tailParts]
        rfl
      · rfl
  -- of the branches one can match at most: they begin with different bytes
  rw [patternExpression, ends, endsAny, endsAny, endsAny, endsAny, hshort,
    ends_byte contains_singles, hcontrol, ← List.head?_drop, ← List.head?_drop, ← List.drop_drop,
    ← List.drop_drop]
  rcases bytes.drop i with _ | ⟨b, _ | ⟨c, rest⟩⟩
  · rfl
  · have hnone : controlLength? [] = none := rfl
    by_cases hb : isSingle b = true <;> simp [sequenceLength?, hb, hnone]
  · simp only [sequenceLength?, List.cons_prefix_cons, List.nil_prefix, and_true, List.head?_cons,
      Option.any_some, List.drop_succ_cons, List.drop_zero, beq_iff_eq]
    by_cases hescape : b = escape
    · obtain rfl := hescape
      have hb : isSingle escape = false := by decide
      have hne : (0x9B : UInt8) ≠ escape := by decide
      by_cases hshort : isShort c = true
      · have hc : (0x5B : UInt8) ≠ c := by
          rintro rfl
          exact absurd hshort (by decide)
        simp [hshort, hb, hne, hc]
      · by_cases hc : c = 0x5B
        · obtain rfl := hc
          cases controlLength? rest <;> simp [hshort, hb, hne, Nat.add_right_comm, Nat.add_assoc]
        · simp [hshort, hb, hne, hc, Ne.symm hc]
    · by_cases hsingle : isSingle b = true
      · have hb : (0x9B : UInt8) ≠ b := by
          rintro rfl
          exact absurd hsingle (by decide)
        simp [hescape, Ne.symm hescape, hsingle, hb]
      · by_cases hb : b = 0x9B
        · obtain rfl := hb
          cases controlLength? (c :: rest) <;>
            simp [hescape, Ne.symm hescape, hsingle, Nat.add_right_comm, Nat.add_assoc]
        · simp [hescape, Ne.symm hescape, hsingle, hb, Ne.symm hb]

/-- Removing the matches of the pattern is what the scanner does. -/
theorem removeFrom_patternExpression (bytes : Bytes) (i : Nat) :
    removeFrom patternExpression bytes.toArray i = strip (bytes.drop i) := by
  induction hn : bytes.length - i using Nat.strongRecOn generalizing i with
  | _ n ih =>
    -- the place moves towards the end of the text at every step
    rw [removeFrom]
    by_cases hi : i < bytes.length
    · have hget : bytes.drop i = bytes[i] :: bytes.drop (i + 1) := List.drop_eq_getElem_cons hi
      rw [dif_pos (show i < bytes.toArray.size from hi), ends_patternExpression, Option.head?_toList]
      cases hlength : sequenceLength? (bytes.drop i) with
      | none =>
        -- no match here: the byte is kept
        rw [hget] at hlength
        rw [hget, strip_cons hlength, Option.map_none]
        exact congrArg _ (ih _ (by omega) (i + 1) rfl)
      | some k =>
        obtain ⟨sequence, rest, hbytes, hsequence, hk⟩ := exists_of_sequenceLength? hlength
        have hpos : 0 < k := by
          rw [← hk]
          exact List.length_pos_iff.mpr hsequence.ne_nil
        have hrest : bytes.drop (i + k) = rest := by
          rw [← List.drop_drop, hbytes, ← hk, List.drop_left]
        rw [Option.map_some]
        dsimp only
        rw [if_pos (by omega), hbytes, strip_append hsequence, ← hrest]
        exact ih _ (by omega) (i + k) rfl
    · rw [dif_neg (show ¬i < bytes.toArray.size from hi), List.drop_eq_nil_of_le (by omega), strip]

end Lexicon.Conformance.Escape
