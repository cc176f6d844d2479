import Lexicon.Pattern.Match

namespace Lexicon.Pattern

open Text (CodeRanges)

def Flags.bytewise : Flags := { Flags.initial with unicode := false }

/-- A reader that takes what it reads for bytes, with so much before it. -/
def State.bytewise (rest : List Char) : State := ⟨rest, .bytewise, [], 0⟩

/-! ### Sets -/

theorem union_empty (a b : Nat) : CodeRanges.empty.union ⟨#[(a, b)]⟩ = ⟨#[(a, b)]⟩ := by
  simp [CodeRanges.union, CodeRanges.ofList, CodeRanges.empty, CodeRanges.mergeSorted]

theorem union_of_gap {a b c d : Nat} (h : a ≤ c) (hgap : b + 1 < c) :
    CodeRanges.union ⟨#[(a, b)]⟩ ⟨#[(c, d)]⟩ = ⟨#[(a, b), (c, d)]⟩ := by
  have htouch : ¬c ≤ b + 1 := by omega
  simp [CodeRanges.union, CodeRanges.ofList, CodeRanges.mergeSorted, List.mergeSort, h, htouch]

/-- A class of one range between two plain characters. -/
theorem readClass_range (fuel : Nat) (rest : List Char) {first last : Char}
    (hfirst : first ∉ ['^', '-', '[', ']', '\\', '&', '~']) (hlast : last ∉ ['[', ']', '\\', '-'])
    (h : first.toNat ≤ last.toNat) (hascii : last.toNat < 0x80) :
    readClass (fuel + 5) (.bytewise (first :: '-' :: last :: ']' :: rest)) =
      some (⟨#[(first.toNat, last.toNat)]⟩, 1, .bytewise rest) := by
  have hlt : first.toNat < 128 := by omega
  simp only [List.mem_cons, List.not_mem_nil, not_or, or_false] at hfirst hlast
  simp [readClass, readItems, takeHyphens, readRange, readItem, behindHyphen, Primitive.end?,
    Operand.add, Operand.close, Flags.polarity, Flags.fold, Flags.bytewise, State.bytewise,
    State.skip, State.next, State.drop1, Flags.initial, hfirst, hlast, h, hlt, hascii, union_empty]

/-- A class of two items, each of which begins with an escape. -/
theorem readClass_escaped {cs cs' rest : List Char} {a b c d : Nat}
    (hcs : readRange (.bytewise ('\\' :: cs)) = some (⟨#[(a, b)]⟩, .bytewise ('\\' :: cs')))
    (hcs' : readRange (.bytewise ('\\' :: cs')) = some (⟨#[(c, d)]⟩, .bytewise (']' :: rest)))
    (h : a ≤ c) (hgap : b + 1 < c) (fuel : Nat) :
    readClass (fuel + 5) (.bytewise ('\\' :: cs)) =
      some (⟨#[(a, b), (c, d)]⟩, 2, .bytewise rest) := by
  -- an item that begins with an escape is read as a range, whatever has been read before
  have hitem (o : Operand) (n : Nat) {cs : List Char} {r : CodeRanges × State}
      (h : readRange (.bytewise ('\\' :: cs)) = some r) :
      readItems (n + 1) false o (.bytewise ('\\' :: cs)) = readItems n false (o.add r.1 0) r.2 := by
    have hskip : (State.bytewise ('\\' :: cs)).skip = .bytewise ('\\' :: cs) := rfl
    have hrest : (State.bytewise ('\\' :: cs)).rest = '\\' :: cs := rfl
    rw [readItems, hskip, hrest, h]
    rfl
  change readItems (fuel + 4) false ⟨.empty, 0, 0, none⟩ (.bytewise ('\\' :: cs)) = _
  rw [hitem _ _ hcs, hitem _ _ hcs']
  dsimp only [Operand.add]
  rw [union_empty, union_of_gap h hgap]
  rfl

/-! ### Parts and branches -/

theorem readParts_class (fuel : Nat) (parts : List Part) {cs rest : List Char} {set : CodeRanges}
    {depth : Nat} (hcs : 3 ≤ cs.length)
    (h : ∀ fuel, readClass (fuel + 5) (.bytewise cs) = some (set, depth, .bytewise rest)) :
    readParts (fuel + 1) parts (.bytewise ('[' :: cs)) =
      readParts fuel (⟨.ofByteSet set, depth, false⟩ :: parts) (.bytewise rest) := by
  have hskip : (State.bytewise ('[' :: cs)).skip = .bytewise ('[' :: cs) := rfl
  have hrest : (State.bytewise ('[' :: cs)).rest = '[' :: cs := rfl
  have hdrop : (State.bytewise ('[' :: cs)).drop1 = .bytewise cs := rfl
  have hfuel : 2 * ('[' :: cs).length = 2 * cs.length - 3 + 5 := by
    rw [List.length_cons]
    omega
  rw [readParts, hskip, hrest, hdrop]
  dsimp only
  rw [hfuel, h]
  rfl

/-- A star repeats a class, and prefers more rounds. -/
theorem readParts_star (fuel : Nat) (parts : List Part) (set : CodeRanges) (depth : Nat)
    {rest : List Char} (h : rest.head? ≠ some '?') :
    readParts (fuel + 2) (⟨.byte set, depth, false⟩ :: parts) (.bytewise ('*' :: rest)) =
      readParts fuel (⟨.repeated 0 none true (.byte set), depth + 1, false⟩ :: parts)
        (.bytewise rest) := by
  have hgreedy : takePreference (.bytewise rest) = (true, .bytewise rest) := by
    have hmark : ((State.bytewise rest).rest.head? == some '?') = false := beq_eq_false_iff_ne.mpr h
    rw [takePreference, hmark]
    rfl
  change repeatAndRead (fuel + 1) 0 none (⟨.byte set, depth, false⟩ :: parts) (.bytewise rest) = _
  rw [repeatAndRead, hgreedy]
  rfl

theorem readParts_group (fuel : Nat) (parts : List Part) {cs rest : List Char}
    {branches : List (Expression × Nat)}
    (h : readBranches fuel [] (.bytewise cs) = some (branches, .bytewise (')' :: rest))) :
    readParts (fuel + 1) parts (.bytewise ('(' :: '?' :: ':' :: cs)) =
      readParts fuel (⟨(joinBranches branches).1, (joinBranches branches).2 + 1, false⟩ :: parts)
        (.bytewise rest) := by
  have hskip : (State.bytewise ('(' :: '?' :: ':' :: cs)).skip =
      .bytewise ('(' :: '?' :: ':' :: cs) := rfl
  have hopening : readOpening (State.bytewise ('(' :: '?' :: ':' :: cs)).next =
      some (.group none (.bytewise cs)) := rfl
  have hrest : (State.bytewise ('(' :: '?' :: ':' :: cs)).rest = '(' :: '?' :: ':' :: cs := rfl
  rw [readParts, hskip, hrest, hopening]
  dsimp only
  rw [h]
  rfl

theorem readBranches_next {fuel : Nat} {cs rest : List Char} {parts : List Part}
    (done : List (Expression × Nat))
    (h : readParts fuel [] (.bytewise cs) = some (parts, .bytewise ('|' :: rest))) :
    readBranches (fuel + 1) done (.bytewise cs) =
      readBranches fuel (joinParts parts :: done) (.bytewise rest) := by
  rw [readBranches, h]
  rfl

theorem readBranches_last {fuel : Nat} {cs rest : List Char} {parts : List Part}
    (done : List (Expression × Nat))
    (h : readParts fuel [] (.bytewise cs) = some (parts, .bytewise (')' :: rest))) :
    readBranches (fuel + 1) done (.bytewise cs) =
      some (joinParts parts :: done, .bytewise (')' :: rest)) := by
  rw [readBranches, h]
  rfl

end Lexicon.Pattern
