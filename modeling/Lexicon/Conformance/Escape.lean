import Lexicon.Text.Bytes

/-!
Terminal escape sequences in byte strings, in their seven-bit and eight-bit forms. `IsSequence` is the grammar;
`sequenceLength?` recognises the sequence at the start of a byte string, and `strip` removes sequences from left
to right. An introducer whose sequence is unfinished or ill-formed is kept.
-/
namespace Lexicon.Conformance.Escape

open Text (Bytes)

def escape : UInt8 := 0x1B

/-- After an escape byte, completes a sequence of two bytes. -/
def isShort (b : UInt8) : Bool := (0x40 ≤ b && b ≤ 0x5A) || (0x5C ≤ b && b ≤ 0x5F)

def isSingle (b : UInt8) : Bool := (0x80 ≤ b && b ≤ 0x9A) || (0x9C ≤ b && b ≤ 0x9F)

def isParameter (b : UInt8) : Bool := 0x30 ≤ b && b ≤ 0x3F

def isIntermediate (b : UInt8) : Bool := 0x20 ≤ b && b ≤ 0x2F

def isFinal (b : UInt8) : Bool := 0x40 ≤ b && b ≤ 0x7E

/-- The two spellings of the control sequence introducer. -/
def introducers : List Bytes := [[escape, 0x5B], [0x9B]]

inductive IsSequence : Bytes → Prop where
  | short {b : UInt8} : isShort b = true → IsSequence [escape, b]
  | single {b : UInt8} : isSingle b = true → IsSequence [b]
  | control {introducer parameters intermediates : Bytes} {final : UInt8} :
      introducer ∈ introducers → (∀ b ∈ parameters, isParameter b = true) →
      (∀ b ∈ intermediates, isIntermediate b = true) → isFinal final = true →
      IsSequence (introducer ++ parameters ++ intermediates ++ [final])

def controlLength? (bytes : Bytes) : Option Nat :=
  let rest := bytes.dropWhile isParameter
  match rest.dropWhile isIntermediate with
  | [] => none
  | b :: _ =>
    if isFinal b then some ((bytes.takeWhile isParameter).length + (rest.takeWhile isIntermediate).length + 1)
    else none

def sequenceLength? : Bytes → Option Nat
  | [] => none
  | [b] => if isSingle b then some 1 else none
  | b :: c :: rest =>
    if b == escape then
      if isShort c then some 2 else if c == 0x5B then (controlLength? rest).map (· + 2) else none
    else if isSingle b then some 1
    else if b == 0x9B then (controlLength? (c :: rest)).map (· + 1)
    else none

def strip : Bytes → Bytes
  | [] => []
  | b :: rest =>
    match sequenceLength? (b :: rest) with
    | some n => strip (rest.drop (n - 1))
    | none => b :: strip rest
termination_by bytes => bytes.length
decreasing_by
  all_goals
    simp only [List.length_drop, List.length_cons]
    omega

end Lexicon.Conformance.Escape
