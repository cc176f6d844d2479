import Lexicon.Conformance.Exit
import Lexicon.Json.Decode

namespace Lexicon.Conformance.ExitExpectation

open Json (Value Decoder)

def ofWord? (word : String) : Option ExitExpectation :=
  if word = zero.text then some .zero
  else if word = nonZero.text then some .nonZero
  else none

/-- The expectation that a value stands for. Exit codes have 32 bits, with a sign. -/
def ofValue? : Value → Option ExitExpectation
  | .integer n => if -0x80000000 ≤ n ∧ n < 0x80000000 then some (.code (Int32.ofInt n)) else none
  | .text word => ofWord? word
  | .object [(word, .null)] => ofWord? word
  | _ => none

def decoder : Decoder ExitExpectation := fun r => do
  match ofValue? (← r.value) with
  | some e => .ok e
  | none => .error ⟨.noForm "ExitDisk", none⟩

end Lexicon.Conformance.ExitExpectation
