namespace Lexicon.Conformance

inductive ExitExpectation where
  | zero
  | nonZero
  | code (value : Int32)
  deriving DecidableEq, Repr

namespace ExitExpectation

def accepts : ExitExpectation → Option Int32 → Bool
  | zero, status => status == some 0
  | nonZero, status => status != some 0
  | code value, status => status == some value

def text : ExitExpectation → String
  | zero => "zero"
  | nonZero => "non-zero"
  | code value => toString value.toInt

theorem accepts_nonZero (status : Option Int32) : nonZero.accepts status = !zero.accepts status := rfl

end ExitExpectation

end Lexicon.Conformance
