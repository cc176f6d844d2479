import Lexicon.Conformance.Check
import Lexicon.Conformance.Exit

namespace Lexicon.Conformance

inductive Platform where
  | windows
  | unix
  deriving DecidableEq, Repr

def Platform.here : Platform := unix

inductive Program where
  | underTest
  | path (path : String)
  deriving DecidableEq, Repr

def Program.resolve (executable : String) : Program → String
  | underTest => executable
  | path p => p

structure Case where
  name : String
  program : Program := .underTest
  args : List String := []
  check : Check := .any
  exit : ExitExpectation := .zero
  onlyOn : Option Platform := none

def Case.appliesHere (c : Case) : Bool := c.onlyOn.all (· == Platform.here)

end Lexicon.Conformance
