import Lexicon.Text.CodeRanges

namespace Lexicon.Settings

inductive ValueError where
  | empty
  | invalidDigit
  | tooLarge
  | tooSmall
  | notBoolean
  deriving DecidableEq, Repr

def ValueError.message : ValueError → String
  | empty => "cannot parse integer from empty string"
  | invalidDigit => "invalid digit found in string"
  | tooLarge => "number too large to fit in target type"
  | tooSmall => "number too small to fit in target type"
  | notBoolean => "provided string was not `true` or `false`"

structure Bounds where
  least : Int
  most : Int
  deriving DecidableEq, Repr

namespace Bounds

def unsigned (bits : Nat) : Bounds := ⟨0, Nat.pow 2 bits - 1⟩

def signed (bits : Nat) : Bounds := ⟨-Nat.pow 2 (bits - 1), Nat.pow 2 (bits - 1) - 1⟩

/-- Reads digits from left to right; the first that is none, or that leaves the bounds, decides. -/
def readDigits (b : Bounds) (negative : Bool) (value : Int) : List Char → Except ValueError Int
  | [] => .ok value
  | c :: rest =>
    if !c.isDigit then .error .invalidDigit
    else
      let next := value * 10 + (if negative then -(Text.digitValue c : Int) else Text.digitValue c)
      if next < b.least then .error .tooSmall
      else if b.most < next then .error .tooLarge
      else readDigits b negative next rest

def read (b : Bounds) (s : String) : Except ValueError Int :=
  match s.toList with
  | [] => .error .empty
  | ['+'] | ['-'] => .error .invalidDigit
  | '+' :: digits => b.readDigits false 0 digits
  | '-' :: digits => if b.least < 0 then b.readDigits true 0 digits else .error .invalidDigit
  | digits => b.readDigits false 0 digits

end Bounds

def readBoolean (s : String) : Except ValueError Bool :=
  if s = "true" then .ok true
  else if s = "false" then .ok false
  else .error .notBoolean

end Lexicon.Settings
