import Lexicon.Table.Basic
import Lexicon.Text.Bytes

namespace Lexicon

structure Layout where
  tokens : List Definition
  /-- The position of the first keyword, or the number of tokens if there is none. -/
  firstKeyword : Nat
  deriving DecidableEq, Repr

namespace Definition

def nameLE (a b : Definition) : Bool := decide (Text.utf8 a.name ≤ Text.utf8 b.name)

end Definition

namespace Layout

/-- Moves the keywords to the end and sorts them; the others stay as they were written. -/
def ofDefinitions (definitions : List Definition) : Layout where
  tokens := definitions.filter (!·.isKeyword) ++ (definitions.filter (·.isKeyword)).mergeSort Definition.nameLE
  firstKeyword := (definitions.filter (!·.isKeyword)).length

end Layout

end Lexicon
