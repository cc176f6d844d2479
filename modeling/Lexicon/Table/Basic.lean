import Lexicon.Token.Definition

namespace Lexicon

structure Table where
  definitions : List Definition
  aliases : List Alias
  deriving DecidableEq, Repr

namespace Table

/-- The number of entries that identifiers can tell apart: they fit an unsigned short. -/
def capacity : Nat := 65536

def keywordCount (t : Table) : Nat := (t.definitions.filter (·.isKeyword)).length

def nonKeywords (t : Table) : List Definition := t.definitions.filter (!·.isKeyword)

end Table

end Lexicon
