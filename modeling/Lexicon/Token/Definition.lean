import Lexicon.Token.Category
import Lexicon.Token.Payload

namespace Lexicon

/-- A character that may stand in a short name. Short names become parts of identifiers. -/
def isNameChar (c : Char) : Bool := c.isAlphanum || c == '_'

def isWellFormedName (name : String) : Bool := !name.isEmpty && name.toList.all isNameChar

def constantStem : String := "TOKEN_"

/-- The constant that a short name yields. Only ASCII letters change case. -/
def constantName (name : String) : String := constantStem ++ name.map Char.toUpper

def spacedName (name : String) : String := name.map fun c => if c == '_' then ' ' else c

structure Definition where
  name : String
  category : Category
  payload : Payload
  display : Option String
  deriving DecidableEq, Repr

namespace Definition

def isKeyword (d : Definition) : Bool := d.category == .keyword

def displayName (d : Definition) : String :=
  d.display.getD (if d.isKeyword then d.name ++ " keyword" else spacedName d.name)

def constant (d : Definition) : String := constantName d.name

end Definition

/-- A second name for a token. An alias has no identifier of its own. -/
structure Alias where
  name : String
  target : String
  display : Option String
  deriving DecidableEq, Repr

namespace Alias

def displayName (a : Alias) : String := a.display.getD (spacedName a.name)

def constant (a : Alias) : String := constantName a.name

end Alias

end Lexicon
