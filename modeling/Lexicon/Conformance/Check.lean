import Lexicon.Pattern.Match
import Lexicon.Text.Quoted

namespace Lexicon.Conformance

open Text (Bytes)

inductive Check where
  | any
  | contains (needle : Bytes)
  | notContains (needle : Bytes)
  | matching (pattern : Pattern)
  | custom (accepts : Bytes → Bool)

namespace Check

def accepts : Check → Bytes → Bool
  | any, _ => true
  | contains needle, output => Text.occursIn needle output
  | notContains needle, output => !Text.occursIn needle output
  | matching pattern, output => pattern.isMatch output
  | custom accepts, output => accepts output

/-- A check in words. Needles are shown as text. -/
def describe : Check → String
  | any => "Any"
  | contains needle => "Contains(" ++ Text.quoted (Text.lossy needle) ++ ")"
  | notContains needle => "NotContains(" ++ Text.quoted (Text.lossy needle) ++ ")"
  | matching pattern => "Matches(" ++ Text.quoted pattern.text ++ ")"
  | custom _ => "Custom(..)"

end Check

end Lexicon.Conformance
