import Lexicon.Text.Bytes

namespace Lexicon.Text

/-- Puts `by'` in the place of each occurrence of `pattern`. The replacement itself is not looked at again. An empty
pattern occurs nowhere. -/
def replaceChars (pattern by' : List Char) : List Char → List Char
  | [] => []
  | c :: rest =>
    if !pattern.isEmpty && pattern.isPrefixOf (c :: rest) then
      by' ++ replaceChars pattern by' (rest.drop (pattern.length - 1))
    else c :: replaceChars pattern by' rest
termination_by cs => cs.length
decreasing_by
  all_goals simp only [List.length_drop, List.length_cons]
  all_goals omega

def replace (pattern by' s : String) : String :=
  String.ofList (replaceChars pattern.toList by'.toList s.toList)

end Lexicon.Text
