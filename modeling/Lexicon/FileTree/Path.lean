import Lexicon.Text.CodeRanges

namespace Lexicon.Path

def isAbsolute (p : String) : Bool := p.toList.head? == some '/'

/-- The path that `p` names from `base`. An absolute path stands for itself. -/
def join (base p : String) : String :=
  if isAbsolute p then p
  else if base.toList.getLast?.all (· == '/') then base ++ p
  else base ++ "/" ++ p

/-- Removes slashes and single dots from the end of a path, given in reverse without its root. A dot that a relative
path begins with is kept. -/
def trimEnd (absolute : Bool) : List Char → List Char
  | '/' :: rest => trimEnd absolute rest
  | '.' :: '/' :: rest => trimEnd absolute rest
  | ['.'] => if absolute then [] else ['.']
  | cs => cs

/-- The path of what contains `p`: the text in front of the last component. The root and the empty path are
contained in nothing. -/
def parent? (p : String) : Option String :=
  let absolute := isAbsolute p
  let body := trimEnd absolute (p.toList.drop (if absolute then 1 else 0)).reverse
  if body.isEmpty then none
  else
    let front := trimEnd absolute (body.dropWhile (· != '/'))
    some ((if absolute then "/" else "") ++ String.ofList front.reverse)

/-- The components of a path behind its root. A single dot counts only at the beginning of a relative path. -/
def components (p : String) : List String :=
  let pieces := Text.splitAt '/' p.toList
  let dropped := pieces.filter fun piece => piece != [] && piece != ['.']
  let dotted := if pieces.head? == some ['.'] then [['.']] else []
  (dotted ++ dropped).map String.ofList

end Lexicon.Path
