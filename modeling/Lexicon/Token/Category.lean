namespace Lexicon

inductive Category where
  | plain
  | word
  | keyword
  | operator
  | literal
  | polymorph
  | preprocessor
  deriving DecidableEq, Repr

namespace Category

def all : List Category := [plain, word, keyword, operator, literal, polymorph, preprocessor]

theorem mem_all (k : Category) : k ∈ all := by cases k <;> decide

def label : Category → String
  | plain => "plain"
  | word => "word"
  | keyword => "keyword"
  | operator => "operator"
  | literal => "literal"
  | polymorph => "polymorph"
  | preprocessor => "preprocessor"

def ofLabel? (name : String) : Option Category := all.find? (·.label == name)

end Category

end Lexicon
