import Lexicon.Text.CodeRanges

namespace Lexicon

inductive Place where
  | textStart
  | textEnd
  | lineStart
  | lineEnd
  /-- A line starts here, where lines may also end with a carriage return. -/
  | anyLineStart
  | anyLineEnd
  | wordBoundary (unicode : Bool)
  | noWordBoundary (unicode : Bool)
  | wordStart (unicode : Bool)
  | wordEnd (unicode : Bool)
  /-- The left side is not part of a word. -/
  | wordStartHalf (unicode : Bool)
  | wordEndHalf (unicode : Bool)
  deriving DecidableEq, Repr

inductive Expression where
  | empty
  | literal (bytes : List UInt8)
  | scalar (set : Text.CodeRanges)
  | byte (set : Text.CodeRanges)
  | place (p : Place)
  | group (number : Nat) (body : Expression)
  | sequence (parts : List Expression)
  | choice (branches : List Expression)
  /-- A repetition is greedy if it prefers more rounds to fewer. -/
  | repeated (least : Nat) (most : Option Nat) (greedy : Bool) (body : Expression)

end Lexicon
