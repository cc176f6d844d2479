import Lexicon.Shell.Command

namespace Lexicon.Shell

inductive Token where
  | endOfFile
  | newline
  | operator (s : String)
  | redirection (descriptor : Nat) (kind : Redirect)
  /-- A redirection to a text that stands behind the line; with `strip`, its lines lose their tabs. -/
  | documentMark (descriptor : Nat) (strip : Bool)
  | word (w : Word) (quoted : Bool)
  | reserved (s : String)

def Token.describe : Token → String
  | endOfFile => "end of file"
  | newline => "newline"
  | operator s | reserved s => "\"" ++ s ++ "\""
  | redirection .. | documentMark .. => "redirection"
  | word .. => "word"

def reservedWords : List String :=
  ["!", "case", "do", "done", "elif", "else", "esac", "fi", "for", "if", "in", "then", "until", "while", "\x7b",
    "\x7d"]

def Token.endsList : Token → Bool
  | endOfFile => true
  | operator s => s == ")" || s == ";;"
  | reserved s => ["do", "done", "elif", "else", "esac", "fi", "then", "\x7d"].contains s
  | _ => false

structure Waiting where
  number : Nat
  mark : String
  quoted : Bool
  strip : Bool

structure Source where
  rest : List Char
  line : Nat := 1
  pushed : Option Token := none
  aliases : List (String × String) := []
  replaced : List (String × Nat) := []
  /-- Behind an alias that ends with a blank, the next word may be one, too: how much is left of the script there. -/
  spaced : Option Nat := none
  waiting : List Waiting := []
  documents : List (Nat × Word) := []
  nextDocument : Nat := 0

structure ReadError where
  line : Nat
  text : String

abbrev Read (α : Type) := StateT Source (Except ReadError) α

namespace Read

def fail (text : String) : Read α := fun s => .error ⟨s.line, "Syntax error: " ++ text⟩

def unexpected (token : Token) (expected : Option Token := none) : Read α :=
  fail (token.describe ++ " unexpected" ++ match expected with
    | some e => " (expecting " ++ e.describe ++ ")"
    | none => "")

def skipJoined (fuel : Nat) : Read Unit := fun s =>
  match fuel, s.rest with
  | fuel + 1, '\\' :: '\n' :: rest => skipJoined fuel { s with rest, line := s.line + 1 }
  | _, _ => .ok ((), s)

def peekRaw : Read (Option Char) := fun s => .ok (s.rest.head?, s)

def peek : Read (Option Char) := do
  skipJoined (← get).rest.length
  peekRaw

def advance : Read Unit := fun s =>
  .ok ((), { s with rest := s.rest.tail, line := if s.rest.head? == some '\n' then s.line + 1 else s.line })

def putBack (c : Char) : Read Unit := modify fun s => { s with rest := c :: s.rest }

def takeWhile (p : Char → Bool) : Read String := fun s =>
  let taken := s.rest.takeWhile p
  .ok (String.ofList taken, { s with rest := s.rest.drop taken.length, line := s.line + taken.count '\n' })

def skipIf (c : Char) : Read Bool := do
  if (← peek) == some c then advance; return true else return false

def pushBack (t : Token) : Read Unit := modify fun s => { s with pushed := some t }

end Read

end Lexicon.Shell
