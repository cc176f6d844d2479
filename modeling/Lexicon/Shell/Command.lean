namespace Lexicon.Shell

inductive Fallback where
  | useDefault
  | assign
  | complain
  | alternative
  deriving DecidableEq, Repr

inductive Redirect where
  | read
  | readWrite
  | write
  | clobber
  | append
  | copyIn
  | copyOut
  | document (number : Nat)
  deriving DecidableEq, Repr

inductive Junction where
  | both
  | either
  deriving DecidableEq, Repr

mutual

/-- A piece of a word. What is quoted is neither split nor matched against names. -/
inductive Piece where
  | literal (quoted : Bool) (s : String)
  | parameter (quoted : Bool) (name : String)
  | length (quoted : Bool) (name : String)
  | fallback (quoted : Bool) (name : String) (kind : Fallback) (orEmpty : Bool) (word : List Piece)
  | trimmed (quoted : Bool) (name : String) (atEnd longest : Bool) (pattern : List Piece)
  | arithmetic (quoted : Bool) (expression : List Piece)
  | substitution (quoted : Bool) (body : List Command)
  | malformed

/-- A command with what stands around it. The line is where a complaint about it points to. -/
inductive Command where
  | simple (line : Nat) (assignments : List (String × List Piece)) (words : List (List Piece))
      (redirections : List (Nat × Redirect × List Piece))
  | group (body : List Command)
  | subshell (line : Nat) (body : List Command) (redirections : List (Nat × Redirect × List Piece))
  | conditional (condition body otherwise : List Command)
  | loop (until' : Bool) (condition body : List Command)
  | each (line : Nat) (name : String) (words : List (List Piece)) (body : List Command)
  | choice (line : Nat) (subject : List Piece) (arms : List (List (List Piece) × List Command))
  | function (line : Nat) (name : String) (body : Command)
  | pipeline (commands : List Command)
  | negated (command : Command)
  | joined (junction : Junction) (left right : Command)
  | background (command : Command)
  | redirected (line : Nat) (command : Command) (redirections : List (Nat × Redirect × List Piece))

end

abbrev Word := List Piece

abbrev Redirection := Nat × Redirect × Word

abbrev Script := List Command

def Word.push (quoted : Bool) (c : Char) : Word → Word
  | .literal q s :: before =>
    if q = quoted then .literal q (s.push c) :: before
    else .literal quoted (String.singleton c) :: .literal q s :: before
  | before => .literal quoted (String.singleton c) :: before

def Word.bareText? (w : Word) : Option String :=
  w.foldr (fun piece text =>
    match piece, text with
    | .literal false s, some text => some (s ++ text)
    | _, _ => none) (some "")

/-- The text of a word, whether it is quoted or not. Expansions are left out. -/
def Word.plainText (w : Word) : String :=
  w.foldl (fun text piece =>
    match piece with
    | .literal _ s => text ++ s
    | _ => text) ""

def isNameRest (c : Char) : Bool := c.isAlphanum || c == '_'

def isNameStart (c : Char) : Bool := c.isAlpha || c == '_'

def isName (s : String) : Bool := s.toList.head?.any isNameStart && s.toList.all isNameRest

def Word.assignment? : Word → Option (String × Word)
  | .literal false s :: rest =>
    let name := s.toList.takeWhile isNameRest
    match s.toList.drop name.length with
    | '=' :: value =>
      if isName (String.ofList name) then
        some (String.ofList name, if value.isEmpty then rest else .literal false (String.ofList value) :: rest)
      else none
    | _ => none
  | _ => none

/-- The commands that are part of the language: no function can have their names, and their mistakes end a script. -/
def specialNames : List String := [
  ".", ":", "break", "continue", "eval", "exec", "exit", "export", "local", "readonly", "return", "set", "shift", "times",
  "trap", "unset"]

end Lexicon.Shell
