import Lexicon.FileTree.Basic
import Lexicon.Shell.Raw

namespace Lexicon.Shell

abbrev Letter := Char × Bool

def textOf (ls : List Letter) : String := String.ofList (ls.map (·.1))

namespace Glob

inductive Part where
  | one (c : Char)
  | any
  | many
  | among (negated : Bool) (members : List (Char → Bool))

def kinds : List (String × (Char → Bool)) :=
  let isSpace (c : Char) : Bool := c == ' ' || ('\t' ≤ c && c ≤ '\r')
  let isPunctuation (c : Char) : Bool := '!' ≤ c && c ≤ '~' && !c.isAlphanum
  let isHex (c : Char) : Bool := c.isDigit || ('a' ≤ c && c ≤ 'f') || ('A' ≤ c && c ≤ 'F')
  [("alnum", Char.isAlphanum), ("alpha", Char.isAlpha), ("blank", fun c => c == ' ' || c == '\t'),
    ("cntrl", fun c => c < ' ' || c == '\x7f'), ("digit", Char.isDigit), ("graph", fun c => '!' ≤ c && c ≤ '~'),
    ("lower", Char.isLower), ("print", fun c => ' ' ≤ c && c ≤ '~'), ("punct", isPunctuation), ("space", isSpace),
    ("upper", Char.isUpper), ("xdigit", isHex)]

def kindAt? (ls : List Letter) : Option ((Char → Bool) × List Letter) :=
  kinds.findSome? fun (name, kind) =>
    let spelled := ("[:" ++ name ++ ":]").toList.map (·, false)
    if spelled.isPrefixOf ls then some (kind, ls.drop spelled.length) else none

/-- The members of brackets, and what stands behind the brackets; `none` if they are not closed. The first member may
be a closing bracket. -/
def membersOf? (fuel : Nat) (first : Bool) (ls : List Letter) : Option (List (Char → Bool) × List Letter) :=
  match fuel, ls with
  | 0, _ | _, [] => none
  | fuel + 1, (c, quoted) :: rest =>
    if c == ']' && !quoted && !first then some ([], rest)
    else
      let continued (member : Char → Bool) (rest : List Letter) := do
        let (more, after) ← membersOf? fuel false rest
        return (member :: more, after)
      match kindAt? ls with
      | some (kind, rest) => continued kind rest
      | none =>
        match rest with
        | ('-', false) :: (d, dQuoted) :: beyond =>
          if d == ']' && !dQuoted then continued (· == c) rest
          else continued (fun x => c ≤ x && x ≤ d) beyond
        | _ => continued (· == c) rest

/-- Letters with a quote in the place of every backslash that is not quoted. Behind it, quotes that were needed keep the
backslash instead. -/
def unescape : List Letter → List Letter
  | ('\\', false) :: (c, quoted) :: rest =>
    if quoted && "!*?[=~:/-]\\".toList.contains c then ('\\', true) :: (c, false) :: unescape rest
    else (c, true) :: unescape rest
  | l :: rest => l :: unescape rest
  | [] => []

def parts (fuel : Nat) (ls : List Letter) : List Part :=
  match fuel, ls with
  | 0, _ | _, [] => []
  | fuel + 1, (c, quoted) :: rest =>
    if quoted then .one c :: parts fuel rest
    else if c == '*' then .many :: parts fuel rest
    else if c == '?' then .any :: parts fuel rest
    else if c == '[' then
      let negated := rest.head? == some ('!', false)
      match membersOf? (rest.length + 1) true (if negated then rest.tail else rest) with
      | some (members, after) => .among negated members :: parts fuel after
      | none => .one c :: parts fuel rest
    else .one c :: parts fuel rest

def isMatch : (fuel : Nat) → List Part → List Char → Bool
  | 0, _, _ => false
  | _ + 1, [], cs => cs.isEmpty
  | fuel + 1, .many :: ps, cs =>
    isMatch fuel ps cs || (match cs with
      | [] => false
      | _ :: rest => isMatch fuel (.many :: ps) rest)
  | fuel + 1, p :: ps, c :: rest =>
    (match p with
      | .one d => c == d
      | .any => true
      | .among negated members => (members.any fun m => m c) != negated
      | .many => false) && isMatch fuel ps rest
  | _ + 1, _ :: _, [] => false

def accepts (pattern : List Letter) (text : String) : Bool :=
  let ps := parts pattern.length (unescape pattern)
  isMatch (ps.length + 2 * text.length + 2) ps text.toList

def isPattern (ls : List Letter) : Bool :=
  match ls with
  | [] => false
  | (c, quoted) :: rest =>
    !quoted && (c == '*' || c == '?' || (c == '[' && rest.any fun l => l == (']', false))) || isPattern rest

/-- The names in a directory that letters describe, in byte order. Hidden names need a dot of their own. -/
def namesIn (t : FileTree) (directory : Location) (pattern : List Letter) : List String :=
  let names := (t.below directory).filterMap fun (l, _) =>
    match l with
    | [name] => some (Raw.ofText name)
    | _ => none
  let isHidden (name : String) : Bool := name.toList.head? == some '.'
  let fitting := ("." :: ".." :: names).filter fun name =>
    (!isHidden name || (pattern.head?).any fun l => l.1 == '.') && accepts pattern name
  fitting.mergeSort fun a b => decide (a ≤ b)

def paths (t : FileTree) (here : Location) (front : String) : List (List Letter) → List String
  | [] => []
  | [last] =>
    if isPattern last then
      match t.find here (if front.isEmpty then "." else Raw.toText front) with
      | .ok (l, .directory) => (namesIn t l last).map (front ++ ·)
      | _ => []
    else
      let path := front ++ textOf last
      if (t.find here (Raw.toText path)).isOk then [path] else []
  | component :: rest =>
    if isPattern component then
      match t.find here (if front.isEmpty then "." else Raw.toText front) with
      | .ok (l, .directory) => (namesIn t l component).flatMap fun name => paths t here (front ++ name ++ "/") rest
      | _ => []
    else paths t here (front ++ textOf component ++ "/") rest

end Glob

def pathComponents (ls : List Letter) : List (List Letter) :=
  ls.foldr (fun l components =>
    match components with
    | [] => [[l]]
    | first :: rest => if l.1 == '/' then [] :: first :: rest else (l :: first) :: rest) [[]]

/-- The texts that a field stands for: the paths that it describes, or its own text if there are none. -/
def expandNames (t : FileTree) (here : Location) (field : List Letter) : List String :=
  let pattern := Glob.unescape field
  match (if Glob.isPattern pattern then Glob.paths t here "" (pathComponents pattern) else []) with
  | [] => [textOf field]
  | found => found

end Lexicon.Shell
