import Lexicon.Shell.Glob

namespace Lexicon.Shell.Tool

inductive Element where
  | one (p : Char → Bool)
  | lineStart
  | lineEnd
  | wordEdge (starts ends : Bool)
  | group (number : Nat) (choices : List (List Element))
  | repeated (least : Nat) (most : Option Nat) (e : Element)
  | again (number : Nat)

abbrev Expression := List (List Element)

namespace Expression

def brackets? (fold : Bool) (cs : List Char) : Option (Element × List Char) :=
  let negated := cs.head? == some '^'
  let body := if negated then cs.tail else cs
  let letters := body.map (·, false)
  match Glob.membersOf? (letters.length + 1) true letters with
  | some (members, rest) =>
    let among (c : Char) : Bool := members.any fun m => m c || (fold && (m c.toLower || m c.toUpper))
    some (.one fun c => among c != negated && c != '\n', rest.map (·.1))
  | none => none

def bounds? (closing : List Char) (cs : List Char) : Option (Nat × Option Nat × List Char) :=
  let (low, rest) := cs.span Char.isDigit
  let least := ((String.ofList low).toNat?).getD 0
  match rest with
  | ',' :: rest =>
    let (high, rest) := rest.span Char.isDigit
    if closing.isPrefixOf rest then some (least, (String.ofList high).toNat?, rest.drop closing.length) else none
  | rest => if !low.isEmpty && closing.isPrefixOf rest then some (least, some least, rest.drop closing.length) else none

/-- A reader's place: what is left, and how many groups there have been. -/
structure Place where
  rest : List Char
  groups : Nat := 0

mutual

def alternatives (fuel : Nat) (extended fold : Bool) (inside : Bool) (p : Place) : Except String (Expression × Place) :=
  match fuel with
  | 0 => .error "Invalid regular expression"
  | fuel + 1 => do
    let (first, p) ← branch fuel extended fold inside true [] p
    let bar := if extended then ['|'] else ['\\', '|']
    if bar.isPrefixOf p.rest then
      let (more, p) ← alternatives fuel extended fold inside { p with rest := p.rest.drop bar.length }
      return (first :: more, p)
    else return ([first], p)

/-- The elements of an alternative; those that have been read come in reverse. -/
def branch (fuel : Nat) (extended fold inside atStart : Bool) (found : List Element) (p : Place) :
    Except String (List Element × Place) :=
  match fuel with
  | 0 => .error "Invalid regular expression"
  | fuel + 1 => do
    let take (e : Element) (rest : List Char) : Except String (List Element × Place) :=
      branch fuel extended fold inside false (e :: found) { p with rest }
    let literal (c : Char) : Element := .one fun d => d == c || (fold && d.toLower == c.toLower)
    let repeatLast (least : Nat) (most : Option Nat) (rest : List Char) : Except String (List Element × Place) :=
      match found with
      | e :: before => branch fuel extended fold inside false (.repeated least most e :: before) { p with rest }
      | [] => take (literal '*') rest
    let group (rest : List Char) : Except String (List Element × Place) := do
      let number := p.groups + 1
      let (choices, q) ← alternatives fuel extended fold true ⟨rest, number⟩
      let closing := if extended then [')'] else ['\\', ')']
      if closing.isPrefixOf q.rest then
        branch fuel extended fold inside false (.group number choices :: found)
          { q with rest := q.rest.drop closing.length }
      else .error "Unmatched ( or \\("
    let behindBar := atStart
    match p.rest with
    | [] => return (found.reverse, p)
    | '\\' :: c :: rest =>
      if c == '(' && !extended then group rest
      else if c == ')' && !extended then
        if inside then return (found.reverse, p) else .error "Unmatched ) or \\)"
      else if c == '|' && !extended then return (found.reverse, p)
      else if c == '\x7b' && !extended then
        match bounds? ['\\', '\x7d'] rest with
        | some (least, most, rest) => repeatLast least most rest
        | none => .error "Invalid preceding regular expression"
      else if c == '+' && !extended then repeatLast 1 none rest
      else if c == '?' && !extended then repeatLast 0 (some 1) rest
      else if c.isDigit && c != '0' then take (.again (c.toNat - '0'.toNat)) rest
      else if c == 'n' then take (literal '\n') rest
      else if c == 't' then take (literal '\t') rest
      else if c == 'w' then take (.one fun d => d.isAlphanum || d == '_') rest
      else if c == 'W' then take (.one fun d => !(d.isAlphanum || d == '_')) rest
      else if c == 's' then take (.one fun d => d == ' ' || ('\t' ≤ d && d ≤ '\r')) rest
      else if c == 'S' then take (.one fun d => !(d == ' ' || ('\t' ≤ d && d ≤ '\r'))) rest
      else if c == 'b' then take (.wordEdge true true) rest
      else if c == '<' then take (.wordEdge true false) rest
      else if c == '>' then take (.wordEdge false true) rest
      else take (literal c) rest
    | ['\\'] => .error "Trailing backslash"
    | '[' :: rest =>
      match brackets? fold rest with
      | some (e, rest) => take e rest
      | none => .error "Unmatched [, [^, [:, [., or [="
    | '.' :: rest => take (.one (· != '\n')) rest
    | '*' :: rest => if behindBar && !extended then take (literal '*') rest else repeatLast 0 none rest
    | '^' :: rest =>
      if extended || behindBar then branch fuel extended fold inside true (.lineStart :: found) { p with rest }
      else take (literal '^') rest
    | '$' :: rest =>
      let isLast := rest.isEmpty || ['\\', ')'].isPrefixOf rest || ['\\', '|'].isPrefixOf rest
      if extended || isLast then take .lineEnd rest else take (literal '$') rest
    | c :: rest =>
      if extended && c == '(' then group rest
      else if extended && c == ')' && inside then return (found.reverse, p)
      else if extended && c == '|' then return (found.reverse, p)
      else if extended && c == '+' && !found.isEmpty then repeatLast 1 none rest
      else if extended && c == '?' && !found.isEmpty then repeatLast 0 (some 1) rest
      else if extended && c == '\x7b' && !found.isEmpty then
        match bounds? ['\x7d'] rest with
        | some (least, most, rest) => repeatLast least most rest
        | none => take (literal c) rest
      else take (literal c) rest

end

def ofText (extended fold : Bool) (s : String) : Except String Expression := do
  let (e, p) ← alternatives (4 * s.length + 8) extended fold false ⟨s.toList, 0⟩
  if p.rest.isEmpty then return e else .error "Unmatched ) or \\)"

/-- Where a match has come to: the place, and the groups by number. -/
abbrev Reached := Nat × List (Nat × Nat × Nat)

def isWordCharacter (c : Option Char) : Bool := c.any fun c => c.isAlphanum || c == '_'

mutual

def reach (fuel : Nat) (text : Array Char) (e : Element) (at' : Reached) : List Reached :=
  match fuel with
  | 0 => []
  | fuel + 1 =>
    let (i, groups) := at'
    match e with
    | .one p => match text[i]? with
      | some c => if p c then [(i + 1, groups)] else []
      | none => []
    | .lineStart => if i = 0 || text[i - 1]? == some '\n' then [at'] else []
    | .lineEnd => if i = text.size || text[i]? == some '\n' then [at'] else []
    | .wordEdge starts ends =>
      let before := i != 0 && isWordCharacter text[i - 1]?
      let after := isWordCharacter text[i]?
      if (starts && !before && after) || (ends && before && !after) then [at'] else []
    | .group number choices =>
      choices.flatMap fun elements =>
        (reachAll fuel text elements at').map fun (j, groups) => (j, (number, i, j) :: groups.filter (·.1 != number))
    | .repeated least most e =>
      let further := if most == some 0 then [] else
        (reach fuel text e at').flatMap fun next =>
          if next.1 = i then (if least = 0 then [] else [next])
          else reach fuel text (.repeated (least - 1) (most.map (· - 1)) e) next
      further ++ (if least = 0 then [at'] else [])
    | .again number =>
      match groups.lookup number with
      | some (a, b) =>
        let same := (List.range (b - a)).all fun k => text[a + k]? == text[i + k]? && (text[i + k]?).isSome
        if same then [(i + (b - a), groups)] else []
      | none => []

def reachAll (fuel : Nat) (text : Array Char) (elements : List Element) (at' : Reached) : List Reached :=
  match fuel with
  | 0 => []
  | fuel + 1 =>
    match elements with
    | [] => [at']
    | e :: rest => (reach fuel text e at').flatMap (reachAll fuel text rest)

end

/-- The longest match at a place: its end, and its groups. -/
def matchAt? (e : Expression) (text : Array Char) (i : Nat) : Option Reached :=
  let found := e.flatMap fun elements => reachAll (8 * text.size + 200) text elements (i, [])
  found.foldl (fun best r => match best with
    | some (b : Reached) => if b.1 < r.1 then some r else some b
    | none => some r) none

/-- The first match from a place on: its beginning, its end, and its groups. -/
def find? (e : Expression) (text : Array Char) (i : Nat) : Option (Nat × Reached) :=
  (List.range (text.size + 1)).drop i |>.findSome? fun j => (e.matchAt? text j).map (j, ·)

def findAll (e : Expression) (text : Array Char) : List (Nat × Reached) :=
  go (text.size + 2) 0 none
where
  /-- Goes on from a place; an empty match does not follow upon another match. -/
  go (fuel i : Nat) (last : Option Nat) : List (Nat × Reached) :=
    match fuel with
    | 0 => []
    | fuel + 1 =>
      if text.size < i then []
      else
        match e.find? text i with
        | none => []
        | some (start, stop, groups) =>
          if start = stop && last == some start then go fuel (i + 1) none
          else (start, stop, groups) :: go fuel (if stop = start then stop + 1 else stop) (some stop)

end Expression

end Lexicon.Shell.Tool
