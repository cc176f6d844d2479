import Lexicon.Pattern.Normal
import Lexicon.Pattern.Property
import Lexicon.Text.Unicode.CaseFold

namespace Lexicon.Pattern

open Text Text.Unicode

structure Flags where
  caseless : Bool
  multiLine : Bool
  dotAll : Bool
  crlf : Bool
  unicode : Bool
  /-- Repetitions prefer fewer rounds unless a mark says otherwise. -/
  swapped : Bool
  /-- Blanks and comments between the parts of a pattern have no meaning. -/
  spaced : Bool

def Flags.initial : Flags := ⟨false, false, false, false, true, false, false⟩

def Flags.last (flags : Flags) : Nat := if flags.unicode then 0x10FFFF else 0xFF

def Flags.member (flags : Flags) (set : CodeRanges) : Expression :=
  if flags.unicode then .ofScalars set else .ofByteSet set

def foldAscii (set : CodeRanges) : CodeRanges :=
  set.union <| CodeRanges.ofList <| (List.range 26).flatMap fun k =>
    if set.contains (0x41 + k) || set.contains (0x61 + k) then [(0x41 + k, 0x41 + k), (0x61 + k, 0x61 + k)] else []

def Flags.fold (flags : Flags) (set : CodeRanges) : CodeRanges :=
  if !flags.caseless then set else if flags.unicode then foldCase set else foldAscii set

def Flags.polarity (flags : Flags) (negated : Bool) (set : CodeRanges) : CodeRanges :=
  if negated then set.complement flags.last else set

structure State where
  rest : List Char
  flags : Flags
  /-- The names that groups have so far. -/
  names : List (List Char)
  /-- The number of groups that have one. -/
  groups : Nat

def dropSpace : (inComment : Bool) → List Char → List Char
  | _, [] => []
  | true, c :: rest => dropSpace (c != '\n') rest
  | false, c :: rest =>
    if isWhiteSpace c then dropSpace false rest else if c == '#' then dropSpace true rest else c :: rest

def State.skip (st : State) : State :=
  if st.flags.spaced then { st with rest := dropSpace false st.rest } else st

def State.drop1 (st : State) : State := { st with rest := st.rest.drop 1 }

def State.next (st : State) : State := st.drop1.skip

def State.takeWhile (accepts : Char → Bool) (fuel : Nat) (st : State) : List Char × State :=
  match fuel, st.rest with
  | fuel + 1, c :: _ =>
    if accepts c then
      let (cs, st) := st.next.takeWhile accepts fuel
      (c :: cs, st)
    else ([], st)
  | _, _ => ([], st)

def isHex (c : Char) : Bool := c.isDigit || ('a' ≤ c && c ≤ 'f') || ('A' ≤ c && c ≤ 'F')

def scalar? (n : Nat) : Option Char := if h : n.isValidChar then some (Char.ofNatAux n h) else none

inductive Primitive where
  | literal (c : Char)
  /-- A byte given by two hexadecimal digits, where patterns are read byte by byte. -/
  | byte (n : Nat)
  | set (ranges : CodeRanges)
  | place (p : Place)

def hexWidth (c : Char) : Nat := if c == 'x' then 2 else if c == 'u' then 4 else 8

/-- Reads a code point after the letter that announces it: a fixed number of digits, or digits in braces. -/
def readCodePoint (kind : Char) (st : State) : Option (Primitive × State) :=
  match st.rest with
  | [] => none
  | '\x7b' :: _ =>
    let (digits, st) := st.next.takeWhile isHex st.rest.length
    match st.rest with
    | '\x7d' :: _ =>
      if digits.isEmpty then none
      else (scalar? (readHex digits)).map fun c => (.literal c, st.next)
    | _ => none
  | _ =>
    let (digits, after) := st.takeWhile isHex (hexWidth kind)
    if digits.length == hexWidth kind then
      let n := readHex digits
      if kind == 'x' && !st.flags.unicode && 0x7F < n then some (.byte n, after)
      else (scalar? n).map fun c => (.literal c, after)
    else none

def readBraced (st : State) : Option (List Char × State) :=
  let (name, st) := st.next.takeWhile (· != '\x7d') st.rest.length
  match st.rest with
  | _ :: _ => some (name, st.drop1)
  | [] => none

def cutAt (mark : List Char) : List Char → Option (List Char × List Char)
  | [] => none
  | c :: rest =>
    if mark.isPrefixOf (c :: rest) then some ([], (c :: rest).drop mark.length)
    else (cutAt mark rest).map fun (before, after) => (c :: before, after)

/-- The code points of a named property. The name may give a value after an equals sign or a colon. -/
def propertyNamed? (name : List Char) : Option (CodeRanges × Bool) :=
  match cutAt ['!', '='] name with
  | some (property, value) => (propertyValue? (String.ofList property) (String.ofList value)).map (·, true)
  | none =>
    match (cutAt [':'] name) <|> (cutAt ['='] name) with
    | some (property, value) => (propertyValue? (String.ofList property) (String.ofList value)).map (·, false)
    | none => (property? (String.ofList name)).map (·, false)

/-- Reads the name of a property: one letter, or a name in braces. -/
def readProperty (negated : Bool) (st : State) : Option (Primitive × State) := do
  let (name, after) ← match st.rest with
    | [] => none
    | '\x7b' :: _ => readBraced st
    | '\\' :: _ => none
    | c :: _ => some ([c], st.next)
  if !st.flags.unicode then none
  else
    let (ranges, differs) ← propertyNamed? name
    return (.set (st.flags.polarity (negated != differs) (st.flags.fold ranges)), after)

/-- The class that a letter stands for: digits, white space, or what words are made of. -/
def letterClass (flags : Flags) (c : Char) : CodeRanges :=
  let ranges :=
    match c.toLower, flags.unicode with
    | 'd', true => decimalDigit
    | 's', true => whiteSpace
    | _, true => wordCharacter
    | 'd', false => ⟨#[(0x30, 0x39)]⟩
    | 's', false => ⟨#[(0x09, 0x0D), (0x20, 0x20)]⟩
    | _, false => ⟨#[(0x30, 0x39), (0x41, 0x5A), (0x5F, 0x5F), (0x61, 0x7A)]⟩
  flags.polarity c.isUpper ranges

def namedBoundary? (unicode : Bool) : String → Option Place
  | "start" => some (.wordStart unicode)
  | "end" => some (.wordEnd unicode)
  | "start-half" => some (.wordStartHalf unicode)
  | "end-half" => some (.wordEndHalf unicode)
  | _ => none

/-- Reads what follows the letter of a word boundary. Braces that do not begin with a letter or a hyphen belong
to a repetition. -/
def readBoundary (st : State) : Option (Primitive × State) :=
  let plain : Primitive × State := (.place (.wordBoundary st.flags.unicode), st)
  let isNamePart (c : Char) : Bool := c.isAlpha || c == '-'
  match st.rest with
  | '\x7b' :: _ =>
    let inner := st.next
    match inner.rest with
    | [] => none
    | c :: _ =>
      if !isNamePart c then some plain
      else
        let (name, after) := inner.takeWhile isNamePart inner.rest.length
        match after.rest with
        | '\x7d' :: _ =>
          (namedBoundary? st.flags.unicode (String.ofList name)).map fun p => (.place p, after.drop1)
        | _ => none
  | _ => some plain

def isEscapable (c : Char) : Bool :=
  c.toNat < 0x80 && !c.isAlphanum && c != '<' && c != '>'

def readEscape (st : State) : Option (Primitive × State) :=
  let unicode := st.flags.unicode
  match st.rest with
  | [] => none
  | c :: _ =>
    let after := st.drop1
    match c with
    | 'x' | 'u' | 'U' => readCodePoint c st.next
    | 'p' => readProperty false st.next
    | 'P' => readProperty true st.next
    | 'd' | 's' | 'w' | 'D' | 'S' | 'W' => some (.set (letterClass st.flags c), after)
    | 'a' => some (.literal '\x07', after)
    | 'f' => some (.literal '\x0c', after)
    | 't' => some (.literal '\t', after)
    | 'n' => some (.literal '\n', after)
    | 'r' => some (.literal '\r', after)
    | 'v' => some (.literal '\x0b', after)
    | 'A' => some (.place .textStart, after)
    | 'z' => some (.place .textEnd, after)
    | 'b' => readBoundary after
    | 'B' => some (.place (.noWordBoundary unicode), after)
    | '<' => some (.place (.wordStart unicode), after)
    | '>' => some (.place (.wordEnd unicode), after)
    | c => if isEscapable c then some (.literal c, after) else none

/-! ### Bracketed classes -/

inductive ClassOperator where
  | intersection
  | difference
  | symmetricDifference

def ClassOperator.combine (last : Nat) (a b : CodeRanges) : ClassOperator → CodeRanges
  | intersection => a.intersect last b
  | difference => a.difference last b
  | symmetricDifference => a.symmetricDifference last b

/-- A bracketed class while it is read: the union of the items since the last operator, how many they are and how
deeply they nest, and the operand before that operator. -/
structure Operand where
  union : CodeRanges
  items : Nat
  depth : Nat
  left : Option (ClassOperator × CodeRanges × Nat)

def Operand.add (o : Operand) (set : CodeRanges) (depth : Nat) : Operand :=
  { o with union := o.union.union set, items := o.items + 1, depth := max o.depth depth }

def Operand.close (flags : Flags) (o : Operand) : CodeRanges × Nat :=
  let depth := if 2 ≤ o.items then o.depth + 1 else o.depth
  match o.left with
  | none => (o.union, depth)
  | some (op, left, leftDepth) =>
    (op.combine flags.last (flags.fold left) (flags.fold o.union), max leftDepth depth + 1)

def Operand.operator (flags : Flags) (o : Operand) (op : ClassOperator) : Operand :=
  let (left, depth) := o.close flags
  ⟨.empty, 0, 0, some (op, left, depth)⟩

def readAsciiClass (flags : Flags) (cs : List Char) : Option (CodeRanges × List Char) :=
  match cs with
  | ':' :: cs =>
    let negated := cs.head? == some '^'
    let cs := if negated then cs.drop 1 else cs
    match cs.dropWhile (· != ':') with
    | ':' :: ']' :: rest =>
      (asciiClass? (String.ofList (cs.takeWhile (· != ':')))).map fun set =>
        (flags.polarity negated (flags.fold set), rest)
    | _ => none
  | _ => none

def readItem (st : State) : Option (Primitive × State) :=
  match st.rest with
  | [] => none
  | '\\' :: _ => readEscape st.drop1
  | c :: _ => some (.literal c, st.drop1)

/-- The value of an item that may be an end of a range, together with its number as a member of the class. Where
patterns are read byte by byte, a character beyond ASCII is no member. -/
def Primitive.end? (flags : Flags) : Primitive → Option Nat
  | .literal c => if flags.unicode || c.toNat < 0x80 then some c.toNat else none
  | .byte n => some n
  | _ => none

def behindHyphen (st : State) : Option Char :=
  let rest := st.rest.drop 1
  if !st.flags.spaced then rest.head?
  else
    let rest := rest.dropWhile isWhiteSpace
    if rest.head? == some '#' then ((rest.drop 1).dropWhile isWhiteSpace).head? else rest.head?

/-- Reads an item or a range. A hyphen before a closing bracket or before another hyphen begins no range. -/
def readRange (st : State) : Option (CodeRanges × State) := do
  let (first, st) ← readItem st
  let st := st.skip
  if st.rest.isEmpty then none
  else if st.rest.head? != some '-' || behindHyphen st == some ']' || behindHyphen st == some '-' then
    match first with
    | .set ranges => return (ranges, st)
    | _ => return (.single (← first.end? st.flags), st)
  else
    let (second, st) ← readItem st.next
    let low ← first.end? st.flags
    let high ← second.end? st.flags
    if low ≤ high then return (⟨#[(low, high)]⟩, st) else none

def takeHyphens (fuel : Nat) (o : Operand) (st : State) : Operand × State :=
  match fuel, st.rest with
  | fuel + 1, '-' :: _ => takeHyphens fuel (o.add (.single '-'.toNat) 0) st.next
  | _, _ => (o, st)

mutual

/-- Reads a bracketed class after its opening bracket. The answer is its members and how deeply it nests. -/
def readClass (fuel : Nat) (st : State) : Option (CodeRanges × Nat × State) :=
  match fuel with
  | 0 => none
  | fuel + 1 =>
    let st := st.skip
    let negated := st.rest.head? == some '^'
    let st := if negated then st.next else st
    let (o, st) := takeHyphens st.rest.length ⟨.empty, 0, 0, none⟩ st
    if o.items == 0 && st.rest.head? == some ']' then
      readItems fuel negated (o.add (.single ']'.toNat) 0) st.next
    else readItems fuel negated o st

def readItems (fuel : Nat) (negated : Bool) (o : Operand) (st : State) : Option (CodeRanges × Nat × State) :=
  match fuel with
  | 0 => none
  | fuel + 1 =>
    let st := st.skip
    match st.rest with
    | [] => none
    | '[' :: rest =>
      match readAsciiClass st.flags rest with
      | some (set, rest) => readItems fuel negated (o.add set 0) { st with rest }
      | none =>
        match readClass fuel st.drop1 with
        | some (set, depth, st) => readItems fuel negated (o.add set depth) st
        | none => none
    | ']' :: _ =>
      let (set, depth) := o.close st.flags
      some (st.flags.polarity negated (st.flags.fold set), depth + 1, st.drop1)
    | '&' :: '&' :: rest => readItems fuel negated (o.operator st.flags .intersection) { st with rest }
    | '-' :: '-' :: rest => readItems fuel negated (o.operator st.flags .difference) { st with rest }
    | '~' :: '~' :: rest => readItems fuel negated (o.operator st.flags .symmetricDifference) { st with rest }
    | _ =>
      match readRange st with
      | some (set, st) => readItems fuel negated (o.add set 0) st
      | none => none

end

/-! ### Repetitions, groups and alternatives -/

/-- A part of a pattern that has been read, and how deeply it nests. Switches are parts that cannot be
repeated. -/
structure Part where
  expression : Expression
  depth : Nat
  isSwitch : Bool

def repeatLast (least : Nat) (most : Option Nat) (greedy : Bool) : List Part → Option (List Part)
  | part :: before =>
    if part.isSwitch then none
    else some (⟨part.expression.times least most greedy, part.depth + 1, false⟩ :: before)
  | [] => none

def readCount (st : State) : Option (Nat × State) :=
  let st := { st with rest := st.rest.dropWhile isWhiteSpace }
  let (digits, st) := st.takeWhile Char.isDigit st.rest.length
  let st := { st with rest := st.rest.dropWhile isWhiteSpace }
  let n := digits.foldl (fun n c => n * 10 + digitValue c) 0
  if digits.isEmpty || UInt32.size ≤ n then none else some (n, st.skip)

def readCounts (st : State) : Option ((Nat × Option Nat) × State) := do
  let (least, st) ← readCount st.skip
  let (most, st) ← match st.rest with
    | ',' :: _ =>
      let st := st.next
      if st.rest.head? == some '\x7d' then pure (none, st)
      else do
        let (most, st) ← readCount st
        pure (some most, st)
    | _ => pure (some least, st)
  match st.rest with
  | '\x7d' :: _ => if most.all (least ≤ ·) then some ((least, most), st.next) else none
  | _ => none

def takePreference (st : State) : Bool × State :=
  if st.rest.head? == some '?' then (st.flags.swapped, st.drop1) else (!st.flags.swapped, st)

def readFlags : (negated : Bool) → (seen : List Char) → Flags → List Char →
    Option (Flags × List Char × List Char)
  | _, _, _, [] => none
  | negated, seen, flags, c :: rest =>
    if c == ':' || c == ')' then
      if seen.head? == some '-' then none else some (flags, seen, c :: rest)
    else if seen.contains c then none
    else
      match c with
      | '-' => readFlags true (c :: seen) flags rest
      | 'i' => readFlags negated (c :: seen) { flags with caseless := !negated } rest
      | 'm' => readFlags negated (c :: seen) { flags with multiLine := !negated } rest
      | 's' => readFlags negated (c :: seen) { flags with dotAll := !negated } rest
      | 'U' => readFlags negated (c :: seen) { flags with swapped := !negated } rest
      | 'u' => readFlags negated (c :: seen) { flags with unicode := !negated } rest
      | 'R' => readFlags negated (c :: seen) { flags with crlf := !negated } rest
      | 'x' => readFlags negated (c :: seen) { flags with spaced := !negated } rest
      | _ => none

def isGroupNameChar (first : Bool) (c : Char) : Bool :=
  c == '_' || alphabetic.contains c.toNat ||
    (!first && (c == '.' || c == '[' || c == ']' || (categoryOf c.toNat).startsWith "N"))

def readGroupName (st : State) : Option State :=
  let name := st.rest.takeWhile (· != '>')
  match st.rest.dropWhile (· != '>'), name with
  | _ :: rest, first :: others =>
    if isGroupNameChar true first && others.all (isGroupNameChar false) && !st.names.contains name then
      some { st with rest, names := name :: st.names, groups := st.groups + 1 }
    else none
  | _, _ => none

/-- What an opening parenthesis begins: a group, which may have a number, or switches. -/
inductive Opening where
  | group (number : Option Nat) (st : State)
  | switch (st : State)

def Opening.numbered (st : State) : Opening := .group (some st.groups) st

def readOpening (st : State) : Option Opening :=
  match st.rest with
  | '?' :: '=' :: _ | '?' :: '!' :: _ | '?' :: '<' :: '=' :: _ | '?' :: '<' :: '!' :: _ => none
  | '?' :: 'P' :: '<' :: rest => (readGroupName { st with rest }).map .numbered
  | '?' :: '<' :: rest => (readGroupName { st with rest }).map .numbered
  | '?' :: rest => do
    let (flags, seen, rest) ← readFlags false [] st.flags rest
    if rest.head? == some ':' then return .group none { st with flags, rest := rest.drop 1 }
    else if seen.isEmpty then none
    else return .switch { st with flags, rest := rest.drop 1 }
  | _ => some (.numbered { st with groups := st.groups + 1 })

/-- One or several parts as one, and how deeply they nest. The parts come in reverse. -/
def joinParts (parts : List Part) : Expression × Nat :=
  let depth := (parts.map (·.depth)).foldl max 0
  (.join (parts.reverse.map (·.expression)), if parts.length ≤ 1 then depth else depth + 1)

/-- Alternatives as one expression, and how deeply they nest. They come in reverse. -/
def joinBranches (branches : List (Expression × Nat)) : Expression × Nat :=
  let depth := (branches.map (·.2)).foldl max 0
  (.oneOf (branches.reverse.map (·.1)), if branches.length ≤ 1 then depth else depth + 1)

def literalExpression (flags : Flags) (c : Char) : Expression :=
  let plain := CodeRanges.single c.toNat
  if !flags.caseless then .ofChar c
  else if flags.unicode then .ofScalars (foldCase plain)
  else if c.isAlpha then .ofByteSet (foldAscii plain)
  else .ofChar c

def Primitive.expression (flags : Flags) : Primitive → Expression
  | .literal c => literalExpression flags c
  | .byte n => .literal [n.toUInt8]
  | .set ranges => flags.member ranges
  | .place p => .place p

/-- What a dot stands for: anything, or anything that does not end a line. -/
def dotExpression (flags : Flags) : Expression :=
  let stops := if flags.dotAll then [] else if flags.crlf then [(10, 10), (13, 13)] else [(10, 10)]
  flags.member ((CodeRanges.ofList stops).complement flags.last)

def caretPlace (flags : Flags) : Place :=
  if !flags.multiLine then .textStart else if flags.crlf then .anyLineStart else .lineStart

def dollarPlace (flags : Flags) : Place :=
  if !flags.multiLine then .textEnd else if flags.crlf then .anyLineEnd else .lineEnd

mutual

def readBranches (fuel : Nat) (done : List (Expression × Nat)) (st : State) :
    Option (List (Expression × Nat) × State) :=
  match fuel with
  | 0 => none
  | fuel + 1 =>
    match readParts fuel [] st with
    | none => none
    | some (parts, st) =>
      let done := joinParts parts :: done
      if st.rest.head? == some '|' then readBranches fuel done st.drop1 else some (done, st)

/-- Reads the parts of one alternative, in reverse. -/
def readParts (fuel : Nat) (parts : List Part) (st : State) : Option (List Part × State) :=
  match fuel with
  | 0 => none
  | fuel + 1 =>
    let st := st.skip
    let flags := st.flags
    match st.rest with
    | [] | '|' :: _ | ')' :: _ => some (parts, st)
    | '(' :: _ =>
      match readOpening st.next with
      | none => none
      | some (.switch st) => readParts fuel (⟨.empty, 0, true⟩ :: parts) st
      | some (.group number inner) =>
        match readBranches fuel [] inner with
        | none => none
        | some (branches, after) =>
          let (body, depth) := joinBranches branches
          let expression := match number with
            | some n => .group n body
            | none => body
          if after.rest.head? == some ')' then
            readParts fuel (⟨expression, depth + 1, false⟩ :: parts) { after.drop1 with flags }
          else none
    | '[' :: _ =>
      match readClass (2 * st.rest.length) st.drop1 with
      | none => none
      | some (set, depth, st) => readParts fuel (⟨flags.member set, depth, false⟩ :: parts) st
    | '?' :: _ => repeatAndRead fuel 0 (some 1) parts st.drop1
    | '*' :: _ => repeatAndRead fuel 0 none parts st.drop1
    | '+' :: _ => repeatAndRead fuel 1 none parts st.drop1
    | '\x7b' :: _ =>
      match readCounts st.drop1 with
      | none => none
      | some ((least, most), st) => repeatAndRead fuel least most parts st
    | '\\' :: _ =>
      match readEscape st.drop1 with
      | none => none
      | some (primitive, st) => readParts fuel (⟨primitive.expression flags, 0, false⟩ :: parts) st
    | '.' :: _ => readParts fuel (⟨dotExpression flags, 0, false⟩ :: parts) st.drop1
    | '^' :: _ => readParts fuel (⟨.place (caretPlace flags), 0, false⟩ :: parts) st.drop1
    | '$' :: _ => readParts fuel (⟨.place (dollarPlace flags), 0, false⟩ :: parts) st.drop1
    | c :: _ => readParts fuel (⟨literalExpression flags c, 0, false⟩ :: parts) st.drop1

def repeatAndRead (fuel : Nat) (least : Nat) (most : Option Nat) (parts : List Part) (st : State) :
    Option (List Part × State) :=
  let (greedy, st) := takePreference st
  match fuel, repeatLast least most greedy parts with
  | fuel + 1, some parts => readParts fuel parts st
  | _, _ => none

end

def nestLimit : Nat := 250

def read? (text : String) : Option Expression := do
  let cs := text.toList
  let (branches, st) ← readBranches (4 * cs.length + 4) [] ⟨cs, .initial, [], 0⟩
  let (expression, depth) := joinBranches branches
  if st.rest.isEmpty && depth ≤ nestLimit then some expression else none

end Lexicon.Pattern
