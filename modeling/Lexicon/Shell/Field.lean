import Lexicon.Shell.Glob

namespace Lexicon.Shell

inductive Glyph where
  | character (c : Char) (quoted : Bool)
  | mark
  | gap
  deriving DecidableEq, Repr

def Glyph.letter? : Glyph → Option Letter
  | character c quoted => some (c, quoted)
  | _ => none

inductive Parting where
  | nowhere
  | atSeparators
  | atGaps
  deriving DecidableEq, Repr

structure Stretch where
  parting : Parting
  glyphs : List Glyph
  deriving Repr

def Stretch.whole (quoted : Bool) (s : String) : Stretch := ⟨.nowhere, s.toList.map (.character · quoted)⟩

def lettersOf (stretches : List Stretch) : List Letter :=
  stretches.flatMap fun s => s.glyphs.filterMap Glyph.letter?

def isFieldBlank (c : Char) : Bool := c == ' ' || c == '\t' || c == '\n'

/-- Fields in the making; the latest field and the latest glyph come first. -/
structure Fields where
  complete : List (List Glyph) := []
  current : List Glyph := []
  absorbing : Bool := false
  /-- How many fields are left, if there is a limit. The last field takes all that follows. -/
  left : Option Nat := none
  kept : Option Nat := none

namespace Fields

def addLast (f : Fields) (isSeparator isBlank : Bool) (g : Glyph) : Fields :=
  let current := g :: f.current
  if isBlank then { f with current, kept := f.kept <|> some f.current.length }
  else { f with current, kept := if isSeparator && f.absorbing then f.kept else none, absorbing := false }

/-- Adds a glyph that may be a separator. Behind arguments, no blanks are absorbed. -/
def addSeparable (f : Fields) (isSeparator isBlank absorbs : Bool) (g : Glyph) : Fields :=
  if f.left == some 0 then f.addLast isSeparator isBlank g
  else if f.absorbing && isSeparator && isBlank then f
  else if f.absorbing && isSeparator then { f with absorbing := false }
  else
    let f := { f with absorbing := false }
    if !isSeparator then { f with current := g :: f.current }
    else
      let absorbing := absorbs && isBlank
      if f.current.isEmpty && absorbing then f
      else if f.left == some 1 then
        { f with left := some 0, kept := some f.current.length, current := g :: f.current, absorbing }
      else
        { f with
          complete := f.current.reverse :: f.complete, current := [], absorbing, left := f.left.map (· - 1) }

/-- Adds a stretch; `afterGaps` tells that the one in front that was parted was parted at gaps. -/
def addStretch (separators : List Char) (afterGaps : Bool) (f : Fields) (s : Stretch) : Fields :=
  match s.parting with
  | .nowhere => { f with current := s.glyphs.reverse ++ f.current }
  | parting =>
    s.glyphs.foldl (fun f g =>
      match g with
      | .gap => f.addSeparable true true (parting == .atSeparators && !afterGaps) g
      | .character c _ =>
        let isSeparator := parting == .atSeparators && separators.contains c
        f.addSeparable isSeparator (isSeparator && isFieldBlank c) (!afterGaps) g
      | .mark => { f with current := g :: f.current }) { f with absorbing := false }

def addStretches (separators : List Char) : (afterGaps : Bool) → Fields → List Stretch → Fields × Bool
  | afterGaps, f, [] => (f, afterGaps)
  | afterGaps, f, s :: rest =>
    addStretches separators (if s.parting == .nowhere then afterGaps else s.parting == .atGaps)
      (f.addStretch separators afterGaps s) rest

/-- The fields of stretches; not more than `limit`, if it is given. -/
def ofStretches (separators : List Char) (stretches : List Stretch) (limit : Option Nat := none) :
    List (List Letter) :=
  let (f, afterGaps) := addStretches separators false { left := limit } stretches
  let current := match f.kept with
    | some n => f.current.drop (f.current.length - n)
    | none => f.current
  let all := if current.isEmpty && !afterGaps then f.complete else current.reverse :: f.complete
  all.reverse.map (·.filterMap Glyph.letter?)

end Fields

def trimmed? (value : String) (atEnd longest : Bool) (pattern : List Letter) : Option String :=
  let cs := value.toList
  let lengths := List.range (cs.length + 1)
  let lengths := if longest then lengths.reverse else lengths
  let part (n : Nat) := if atEnd then cs.drop (cs.length - n) else cs.take n
  (lengths.find? fun n => Glob.accepts pattern (String.ofList (part n))).map fun n =>
    String.ofList (if atEnd then cs.take (cs.length - n) else cs.drop n)

/-- Arguments without the shortest end of one of them that a pattern matches, and all behind it; the last such argument
counts. -/
def cutArguments? (pattern : List Letter) : List String → Option (List String)
  | [] => none
  | a :: rest =>
    match cutArguments? pattern rest with
    | some rest => some (a :: rest)
    | none => (trimmed? a true false pattern).map ([·])

/-- Arguments that stay apart, without a part that a pattern matches. It lies in the first one, but for the shortest
part at the end. What is behind goes with it at the end, and at the beginning if the longest part is all of the first
argument. -/
def trimArguments (arguments : List String) (atEnd longest : Bool) (pattern : List Letter) : List String :=
  match arguments, atEnd, longest with
  | [], _, _ => []
  | _, true, false => (cutArguments? pattern arguments).getD arguments
  | a :: rest, true, true => ((trimmed? a true true pattern).map ([·])).getD (a :: rest)
  | a :: rest, false, _ =>
    match trimmed? a false longest pattern with
    | some kept => if longest && kept.isEmpty then [""] else kept :: rest
    | none => a :: rest

end Lexicon.Shell
