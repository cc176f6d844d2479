import Lexicon.Log.Message
import Lexicon.Pattern.Match
import Lexicon.Settings.Variables

/-!
Which log messages are shown. A filter is written as directives between commas: a level alone, the name of a part of
the program alone, or a name, an equals sign and a level. A pattern for the text may follow a slash.
-/
namespace Lexicon.Log

/-- Shows messages up to a rank, of the parts whose names begin with `origin`. Without a name, of all parts. -/
structure Directive where
  origin : Option String
  rank : Nat
  deriving DecidableEq, Repr

structure Filter where
  directives : List Directive := []
  pattern : Option Pattern := none

namespace Filter

/-- The rank that a level names, in any case; no level is below `off`. -/
def rank? (s : String) : Option Nat :=
  let s := s.map Char.toUpper
  if s = "OFF" then some 0 else (Level.all.find? (·.label == s)).map (·.rank)

def directive? (s : String) : Except String Directive :=
  match (Text.splitAt '=' s.toList).map String.ofList with
  | [part] =>
    match rank? part with
    | some n => .ok ⟨none, n⟩
    | none => .ok ⟨some part, Level.trace.rank⟩
  | [origin, level] =>
    let level := Settings.trim level
    if level.isEmpty then .ok ⟨some origin, Level.trace.rank⟩
    else
      match rank? level with
      | some n => .ok ⟨some origin, n⟩
      | none => .error ("invalid logging spec '" ++ level ++ "'")
  | _ => .error ("invalid logging spec '" ++ s ++ "'")

def add (ds : List Directive) (d : Directive) : List Directive :=
  if ds.any (·.origin == d.origin) then ds.map fun old => if old.origin == d.origin then d else old else ds ++ [d]

def readDirectives (s : String) : List Directive × List String :=
  let parts := (Text.splitAt ',' s.toList).map fun cs => Settings.trim (String.ofList cs)
  (parts.filter fun part => !part.isEmpty).foldl (fun (ds, problems) part =>
    match directive? part with
    | .ok d => (add ds d, problems)
    | .error problem => (ds, problems ++ [problem])) ([], [])

def read (s : String) : Filter × List String :=
  match (Text.splitAt '/' s.toList).map String.ofList with
  | [directives] =>
    let (ds, problems) := readDirectives directives
    (⟨ds, none⟩, problems)
  | [directives, pattern] =>
    let (ds, problems) := readDirectives directives
    match Pattern.ofText pattern with
    | .ok p => (⟨ds, some p⟩, problems)
    | .error fault => (⟨ds, none⟩, problems ++ ["invalid regex filter - " ++ fault.message])
  | _ => ({}, ["invalid logging spec '" ++ s ++ "' (too many '/'s)"])

/-- The length of the name that a directive is for. -/
def Directive.weight (d : Directive) : Nat := (d.origin.map String.utf8ByteSize).getD 0

/-- The rank up to which messages of a part are shown: that of the directive with the longest name that fits. Without
any directive only errors are shown. -/
def rankFor (f : Filter) (origin : String) : Nat :=
  if f.directives.isEmpty then Level.error.rank
  else
    let byWeight := f.directives.mergeSort fun a b => Directive.weight a ≤ Directive.weight b
    match byWeight.reverse.find? fun d => d.origin.all fun name => origin.startsWith name with
    | some d => d.rank
    | none => 0

def allows (f : Filter) (m : Message) : Bool :=
  m.level.rank ≤ f.rankFor m.origin && f.pattern.all fun p => p.isMatch (Text.utf8 m.text)

end Filter

end Lexicon.Log
