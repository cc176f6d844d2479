import Lexicon.Shell.Tool.Basic
import Lexicon.Shell.Tool.Expression

namespace Lexicon.Shell.Tool

open Run

inductive PatternKind where
  | basic
  | extended
  | fixed
  deriving DecidableEq

def fixedExpression (fold : Bool) (s : String) : Expression :=
  [s.toList.map fun c => .one fun d => d == c || (fold && d.toLower == c.toLower)]

def withContext (before after count : Nat) (chosen : List Nat) : List Nat :=
  (List.range count).filter fun i => chosen.any fun c => i ≤ c + after && c ≤ i + before

def searching (kind : PatternKind) : Action := fun args =>
  let usage : Usage := {
    plain := "viclnLqsEFGoxwHhaIrR", valued := "efmABC", misuse := 2
    long := [("invert-match", 'v'), ("ignore-case", 'i'), ("count", 'c'), ("quiet", 'q'), ("silent", 'q'),
      ("line-number", 'n'), ("extended-regexp", 'E'), ("fixed-strings", 'F'), ("only-matching", 'o'),
      ("line-regexp", 'x'), ("word-regexp", 'w'), ("files-with-matches", 'l'), ("max-count", 'm'), ("regexp", 'e'),
      ("no-messages", 's')] }
  usage.handle "grep" args fun a => do
    let given := a.values 'e'
    let (patterns, paths) := if given.isEmpty then (a.operands.take 1, a.operands.drop 1) else (given, a.operands)
    if patterns.isEmpty then
      Action.note "Usage: grep [OPTION]... PATTERNS [FILE]..."
      Action.note "Try 'grep --help' for more information."
      return 2
    let kind := if a.has 'F' then .fixed else if a.has 'E' then .extended else kind
    let expressions := (patterns.flatMap fun p => (Text.splitAt '\n' p.toList).map String.ofList).mapM fun p =>
      if kind = .fixed then .ok (fixedExpression (a.has 'i') p) else Expression.ofText (kind = .extended) (a.has 'i') p
    match expressions with
    | .error text =>
      warn "grep" text
      return 2
    | .ok expressions =>
      let isWord (text : Array Char) (start stop : Nat) : Bool :=
        !(start != 0 && Expression.isWordCharacter text[start - 1]?) && !Expression.isWordCharacter text[stop]?
      let fits (text : Array Char) (m : Nat × Expression.Reached) : Bool :=
        (!a.has 'x' || (m.1 = 0 && m.2.1 = text.size)) && (!a.has 'w' || isWord text m.1 m.2.1)
      let matchesOf (l : String) : List (Nat × Nat) :=
        let text := l.toList.toArray
        expressions.flatMap fun e =>
          let found := if a.has 'x' then ((e.matchAt? text 0).map (0, ·)).toList
            else if a.has 'o' || a.has 'w' then e.findAll text else (e.find? text 0).toList
          (found.filter (fits text)).map fun m => (m.1, m.2.1)
      let limit := (a.value? 'm').bind String.toNat?
      let named := (1 < paths.length && !a.has 'h') || a.has 'H'
      let around (c : Char) : Nat := ((a.value? c <|> a.value? 'C').bind String.toNat?).getD 0
      let mut any := false
      let mut good := true
      let mut parted := false
      for path in (if paths.isEmpty then ["-"] else paths) do
        if any && a.has 'q' then return 0
        let read ← content path
        if let .error text := read then
          if !a.has 's' then warn "grep" text
          good := false
          if !text.endsWith ": Is a directory" then continue
        let text := read.toOption.getD ""
        let label := if path == "-" then "(standard input)" else path
        let lines := (linesOf text).1.zipIdx
        let chosen := lines.filter fun (l, _) => (matchesOf l).isEmpty == a.has 'v'
        let chosen := match limit with
          | some n => chosen.take n
          | none => chosen
        if !chosen.isEmpty then any := true
        let marked (mark : String) (i : Nat) : String :=
          (if named then label ++ mark else "") ++ (if a.has 'n' then toString (i + 1) ++ mark else "")
        let front := marked ":"
        if a.has 'q' then pure ()
        else if a.has 'l' then write 1 (if chosen.isEmpty then "" else label ++ "\n")
        else if a.has 'L' then write 1 (if chosen.isEmpty then label ++ "\n" else "")
        else if a.has 'c' then write 1 ((if named then label ++ ":" else "") ++ toString chosen.length ++ "\n")
        else if a.has 'o' then
          if !a.has 'v' then
            for (l, i) in chosen do
              for (start, stop) in (matchesOf l).mergeSort (fun x y => decide (x.1 ≤ y.1)) do
                if start < stop then write 1 (front i ++ String.ofList ((l.toList.take stop).drop start) ++ "\n")
        else if around 'A' + around 'B' = 0 then write 1 (unlines (chosen.map fun (l, i) => front i ++ l))
        else
          let places := chosen.map (·.2)
          let mut latest : Option Nat := none
          for i in withContext (around 'B') (around 'A') lines.length places do
            if (latest.all (· + 1 != i)) && (parted || latest.isSome) then write 1 "--\n"
            write 1 (marked (if places.contains i then ":" else "-") i ++ ((lines[i]?).map (·.1)).getD "" ++ "\n")
            latest := some i
            parted := true
      return if !good then (if a.has 'q' && any then 0 else 2) else if any then 0 else 1

def searchTools : List (String × Action) := [
  ("grep", searching .basic), ("egrep", searching .extended), ("fgrep", searching .fixed)]

end Lexicon.Shell.Tool
