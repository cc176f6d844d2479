import Lexicon.Conformance.Case
import Lexicon.Bounded

namespace Lexicon.Conformance

open Text (Bytes)

/-- An exit that was not expected. The actual code is missing if a signal ended the process. -/
structure ExitMismatch where
  expected : ExitExpectation
  actual : Option Int32
  deriving DecidableEq, Repr

inductive Failure where
  | spawn (command error : String)
  | run (command : String) (output : Bytes) (predicateFailed : Bool) (exit : Option ExitMismatch)
  deriving DecidableEq, Repr

inductive Outcome where
  | passed
  | skipped
  | failed (failure : Failure)
  deriving DecidableEq, Repr

structure CaseReport where
  name : String
  outcome : Outcome
  deriving DecidableEq, Repr

structure Report where
  cases : List CaseReport
  deriving DecidableEq, Repr

structure Palette where
  failure : String
  success : String
  normal : String

/-- Red, green and normal, as escape sequences. -/
def Palette.color : Palette := ⟨"\x1b[31m", "\x1b[32m", "\x1b[0m"⟩

def Palette.plain : Palette := ⟨"", "", ""⟩

def exitText : Option Int32 → String
  | some code => toString code.toInt
  | none => "signal"

def CaseReport.lines (p : Palette) (c : CaseReport) : List String :=
  let running := "Running test `" ++ c.name ++ "`"
  let failed (what : String) : String := p.failure ++ "TEST `" ++ c.name ++ "` FAILED: " ++ what ++ p.normal
  match c.outcome with
  | .passed => [running]
  | .skipped => ["Skipped test `" ++ c.name ++ "` (not applicable)"]
  | .failed (.spawn command error) => [running, failed ("could not run " ++ command ++ ": " ++ error)]
  | .failed (.run command output predicateFailed exit) =>
    [running]
    ++ (if predicateFailed then [failed ("Output from command " ++ command ++ " does not meet predicate.")] else [])
    ++ (match exit with
      | some m => [failed ("exit status " ++ exitText m.actual ++ ", expected " ++ m.expected.text)]
      | none => [])
    ++ [p.failure ++ "Actual..." ++ p.normal, Text.lossy output]

namespace Report

def count (r : Report) (kind : Outcome → Bool) : Nat := (r.cases.filter fun c => kind c.outcome).length

def passed (r : Report) : Nat := r.count fun | .passed => true | _ => false

def skipped (r : Report) : Nat := r.count fun | .skipped => true | _ => false

def failed (r : Report) : Nat := r.count fun | .failed _ => true | _ => false

def allPassed (r : Report) : Bool := r.failed == 0

def exitCode (r : Report) : Nat := if r.allPassed then 0 else 1

def successLine (p : Palette) (r : Report) : String :=
  p.success ++ "All tests passed (" ++ toString r.passed ++ " run, " ++ toString r.skipped ++ " skipped)..." ++ p.normal

def failureLine (p : Palette) (r : Report) (run : Nat) : String :=
  p.failure ++ toString r.failed ++ " of " ++ toString run ++ " tests failed, exiting with status of 1..." ++ p.normal

/-- The last line. There is none if more cases are skipped than there are. -/
def summary? (p : Palette) (r : Report) : Option String :=
  if r.allPassed then some (r.successLine p)
  else (Bounded.minus? r.cases.length r.skipped).map (r.failureLine p)

/-- The lines that are shown: a block for each case, and the last line. -/
def lines? (p : Palette) (r : Report) : Option (List String) :=
  (r.summary? p).map fun last => r.cases.flatMap (·.lines p) ++ [last]

def render? (r : Report) (color : Bool) : Option String :=
  (r.lines? (if color then .color else .plain)).map fun lines => String.join (lines.map (· ++ "\n"))

end Report

end Lexicon.Conformance
