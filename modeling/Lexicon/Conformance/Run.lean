import Lexicon.Conformance.Output
import Lexicon.Conformance.Report
import Lexicon.FileTree.OsError
import Lexicon.Text.Quoted

/-!
Runs of conformance cases. How programs behave is left open: a launcher starts a program in some world and tells how
it ended. The cases may be taken in any order; the report has them in the order of their declaration.
-/
namespace Lexicon.Conformance

open Text (Bytes)

/-- How a process ended, and what it printed. The code is missing if a signal ended it. -/
structure Ending where
  stdout : Bytes
  stderr : Bytes
  code : Option Int32
  deriving DecidableEq, Repr

abbrev Launcher (σ : Type) := String → List String → StateM σ (Except OsError Ending)

namespace Case

def command (executable : String) (c : Case) : String :=
  Text.quotedList (c.program.resolve executable :: c.args)

def mismatch? (c : Case) (code : Option Int32) : Option ExitMismatch :=
  if c.exit.accepts code then none else some ⟨c.exit, code⟩

/-- What becomes of a case by how its program ended. Output and exit are looked at apart from each other. -/
def outcomeOf (c : Case) (command : String) : Except OsError Ending → Outcome
  | .error e => .failed (.spawn command e.message)
  | .ok ending =>
    let output := normalizeOutput ending.stdout ending.stderr
    let predicateFailed := !c.check.accepts output
    let exit := c.mismatch? ending.code
    if predicateFailed || exit.isSome then .failed (.run command output predicateFailed exit) else .passed

variable {σ : Type}

def run (launch : Launcher σ) (executable : String) (c : Case) : StateM σ CaseReport := do
  if c.appliesHere then
    return ⟨c.name, c.outcomeOf (c.command executable) (← launch (c.program.resolve executable) c.args)⟩
  else return ⟨c.name, .skipped⟩

end Case

structure Schedule (n : Nat) where
  order : List (Fin n)
  perm : order.Perm (List.finRange n)

def Schedule.declared (n : Nat) : Schedule n := ⟨List.finRange n, .refl _⟩

namespace Report

variable {σ : Type}

/-- Runs cases in the order of a schedule. Failures stop nothing. -/
def ofRun (launch : Launcher σ) (executable : String) (cases : List Case) (schedule : Schedule cases.length) :
    StateM σ Report := do
  let done ← schedule.order.mapM fun i => do return (i, ← cases[i].run launch executable)
  return ⟨(List.finRange cases.length).filterMap fun i => List.lookup i done⟩

end Report

end Lexicon.Conformance
