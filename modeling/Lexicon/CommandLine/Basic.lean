import Lexicon.FileTree.Disk
import Lexicon.Log.Filter
import Lexicon.Stop
import Lexicon.Text.Hex
import Lexicon.Text.Replace

namespace Lexicon.CommandLine

/-- What a command line is given. No clock is read while it runs: the time of day and the length of every step, in
milliseconds, are given beforehand. -/
structure Invocation where
  arguments : List String
  settings : Settings.Variables
  now : UInt64 := 0
  elapsed : Nat := 0

structure Terminal where
  disk : Disk
  filter : Log.Filter := {}
  stdout : String := ""
  stderr : String := ""

structure Failure where
  message : String
  causes : List String := []
  deriving DecidableEq, Repr

namespace Failure

def indented (lead : String) (cause : String) : String :=
  let margin := "\n" ++ String.ofList (List.replicate lead.length ' ')
  lead ++ Text.replace "\n" margin cause

/-- The report of a failure. Several causes are numbered. -/
def report (f : Failure) : String :=
  let causes := match f.causes with
    | [] => []
    | [cause] => [indented "    " cause]
    | causes => causes.zipIdx.map fun (cause, i) =>
      indented (String.ofList (Text.padStart 5 ' ' (toString i).toList) ++ ": ") cause
  let cause := if causes.isEmpty then "" else "\n\nCaused by:\n" ++ String.intercalate "\n" causes
  "Error: " ++ f.message ++ cause ++ "\n"

end Failure

abbrev Command (α : Type) := ExceptT (Stop Failure) (StateM Terminal) α

namespace Command

def say (line : String) : Command Unit := modify fun t => { t with stdout := t.stdout ++ line ++ "\n" }

def complain (text : String) : Command Unit := modify fun t => { t with stderr := t.stderr ++ text }

def log (m : Log.Message) : Command Unit := do
  if (← get).filter.allows m then complain m.line

/-- Sets up the log as its variable says; without one, information and what matters more is shown. -/
def openLog (v : Settings.Variables) : Command Unit := do
  let (filter, problems) := Log.Filter.read ((v.value? "RUST_LOG").getD "info")
  problems.forM fun problem => complain ("warning: " ++ problem ++ ", ignoring it\n")
  modify fun t => { t with filter }

def writing (w : Writing α) (failure : WriteError → Failure) : Command α := fun t =>
  match w t.disk with
  | (.ok a, disk) => (.ok a, { t with disk })
  | (.error e, disk) => (.error (.failed (failure e)), { t with disk })

def fail (failure : Failure) : Command α := throw (.failed failure)

def ofExcept (failure : ε → Failure) : Except ε α → Command α
  | .ok a => return a
  | .error e => fail (failure e)

def ofStopped (failure : ε → Failure) : Except (Stop ε) α → Command α
  | .ok a => return a
  | .error (.failed e) => fail (failure e)
  | .error .halted => throw .halted

end Command

structure Ended where
  exit : Nat
  terminal : Terminal

/-- Runs a command to its end. The answer of a command is its exit code; a failure is reported and has code one. What
the runtime says about a halt, which has code 101, is left out. -/
def Command.execute (command : Command Nat) (disk : Disk) : Ended :=
  match command { disk } with
  | (.ok exit, terminal) => ⟨exit, terminal⟩
  | (.error (.failed failure), terminal) => ⟨1, { terminal with stderr := terminal.stderr ++ failure.report }⟩
  | (.error .halted, terminal) => ⟨101, terminal⟩

end Lexicon.CommandLine
