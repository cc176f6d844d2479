import Lexicon.CommandLine.Basic
import Lexicon.Conformance.Executable
import Lexicon.Conformance.ManifestFile
import Lexicon.Conformance.Run
import Lexicon.Settings.Options

namespace Lexicon.CommandLine

open Command Conformance

def Failure.ofExecutable (e : ExecutableError) : Failure :=
  ⟨e.message, e.fault.toList.map SearchFault.message⟩

def Failure.ofManifest (path : String) (e : ManifestError) : Failure :=
  ⟨"loading " ++ path, [e.message, e.cause]⟩

def defaultManifest : String := "e2e/cases.json"

def platformName : Platform → String
  | .windows => "Windows"
  | .unix => "Unix"

def runner : String := "tokengen::harness::runner"

def caseMessage (executable : String) (c : Case) : Log.Message :=
  if c.appliesHere then
    ⟨.debug, runner, "[conform] running `" ++ c.name ++ "`: " ++ c.command executable⟩
  else
    let only := match c.onlyOn with
      | some p => "Some(" ++ platformName p ++ ")"
      | none => "None"
    ⟨.warn, runner, "[conform] skipped `" ++ c.name ++ "` (only on " ++ only ++ ")"⟩

def reportMessage (r : Report) (elapsed : Nat) : Log.Message :=
  ⟨.info, runner, "[conform] " ++ toString r.passed ++ " passed, " ++ toString r.failed ++ " failed, "
    ++ toString r.skipped ++ " skipped in " ++ toString elapsed ++ " ms"⟩

/-- Runs cases on the disk of the terminal. Cases that may run side by side may be taken in any order, so also in the
order of their declaration. -/
def runCases (launch : Launcher FileTree) (executable : String) (cases : List Case) : Command Report := fun t =>
  let (report, tree) := Report.ofRun launch executable cases (.declared _) t.disk.tree
  (.ok report, { t with disk := { t.disk with tree } })

def conform (launch : Launcher FileTree) (i : Invocation) : Command Nat := do
  openLog i.settings
  match i.arguments with
  | [] => fail ⟨"conform requires executable location\n  conform <executable> [MANIFEST]", []⟩
  | name :: rest =>
    let path := rest.headD defaultManifest
    let options := Settings.Conformance.ofVariables i.settings
    let disk := (← get).disk
    let executable ← ofExcept Failure.ofExecutable
      (resolveExecutable disk.tree disk.here (.ofVariables i.settings) name)
    let manifest ← ofExcept (Failure.ofManifest path) (Manifest.load disk.tree disk.here path)
    let cases := manifest.toCases (Manifest.base path) executable
    log ⟨.debug, "tokengen::harness::manifest", "[manifest] " ++ toString cases.length ++ " cases, src root "
      ++ manifest.root (Manifest.base path)⟩
    say ("[conform] " ++ toString cases.length ++ " cases from " ++ path ++ " against " ++ executable)
    let report ← runCases launch executable cases
    (cases.map (caseMessage executable)).forM log
    log (reportMessage report i.elapsed)
    let shown ← orHalt (report.render? options.color)
    modify fun t => { t with stdout := t.stdout ++ shown }
    return report.exitCode

end Lexicon.CommandLine
