import Lexicon.CommandLine.Conform
import Lexicon.CommandLine.Fuzz
import Lexicon.CommandLine.Generate
import Lexicon.Shell.Process
import Std.Time.DateTime.Timestamp

/-!
The program. It reads the working directory and the environment, runs one command line, prints what that has
printed, and writes back the files that it has changed. Commands see nothing outside of the working directory but
the usual programs.
-/
namespace Lexicon.Program

/-- Adds what lies at an entry of the disk, and below it. A file that can be run by itself counts as executable. -/
partial def snapshot (l : Location) (t : FileTree) (e : IO.FS.DirEntry) : IO FileTree := do
  let l := l ++ [e.fileName]
  if ← e.path.isDir then
    (← e.path.readDir).foldlM (snapshot l) ⟨(l, .directory) :: t.nodes⟩
  else
    let content := (← IO.FS.readBinFile e.path).data.toList
    return ⟨(l, .file content (Shell.Image.ofContent? content).isSome) :: t.nodes⟩

def environment : IO Settings.Variables := do
  let names := ["PATH", "HOME", "PWD", "RUST_LOG", "TOKENGEN_JSON", "TOKENGEN_STAMP", "CONFORM_PARALLEL",
    "CONFORM_COLOR", "FUZZ_ITERS", "FUZZ_SEED", "FUZZ_LEN", "FUZZ_ALIASES"]
  names.filterMapM fun name => do return (← IO.getEnv name).map fun value => (name, value)

/-- Writes back what a command has changed below a location. Outer directories come before what they hold. -/
def writeBack (before after : FileTree) (here : Location) : IO Unit := do
  let name (l : Location) : String := String.intercalate "/" l
  for (l, _) in before.below here do
    if (after.node? (here ++ l)).isNone then IO.FS.removeFile (name l)
  for (l, n) in (after.below here).mergeSort fun a b => a.1.length ≤ b.1.length do
    if before.node? (here ++ l) ≠ some n then
      match n with
      | .directory => IO.FS.createDirAll (name l)
      | .file content _ => IO.FS.writeBinFile (name l) ⟨content.toArray⟩

/-- The command that the first argument names; without such a name, artifacts are generated. -/
def command (i : CommandLine.Invocation) (here : Location) : CommandLine.Command Nat :=
  match i.arguments with
  | "conform" :: rest => CommandLine.conform (Shell.launcher i.settings here) { i with arguments := rest }
  | "fuzz" :: rest => CommandLine.fuzz { i with arguments := rest }
  | _ => CommandLine.generate i

def run (arguments : List String) : IO UInt32 := do
  let root ← IO.currentDir
  let here := Path.components root.toString
  let start := Shell.standardTree.plant here .directory
  let before ← (← root.readDir).foldlM (snapshot here) start
  let now := (← Std.Time.Timestamp.now).toSecondsSinceUnixEpoch.val
  let i : CommandLine.Invocation := { arguments, settings := ← environment, now := UInt64.ofNat now.toNat }
  let ended := (command i here).execute ⟨before, here, []⟩
  IO.print ended.terminal.stdout
  IO.eprint ended.terminal.stderr
  writeBack before ended.terminal.disk.tree here
  return UInt32.ofNat ended.exit

end Lexicon.Program

def main (arguments : List String) : IO UInt32 := Lexicon.Program.run arguments
