import Lexicon.Conformance.Case
import Lexicon.Conformance.ExitForm
import Lexicon.FileTree.Path
import Lexicon.Text.Replace

namespace Lexicon.Conformance

open Json (Decoder Fault)

structure Placeholders where
  source : String
  executable : String

/-- Fills in the source root first and the executable after it. -/
def Placeholders.expand (p : Placeholders) (s : String) : String :=
  Text.replace "\x7bexe\x7d" p.executable (Text.replace "\x7bsrc\x7d" p.source s)

structure CaseEntry where
  name : String := ""
  program : Option String := none
  args : List String := []
  check : Option Check := none
  exit : ExitExpectation := .zero
  onlyOn : Option Platform := none

structure Manifest where
  sourceRoot : Option String := none
  cases : List CaseEntry := []

namespace Check

def patternDecoder : Decoder Check := fun r => do
  let (text, stop) ← r.textStop
  match Pattern.ofText text with
  | .ok p => .ok (.matching p)
  | .error fault => .error ⟨.badPattern fault.message, some stop⟩

/-- Reads a check. Texts are looked for as their bytes. -/
def decoder : Decoder Check := Json.Variant.read [
  .bare "any" .any,
  .carrying "contains" fun r => r.text.map fun s => .contains (Text.utf8 s),
  .carrying "not_contains" fun r => r.text.map fun s => .notContains (Text.utf8 s),
  .carrying "matches" patternDecoder]

end Check

def Platform.decoder : Decoder Platform := Json.Variant.read [.bare "windows" .windows, .bare "unix" .unix]

/-- How a case is written. Only the name has to be given. -/
def CaseEntry.record : Json.Record CaseEntry where
  name := "CaseDisk"
  fields := [
    ⟨"name", true, fun r e => r.text.map fun v => { e with name := v }⟩,
    ⟨"program", false, fun r e => (r.optional Json.Reading.text).map fun v => { e with program := v }⟩,
    ⟨"args", false, fun r e => (r.list Json.Reading.text).map fun v => { e with args := v }⟩,
    ⟨"check", false, fun r e => (r.optional Check.decoder).map fun v => { e with check := v }⟩,
    ⟨"exit", false, fun r e => (ExitExpectation.decoder r).map fun v => { e with exit := v }⟩,
    ⟨"only_on", false, fun r e => (r.optional Platform.decoder).map fun v => { e with onlyOn := v }⟩]
  blank := {}

/-- How a manifest is written. Only the cases have to be given. -/
def Manifest.record : Json.Record Manifest where
  name := "ManifestDisk"
  fields := [
    ⟨"src_root", false, fun r m => (r.optional Json.Reading.text).map fun v => { m with sourceRoot := v }⟩,
    ⟨"cases", true, fun r m => (r.list CaseEntry.record.read).map fun v => { m with cases := v }⟩]
  blank := {}

namespace Manifest

def ofText? (text : String) : Except Fault Manifest := Json.decode Manifest.record.read text

/-- The source root. `base` is the directory of the manifest. -/
def root (m : Manifest) (base : String) : String :=
  match m.sourceRoot with
  | some r => Path.join base r
  | none => base

/-- A case ready to run. The name and the check are kept as they are written. -/
def runnable (p : Placeholders) (e : CaseEntry) : Case where
  name := e.name
  program := match e.program with
    | some path => .path (p.expand path)
    | none => .underTest
  args := e.args.map p.expand
  check := e.check.getD .any
  exit := e.exit
  onlyOn := e.onlyOn

def toCases (m : Manifest) (base executable : String) : List Case :=
  m.cases.map (runnable ⟨m.root base, executable⟩)

end Manifest

end Lexicon.Conformance
