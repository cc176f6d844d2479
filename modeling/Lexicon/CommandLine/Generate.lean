import Lexicon.CommandLine.Basic
import Lexicon.CommandLine.Progress
import Lexicon.Table.Builtin

namespace Lexicon.CommandLine

def Failure.ofOptions : Settings.OptionError → Failure
  | .surplus argument => ⟨(Settings.OptionError.surplus argument).message, []⟩
  | .variable e => ⟨e.message, [e.cause.message]⟩

def Failure.ofGeneration (e : GenerationError) : Failure where
  message := "token table generation failed"
  causes := match e with
    | .write w => [w.message, w.cause.message]
    | other => [other.message]

open Command

def generate (i : Invocation) : Command Nat := do
  openLog i.settings
  let options ← ofExcept Failure.ofOptions (Settings.Generation.ofInvocation i.arguments i.settings)
  let t := Table.builtin
  say ("[tokengen] " ++ toString t.definitions.length ++ " definitions (" ++ toString t.keywordCount
    ++ " keywords), " ++ toString t.aliases.length ++ " aliases")
  let p ← ofStopped Failure.ofGeneration (Generation.prepare t (Generation.stampOf options i.now))
  (Progress.compilation t p.compiled).forM log
  writing (p.writeArtifacts options) fun e => .ofGeneration (.write e)
  (Progress.artifactsWritten p options i.elapsed).forM log
  writing (p.writeListing options) fun e => .ofGeneration (.write e)
  (Progress.listingWritten options).forM log
  say ("[tokengen] keywords start at " ++ p.summary.firstKeyword.text ++ ", iteration 0x"
    ++ Text.hex 8 p.stamp.toNat)
  say ("[tokengen] wrote " ++ options.header ++ " and " ++ options.source)
  return 0

end Lexicon.CommandLine
