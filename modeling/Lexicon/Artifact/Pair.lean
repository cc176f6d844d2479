import Lexicon.Artifact.Source

namespace Lexicon

structure Artifacts where
  header : String
  source : String
  deriving DecidableEq, Repr

/-- Both artifacts in memory. There is no answer if one of them halts. -/
def Artifacts.ofCompiled? (c : Compiled) (stamp : UInt64) : Option Artifacts := do
  let header ← Artifact.Header.text? c stamp
  let source ← Artifact.Source.text? c
  return ⟨header, source⟩

end Lexicon
