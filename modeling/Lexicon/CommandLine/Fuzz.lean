import Lexicon.CommandLine.Basic
import Lexicon.CommandLine.Progress
import Lexicon.Random.KeyStream
import Lexicon.Random.Table
import Lexicon.Table.Audit

namespace Lexicon.CommandLine

open Command

def differOnlyInStamp (a b : String) : Bool :=
  let lines (s : String) : List (List Char) := Text.splitAt '\n' s.toList
  let isStamp (line : List Char) : Bool := "#define TOKEN_ITERATION_VERSION ".toList.isPrefixOf line
  (lines a).length == (lines b).length
    && ((lines a).zip (lines b)).all fun (x, y) => x == y || (isStamp x && isStamp y)

def randomTable (options : Settings.Fuzzing) : StateM Random.KeyStream (Nat × Nat × Table) := do
  let source := Random.Source.ofWords Random.KeyStream.words
  let definitions ← source.below (options.length + 1)
  let aliases ← source.below (options.aliases + 1)
  return (definitions, aliases, ← Random.table source definitions aliases)

def compiling (t : Table) : Command Compiled := do
  let c ← ofExcept (fun e => ⟨e.message, []⟩) t.compile
  (Progress.compilation t c).forM log
  return c

def examine (options : Settings.Fuzzing) (i definitions aliases : Nat) (t : Table) : Command Unit := do
  let c ← compiling t
  let which := "iter " ++ toString i ++ " (seed " ++ toString options.seed
  let size := toString definitions ++ " defs, " ++ toString aliases ++ " aliases"
  ofStopped (fun v => ⟨which ++ ", " ++ size ++ "): " ++ v.message, []⟩) (c.audit t)
  let first ← orHalt (Artifacts.ofCompiled? c 1)
  let again ← orHalt (Artifacts.ofCompiled? (← compiling t) 1)
  if first ≠ again then fail ⟨which ++ "): rendering is not deterministic", []⟩
  let other ← orHalt (Artifacts.ofCompiled? c 2)
  if ¬differOnlyInStamp first.header other.header ∨ first.source ≠ other.source then
    fail ⟨which ++ "): stamp leaked outside its line", []⟩
  let keywords ← orHalt c.keywords?
  log ⟨.debug, "fuzz_tables", "[fuzz] iter " ++ toString i ++ ": " ++ toString c.size ++ " tokens, "
    ++ toString keywords.length ++ " keywords, " ++ toString c.aliases.length ++ " aliases -> OK"⟩

def examineAll (options : Settings.Fuzzing) (i : Nat) (stream : Random.KeyStream) : (left : Nat) → Command Unit
  | 0 => return ()
  | left + 1 => do
    let ((definitions, aliases, t), stream) := randomTable options stream
    examine options i definitions aliases t
    examineAll options (i + 1) stream left

def fuzz (i : Invocation) : Command Nat := do
  openLog i.settings
  let options ← ofExcept (fun e => ⟨e.message, [e.cause.message]⟩) (Settings.Fuzzing.ofVariables i.settings)
  complain ("[fuzz] iters=" ++ toString options.iterations ++ " seed=" ++ toString options.seed ++ " len<="
    ++ toString options.length ++ " aliases<=" ++ toString options.aliases ++ "\n")
  examineAll options 0 (.ofSeed (UInt64.ofNat options.seed)) options.iterations
  complain ("[fuzz] all " ++ toString options.iterations ++ " iterations verified in " ++ toString i.elapsed
    ++ " ms ✅\n")
  return 0

end Lexicon.CommandLine
