import Lexicon.Artifact.Listing
import Lexicon.FileTree.Disk
import Lexicon.Settings.Options
import Lexicon.Table.Compiled

namespace Lexicon

/-- What a run can report: the table itself is at fault, or a path cannot be written. -/
inductive GenerationError where
  | schema (e : SchemaError)
  | write (e : WriteError)
  deriving DecidableEq, Repr

namespace GenerationError

def message : GenerationError → String
  | schema e => e.message
  | .write e => e.message

def isSchema : GenerationError → Bool
  | schema _ => true
  | _ => false

end GenerationError

structure Summary where
  tokens : Nat
  keywords : Nat
  aliases : Nat
  firstKeyword : TokenId
  stamp : UInt64
  deriving DecidableEq, Repr

abbrev Generating (α : Type) := ExceptT (Stop GenerationError) (StateM Disk) α

namespace Generation

/-- All that a run writes or tells, before any of it is written. -/
structure Prepared where
  compiled : Compiled
  stamp : UInt64
  artifacts : Artifacts
  listing : String
  keywords : List Entry

/-- Compiles a table and renders everything. Rendering either ends or halts. -/
def prepare (t : Table) (stamp : UInt64) : Except (Stop GenerationError) Prepared :=
  match t.compile with
  | .error e => .error (.failed (.schema e))
  | .ok c => do
    let artifacts ← orHalt (Artifacts.ofCompiled? c stamp)
    let listing ← orHalt (Artifact.Listing.text? c)
    let keywords ← orHalt c.keywords?
    return ⟨c, stamp, artifacts, listing, keywords⟩

/-- The stamp of a run. A run without one is stamped with the current time. -/
def stampOf (options : Settings.Generation) (now : UInt64) : UInt64 := options.stamp.getD now

namespace Prepared

def summary (p : Prepared) : Summary where
  tokens := p.compiled.size
  keywords := p.keywords.length
  aliases := p.compiled.aliases.length
  firstKeyword := p.compiled.firstKeyword
  stamp := p.stamp

def writeArtifacts (p : Prepared) (options : Settings.Generation) : Writing Unit :=
  .writePair options.header (Text.utf8 p.artifacts.header) options.source (Text.utf8 p.artifacts.source)

def writeListing (p : Prepared) (options : Settings.Generation) : Writing Unit :=
  match options.listing with
  | some path => .writeFile path (Text.utf8 p.listing)
  | none => return ()

def write (p : Prepared) (options : Settings.Generation) : Writing Unit := do
  p.writeArtifacts options
  p.writeListing options

end Prepared

def run (t : Table) (options : Settings.Generation) (now : UInt64) : Generating Summary := do
  match prepare t (stampOf options now) with
  | .error e => throw e
  | .ok p =>
    match ← (p.write options).run with
    | .error e => throw (.failed (.write e))
    | .ok () => return p.summary

end Generation

end Lexicon
