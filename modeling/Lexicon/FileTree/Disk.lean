import Lexicon.FileTree.Basic

/-!
File calls one after the other, any of which may fail. A call that fails changes nothing. Text reaches a file by way
of a temporary file beside it, so that a file holds its old content or its new content and never a part.
-/
namespace Lexicon

/-- A file tree, the directory that relative paths start from, and what befalls the next calls: a failure, or
nothing out of the ordinary. -/
structure Disk where
  tree : FileTree
  here : Location
  mishaps : List (Option OsError)

structure WriteError where
  path : String
  cause : OsError
  deriving DecidableEq, Repr

def WriteError.message (e : WriteError) : String := "failed to write " ++ e.path ++ ": " ++ e.cause.message

abbrev Writing (α : Type) := ExceptT WriteError (StateM Disk) α

namespace Writing

/-- One call on the tree. It fails if a mishap befalls it, or by itself. -/
def call (f : FileTree → Location → Except OsError (FileTree × α)) : StateM Disk (Except OsError α) := fun d =>
  let rest := d.mishaps.tail
  match d.mishaps.headD none with
  | some e => (.error e, { d with mishaps := rest })
  | none =>
    match f d.tree d.here with
    | .ok (tree, a) => (.ok a, { d with tree, mishaps := rest })
    | .error e => (.error e, { d with mishaps := rest })

def onBehalf (path : String) (f : FileTree → Location → Except OsError (FileTree × α)) : Writing α := do
  match ← call f with
  | .ok a => return a
  | .error cause => throw ⟨path, cause⟩

def isDirectory (path : String) : StateM Disk Bool := fun d => (d.tree.isDirectory d.here path, d)

/-- Asks for a directory. The answer is whether it has to be asked for again once what contains it is there. -/
def askDirectory (path : String) : StateM Disk (Except OsError Bool) := do
  match ← call fun t here => (t.makeDirectory here path).map fun t => (t, ()) with
  | .ok () => return .ok false
  | .error .noEntry => return .ok true
  | .error e => return if ← isDirectory path then .ok false else .error e

/-- The path and what contains it, as far as paths lead. -/
def ancestors (fuel : Nat) (path : String) : List String :=
  match fuel with
  | 0 => []
  | fuel + 1 =>
    if path.isEmpty then []
    else
      match Path.parent? path with
      | some parent => path :: ancestors fuel parent
      | none => []

/-- Asks for directories until one is there. The answer is which of them are missing, the outermost first. -/
def missingDirectories (missing : List String) : List String → StateM Disk (Except OsError (List String))
  | [] => return .ok missing
  | path :: outer => do
    match ← askDirectory path with
    | .error e => return .error e
    | .ok false => return .ok missing
    | .ok true => missingDirectories (path :: missing) outer

def makeMissing : List String → StateM Disk (Except OsError Unit)
  | [] => return .ok ()
  | path :: inner => do
    match ← call fun t here => (t.makeDirectory here path).map fun t => (t, ()) with
    | .ok () => makeMissing inner
    | .error e => if ← isDirectory path then makeMissing inner else return .error e

def makeDirectories (path : String) : Writing Unit := do
  match ← missingDirectories [] (ancestors path.length path) with
  | .error cause => throw ⟨path, cause⟩
  | .ok missing =>
    match ← makeMissing missing with
    | .error cause => throw ⟨path, cause⟩
    | .ok () => return ()

def directoryOf (path : String) : String :=
  match Path.parent? path with
  | some p => if p.isEmpty then "." else p
  | none => "."

/-- The names of temporary files. A slash keeps them apart from the components of paths: nothing that a path leads to
has such a name, so that no destination is ever the temporary file of another. -/
def temporaryName (i : Nat) : String := ".tmp/" ++ toString i

def freshName (t : FileTree) (directory : Location) : String :=
  let names := (List.range (t.nodes.length + 1)).map temporaryName
  (names.find? fun name => (t.node? (directory ++ [name])).isNone).getD (temporaryName 0)

def makeTemporary (directory : String) (t : FileTree) (here : Location) : Except OsError (FileTree × Location) := do
  match ← t.find here directory with
  | (_, .file ..) => .error .notDirectory
  | (l, .directory) =>
    let temporary := l ++ [freshName t l]
    .ok (t.put temporary (.file [] false), temporary)

def discard (temporary : Location) : StateM Disk Unit := fun d =>
  ((), { d with tree := d.tree.remove temporary })

/-- Runs `action`; if it fails, throws a temporary file away. -/
def guarding (temporary : Location) (action : Writing α) : Writing α := fun d =>
  match action d with
  | (.ok a, d) => (.ok a, d)
  | (.error e, d) => (.error e, (discard temporary d).2)

/-- Writes bytes to a temporary file beside a path. -/
def stage (path : String) (bytes : Text.Bytes) : Writing Location := do
  let directory := directoryOf path
  makeDirectories directory
  let temporary ← onBehalf path (makeTemporary directory)
  guarding temporary do
    onBehalf path fun t _ => .ok (t.put temporary (.file bytes false), ())
    onBehalf path fun t _ => .ok (t, ())
  return temporary

def persist (temporary : Location) (path : String) : Writing Unit :=
  guarding temporary do
    onBehalf path fun t here => (t.moveFile here temporary path).map fun t => (t, ())

def writeFile (path : String) (bytes : Text.Bytes) : Writing Unit := do
  persist (← stage path bytes) path

/-- Writes two files. Both are staged before the first is moved. -/
def writePair (first : String) (firstBytes : Text.Bytes) (second : String) (secondBytes : Text.Bytes) :
    Writing Unit := do
  let stagedFirst ← stage first firstBytes
  let stagedSecond ← guarding stagedFirst (stage second secondBytes)
  guarding stagedSecond (persist stagedFirst first)
  persist stagedSecond second

end Writing

end Lexicon
