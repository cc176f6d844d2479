import Lexicon.FileTree.Basic

namespace Lexicon.Shell

open Text (Bytes utf8)

/-- What the content of a native program begins with; its name follows. -/
def nativeMark : Bytes := [0x7F, 0x45, 0x4C, 0x46]

def nativeContent (name : String) : Bytes := nativeMark ++ utf8 name

inductive Image where
  | native (name : String)
  | script (interpreter : String) (argument : Option String)
  deriving DecidableEq, Repr

def Image.ofContent? (content : Bytes) : Option Image :=
  if nativeMark.isPrefixOf content then some (.native (Text.lossy (content.drop nativeMark.length)))
  else if [0x23, 0x21].isPrefixOf content then
    let isBlank (c : Char) : Bool := c == ' ' || c == '\t'
    let line := (Text.lossy ((content.drop 2).takeWhile (· != 10))).toList
    let line := ((line.dropWhile isBlank).reverse.dropWhile isBlank).reverse
    let interpreter := line.takeWhile (!isBlank ·)
    let argument := (line.drop interpreter.length).dropWhile isBlank
    if interpreter.isEmpty then none
    else some (.script (String.ofList interpreter)
      (if argument.isEmpty then none else some (String.ofList argument)))
  else none

def Image.find (t : FileTree) (here : Location) (path : String) : Except OsError Image := do
  match ← t.find here path with
  | (_, .directory) => .error .permission
  | (_, .file content executable) =>
    if executable then (ofContent? content).elim (.error .noExecutable) .ok else .error .permission

/-- A native program that is about to run: its own name, the path it was started by, and its arguments. -/
structure Launch where
  name : String
  path : String
  args : List String
  deriving DecidableEq, Repr

def Launch.follow (depth : Nat) (t : FileTree) (here : Location) (path : String) (args : List String) :
    Except OsError Launch := do
  match ← Image.find t here path, depth with
  | .native name, _ => .ok ⟨name, path, args⟩
  | .script .., 0 => .error .tooManyLinks
  | .script interpreter argument, depth + 1 => follow depth t here interpreter (argument.toList ++ path :: args)

def maxScripts : Nat := 5

def Launch.find (t : FileTree) (here : Location) (path : String) (args : List String) : Except OsError Launch :=
  follow maxScripts t here path args

def searchPlaces (searchPath name : String) : List String :=
  (Text.splitAt ':' searchPath.toList).map fun d => Path.join (if d.isEmpty then "." else String.ofList d) name

/-- Finds the native program for a name at the first of some places that has it; `e` is the answer if none has. Places
without permission are passed over, and remembered. A program that is looked for is told the name, not the place. -/
def Launch.atPlaces (t : FileTree) (here : Location) (name : String) (args : List String) (e : OsError) :
    List String → Except OsError Launch
  | [] => .error e
  | place :: rest =>
    match find t here place args with
    | .ok launch => .ok (if launch.path = place && launch.args == args then { launch with path := name } else launch)
    | .error .permission => atPlaces t here name args .permission rest
    | .error .noEntry | .error .notDirectory => atPlaces t here name args e rest
    | .error other => .error other

/-- Finds the native program for a name: by its path, or on the search path. -/
def Launch.search (t : FileTree) (here : Location) (searchPath name : String) (args : List String) :
    Except OsError Launch :=
  if name.toList.contains '/' then find t here name args
  else if name.isEmpty then .error .noEntry
  else atPlaces t here name args .noEntry (searchPlaces searchPath name)

/-- Finds the native program for a name as a shell does: nothing is looked for, too, and is no file but a directory. -/
def Launch.lookUp (t : FileTree) (here : Location) (searchPath name : String) (args : List String) :
    Except OsError Launch :=
  if name.isEmpty && !searchPath.isEmpty then atPlaces t here name args .noEntry (searchPlaces searchPath name)
  else search t here searchPath name args

end Lexicon.Shell
