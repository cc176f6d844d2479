import Lexicon.FileTree.OsError
import Lexicon.FileTree.Path
import Lexicon.Text.Bytes

namespace Lexicon

abbrev Location := List String

inductive Node where
  | file (content : Text.Bytes) (executable : Bool)
  | directory
  deriving DecidableEq, Repr

/-- The nodes of a tree. The root is a directory in every tree. -/
structure FileTree where
  nodes : List (Location × Node)

namespace FileTree

def empty : FileTree := ⟨[]⟩

def node? (t : FileTree) (l : Location) : Option Node :=
  if l = [] then some .directory else t.nodes.lookup l

def remove (t : FileTree) (l : Location) : FileTree := ⟨t.nodes.filter fun n => n.1 != l⟩

def put (t : FileTree) (l : Location) (n : Node) : FileTree := ⟨(l, n) :: (t.remove l).nodes⟩

theorem lookup_filter_ne (nodes : List (Location × Node)) {l k : Location} (h : k ≠ l) :
    (nodes.filter fun n => n.1 != l).lookup k = nodes.lookup k := by
  induction nodes with
  | nil => rfl
  | cons n rest ih =>
    obtain ⟨m, x⟩ := n
    by_cases hm : m = l
    · subst hm
      simp [List.lookup_cons, ih, show (k == m) = false by simpa using h]
    · simp [List.lookup_cons, hm, ih]

theorem node?_remove_of_ne (t : FileTree) {l k : Location} (h : k ≠ l) : (t.remove l).node? k = t.node? k := by
  simp [node?, remove, lookup_filter_ne t.nodes h]

theorem node?_remove_self (t : FileTree) {l : Location} (h : l ≠ []) : (t.remove l).node? l = none := by
  simp only [node?, h, remove, ite_false]
  generalize t.nodes = nodes
  induction nodes with
  | nil => rfl
  | cons n rest ih =>
    obtain ⟨m, x⟩ := n
    by_cases hm : m = l
    · simp [hm, ih]
    · simp [List.lookup_cons, hm, ih, show (l == m) = false by simpa using fun e => hm e.symm]

theorem node?_put_self (t : FileTree) {l : Location} (h : l ≠ []) (n : Node) : (t.put l n).node? l = some n := by
  simp [node?, put, h]

theorem node?_put_of_ne (t : FileTree) {l k : Location} (h : k ≠ l) (n : Node) :
    (t.put l n).node? k = t.node? k := by
  have hk : (k == l) = false := by simpa using h
  simp [node?, put, List.lookup_cons, hk, remove, lookup_filter_ne t.nodes h]

/-- What a path leads to: a directory that it does not name itself, or a name in a directory. A slash at its end
asks for a directory. -/
inductive Goal where
  | directory (at' : Location)
  | name (parent : Location) (name : String) (slash : Bool)
  deriving DecidableEq, Repr

def maxName : Nat := 255

def maxPath : Nat := 4095

def enter (t : FileTree) (here : Location) (component : String) : Except OsError Location :=
  if component = "." then .ok here
  else if component = ".." then .ok here.dropLast
  else if maxName < component.utf8ByteSize then .error .nameTooLong
  else
    match t.node? (here ++ [component]) with
    | some .directory => .ok (here ++ [component])
    | some (.file ..) => .error .notDirectory
    | none => .error .noEntry

def walk (t : FileTree) (here : Location) (path : String) : Except OsError Goal := do
  if path.isEmpty then .error .noEntry
  else if path.toList.contains '\x00' then .error .nullInPath
  else if maxPath < path.utf8ByteSize then .error .nameTooLong
  else
    let start := if Path.isAbsolute path then [] else here
    let components := ((Text.splitAt '/' path.toList).filter (· != [])).map String.ofList
    match components.getLast? with
    | none => .ok (.directory start)
    | some last =>
      let parent ← components.dropLast.foldlM t.enter start
      if last = "." then .ok (.directory parent)
      else if last = ".." then .ok (.directory parent.dropLast)
      else if maxName < last.utf8ByteSize then .error .nameTooLong
      else .ok (.name parent last (path.toList.getLast? == some '/'))

def find (t : FileTree) (here : Location) (path : String) : Except OsError (Location × Node) := do
  match ← t.walk here path with
  | .directory l => .ok (l, .directory)
  | .name parent name slash =>
    match t.node? (parent ++ [name]) with
    | none => .error .noEntry
    | some .directory => .ok (parent ++ [name], .directory)
    | some (.file content executable) =>
      if slash then .error .notDirectory else .ok (parent ++ [name], .file content executable)

def read (t : FileTree) (here : Location) (path : String) : Except OsError Text.Bytes := do
  match ← t.find here path with
  | (_, .file content _) => .ok content
  | (_, .directory) => .error .isDirectory

def readText (t : FileTree) (here : Location) (path : String) : Except OsError String := do
  match Text.decode? (← t.read here path) with
  | some text => .ok text
  | none => .error .notText

def isFile (t : FileTree) (here : Location) (path : String) : Bool :=
  match t.find here path with
  | .ok (_, .file ..) => true
  | _ => false

def isExecutable (t : FileTree) (here : Location) (path : String) : Bool :=
  match t.find here path with
  | .ok (_, .file _ executable) => executable
  | _ => false

def isDirectory (t : FileTree) (here : Location) (path : String) : Bool :=
  match t.find here path with
  | .ok (_, .directory) => true
  | _ => false

def makeDirectory (t : FileTree) (here : Location) (path : String) : Except OsError FileTree := do
  match ← t.walk here path with
  | .directory _ => .error .alreadyExists
  | .name parent name _ =>
    match t.node? (parent ++ [name]) with
    | some _ => .error .alreadyExists
    | none => .ok (t.put (parent ++ [name]) .directory)

/-- Moves a file to a path, in the place of a file that lies there. A null character in the path is an argument that
makes no sense here, and not a fault of the path. -/
def moveFile (t : FileTree) (here origin : Location) (path : String) : Except OsError FileTree :=
  match t.walk here path with
  | .error .nullInPath => .error .invalidArgument
  | .error e => .error e
  | .ok (.directory _) => .error .busy
  | .ok (.name parent name slash) =>
    if slash then .error .notDirectory
    else
      match t.node? (parent ++ [name]), t.node? origin with
      | some .directory, _ => .error .isDirectory
      | _, some n => .ok ((t.remove origin).put (parent ++ [name]) n)
      | _, none => .error .noEntry

def below (t : FileTree) (l : Location) : List (Location × Node) :=
  t.nodes.filterMap fun (k, n) =>
    if l.isPrefixOf k && k != l then some (k.drop l.length, n) else none

def plant (t : FileTree) (l : Location) (n : Node) : FileTree :=
  let parents := (List.range l.length).map l.take
  let t := parents.foldl (fun t p => if (t.node? p).isSome then t else t.put p .directory) t
  if n = .directory ∧ (t.node? l).isSome then t else t.put l n

end FileTree

end Lexicon
