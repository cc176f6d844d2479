import Lexicon.FileTree.Basic
import Lexicon.Settings.Variables

namespace Lexicon.Conformance

inductive SearchFault where
  | noSearchPath
  | nowhere
  deriving DecidableEq, Repr

def SearchFault.message : SearchFault → String
  | noSearchPath => "no path to search and provided name is not an absolute path"
  | nowhere => "cannot find binary path"

/-- An executable that is not there; a search has a fault of its own. -/
structure ExecutableError where
  name : String
  fault : Option SearchFault
  deriving DecidableEq, Repr

def ExecutableError.message (e : ExecutableError) : String := "executable '" ++ e.name ++ "' not found"

def absolutePath (l : Location) : String := "/" ++ String.intercalate "/" l

/-- A directory of the search path, as an absolute path. Relative ones start from the working directory. -/
def searchDirectory (here : Location) (directory : String) : String :=
  if Path.isAbsolute directory then directory
  else ((Path.components directory).filter (· != ".")).foldl Path.join (absolutePath here)

/-- A directory of the search path with the home directory in the place of a tilde, which stands for it as the first
component of a relative path. -/
def expandHome (home : Option String) (directory : String) : String :=
  match home, Path.components directory with
  | some home, "~" :: rest => if Path.isAbsolute directory then directory else rest.foldl Path.join home
  | _, _ => directory

structure SearchSettings where
  path : Option String
  home : Option String

/-- The settings that variables give. A home that is empty is none. -/
def SearchSettings.ofVariables (v : Settings.Variables) : SearchSettings where
  path := v.value? "PATH"
  home := (v.value? "HOME").filter (!·.isEmpty)

def searchDirectories (here : Location) (home : Option String) (searchPath : String) : List String :=
  (Text.splitAt ':' searchPath.toList).map fun d => searchDirectory here (expandHome home (String.ofList d))

def resolveExecutable (t : FileTree) (here : Location) (settings : SearchSettings) (name : String) :
    Except ExecutableError String :=
  if Path.isAbsolute name ∨ 1 < (Path.components name).length then
    if t.isFile here name then .ok name else .error ⟨name, none⟩
  else
    match settings.path with
    | none => .error ⟨name, some .noSearchPath⟩
    | some searchPath =>
      let candidates := (searchDirectories here settings.home searchPath).map fun d => Path.join d name
      match candidates.find? (t.isExecutable here) with
      | some path => .ok path
      | none => .error ⟨name, some .nowhere⟩

end Lexicon.Conformance
