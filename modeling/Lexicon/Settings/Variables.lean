import Lexicon.Settings.Number
import Lexicon.Text.Quoted

namespace Lexicon.Settings

abbrev Variables := List (String × String)

structure VariableError where
  name : String
  value : String
  cause : ValueError
  deriving DecidableEq, Repr

def VariableError.message (e : VariableError) : String :=
  e.name ++ "=" ++ Text.quoted e.value ++ " is not valid"

def trim (s : String) : String :=
  let front := s.toList.dropWhile Text.Unicode.isWhiteSpace
  String.ofList (front.reverse.dropWhile Text.Unicode.isWhiteSpace).reverse

/-- Capital ASCII letters made small. -/
def lowered (s : String) : String := s.map Char.toLower

namespace Variables

def value? (v : Variables) (name : String) : Option String := v.lookup name

/-- Whether a switch is on. Only `0` and `false`, in any case, turn it off. -/
def isOn (v : Variables) (name : String) (default : Bool) : Bool :=
  match v.value? name with
  | some s => !(s == "0" || lowered s == "false")
  | none => default

def read (read : String → Except ValueError α) (v : Variables) (name : String) :
    Except VariableError (Option α) :=
  match v.value? name with
  | none => .ok none
  | some s =>
    match read (trim s) with
    | .ok a => .ok (some a)
    | .error cause => .error ⟨name, s, cause⟩

def readOr (read : String → Except ValueError α) (v : Variables) (name : String) (default : α) :
    Except VariableError α :=
  (v.read read name).map (·.getD default)

end Variables

end Lexicon.Settings
