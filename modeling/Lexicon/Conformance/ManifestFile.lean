import Lexicon.Conformance.Manifest
import Lexicon.FileTree.Basic

namespace Lexicon.Conformance

inductive ManifestError where
  | unreadable (path : String) (cause : OsError)
  | malformed (path : String) (fault : Json.Fault)

namespace ManifestError

def malformedLead (path : String) : String := "failed to parse manifest " ++ path ++ ": "

def cause : ManifestError → String
  | unreadable _ cause => cause.message
  | malformed _ fault => fault.message

def message : ManifestError → String
  | unreadable path cause => "failed to read manifest " ++ path ++ ": " ++ cause.message
  | malformed path fault => malformedLead path ++ fault.message

end ManifestError

namespace Manifest

def base (path : String) : String := (Path.parent? path).getD ""

def load (t : FileTree) (here : Location) (path : String) : Except ManifestError Manifest :=
  match t.readText here path with
  | .error cause => .error (.unreadable path cause)
  | .ok text =>
    match ofText? text with
    | .error fault => .error (.malformed path fault)
    | .ok m => .ok m

end Manifest

end Lexicon.Conformance
