import Lexicon.Conformance.Run
import Lexicon.Settings.Variables
import Lexicon.Shell.Run

/-! A launcher for runs of cases. What holds of a run holds for every launcher; this one starts programs of a
file tree, scripts and the usual tools among them, that run to their end with nothing to read. What they leave
behind is the tree. -/
namespace Lexicon.Shell

def patience : Nat := 100000

def State.initial (environment : Settings.Variables) (here : Location) (tree : FileTree) : State where
  tree
  here
  streams := #[.void, .collected [], .collected []]
  descriptors := [(0, 0), (1, 1), (2, 2)]
  bindings := environment.map fun v => (Raw.ofText v.1, ⟨some (Raw.ofText v.2), true, false⟩)

def State.collected (s : State) (i : Nat) : Text.Bytes :=
  match s.streams[i]? with
  | some (.collected parts) => parts.reverse.flatten
  | _ => []

def State.ending (s : State) (interrupt : Option Interrupt) : Conformance.Ending where
  stdout := s.collected 1
  stderr := s.collected 2
  code := match interrupt with
    | some (.killed _) => none
    | _ => some (Int32.ofNat (s.status % 256))

def launcher (environment : Settings.Variables) (here : Location) : Conformance.Launcher FileTree :=
  fun program args tree =>
    if (program :: args).any (·.toList.contains '\x00') then
      (.error (.other "nul byte found in provided data"), tree)
    else
      let searchPath := (environment.lookup "PATH").getD defaultSearchPath
      match Launch.search tree here searchPath program (args.map Raw.ofText) with
      | .error e => (.error e, tree)
      | .ok launch =>
        match runNative patience { launch with path := Raw.ofText launch.path } (State.initial environment here tree) with
        | (.ok (), s) => (.ok (s.ending none), s.tree)
        | (.error interrupt, s) => (.ok (s.ending (some interrupt)), s.tree)

end Lexicon.Shell
