import Lexicon.Shell.Image
import Lexicon.Shell.Tool.Edit
import Lexicon.Shell.Tool.Files
import Lexicon.Shell.Tool.Lines
import Lexicon.Shell.Tool.Search
import Lexicon.Shell.Tool.Words

namespace Lexicon.Shell

namespace Tools

def actions : List (String × Action) :=
  Tool.lineTools ++ Tool.searchTools ++ Tool.fileTools ++ Tool.wordTools ++ [("sed", Tool.editing)]

def launchers : List String := ["env", "xargs"]

def shellOptions : List String → List String × List String
  | [] => ([], [])
  | [a] => if a = "--" || a = "-" then ([], []) else if isOption a then ([a], []) else ([], [a])
  | a :: b :: rest =>
    if a = "--" || a = "-" then ([], b :: rest)
    else if isOption a then
      let (options, rest) := if a.endsWith "o" then
          let (options, rest) := shellOptions rest
          (b :: options, rest)
        else shellOptions (b :: rest)
      (a :: options, rest)
    else ([], a :: b :: rest)
where
  isOption (a : String) : Bool := a.startsWith "-" || a.startsWith "+"

/-- How many words at a time a program is run on, or the mark that each of them takes the place of; and the command. -/
def batches : List String → Option Nat × Option String × List String
  | "-n" :: n :: rest => let (_, mark, command) := batches rest; (n.toNat?, mark, command)
  | "-L" :: n :: rest => let (_, mark, command) := batches rest; (n.toNat?, mark, command)
  | "-I" :: mark :: rest => let (n, _, command) := batches rest; (n, some mark, command)
  | "-r" :: rest => batches rest
  | a :: rest =>
    match a.toList with
    | '-' :: 'n' :: digits => let (_, mark, command) := batches rest; ((String.ofList digits).toNat?, mark, command)
    | '-' :: 'I' :: mark => let (n, _, command) := batches rest; (n, some (String.ofList mark), command)
    | _ => (none, none, a :: rest)
  | [] => (none, none, [])

/-- The words of an input: its lines, or what stands between blanks. Quotes keep blanks. -/
def inputWords (byLine : Bool) (text : String) : List String :=
  if byLine then
    ((Tool.linesOf text).1.map fun l => String.ofList (l.toList.dropWhile Numeral.isBlank)).filter (!·.isEmpty)
  else go (text.length + 1) none [] text.toList
where
  go (fuel : Nat) (quote : Option Char) (word : List Char) (cs : List Char) (inside : Bool := false) : List String :=
    let done : List String := if inside then [String.ofList word.reverse] else []
    match fuel, cs with
    | 0, _ | _, [] => done
    | fuel + 1, c :: rest =>
      match quote with
      | some q => if c == q then go fuel none word rest true else go fuel quote (c :: word) rest true
      | none =>
        if Numeral.isBlank c then done ++ go fuel none [] rest
        else if c == '\'' || c == '"' then go fuel (some c) word rest true
        else if c == '\\' then go fuel none (rest.take 1 ++ word) rest.tail true
        else go fuel none (c :: word) rest true

def chunks (n : Nat) (words : List String) : List (List String) :=
  go (words.length + 1) words
where
  go : Nat → List String → List (List String)
    | 0, _ | _, [] => []
    | fuel + 1, w :: rest => (w :: rest.take (n - 1)) :: go fuel (rest.drop (n - 1))

end Tools

def shellNames : List String := ["sh", "dash", "bash"]

def toolDirectories : List Location := [["bin"], ["usr", "bin"]]

def standardTree : FileTree :=
  let toolNames := Tools.launchers ++ Tools.actions.map (·.1)
  let programs := shellNames.map (·, "sh") ++ toolNames.map fun name => (name, name)
  let planted := toolDirectories.foldl (fun t d =>
    programs.foldl (fun t p => t.plant (d ++ [p.1]) (.file (nativeContent p.2) true)) t) FileTree.empty
  let directories : List Location := [["etc"], ["home"], ["root"], ["tmp"], ["usr", "lib"], ["var"]]
  let housed := directories.foldl (fun t d => t.plant d .directory) planted
  housed.plant ["dev", "null"] (.file [] false)

def defaultSearchPath : String := "/bin:/usr/bin"

end Lexicon.Shell
