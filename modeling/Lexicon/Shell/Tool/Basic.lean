import Lexicon.Shell.Action

namespace Lexicon.Shell.Tool

open Text (Bytes)
open Run

def linesOf (s : String) : List String × Bool :=
  let pieces := Text.splitAt '\n' s.toList
  match pieces.reverse with
  | [] :: rest => (rest.reverse.map String.ofList, true)
  | all => (all.reverse.map String.ofList, false)

def unlines (lines : List String) : String := String.join (lines.map (· ++ "\n"))

structure Arguments where
  options : List (Char × String) := []
  operands : List String := []

def Arguments.has (a : Arguments) (c : Char) : Bool := a.options.any (·.1 == c)

def Arguments.value? (a : Arguments) (c : Char) : Option String := (a.options.reverse.find? (·.1 == c)).map (·.2)

def Arguments.values (a : Arguments) (c : Char) : List String := (a.options.filter (·.1 == c)).map (·.2)

/-- The options of a program: letters without and with a value, and longer names for some of them. -/
structure Usage where
  plain : String := ""
  valued : String := ""
  long : List (String × Char) := []
  mixed : Bool := true
  counted : Option Char := none
  misuse : Nat := 1

/-- Reads the letters of one argument; the answer has the arguments that are left. -/
def Usage.letters (u : Usage) (cs : List Char) (rest : List String) :
    Except String (List (Char × String) × List String) :=
  match cs with
  | [] => .ok ([], rest)
  | c :: cs =>
    if u.valued.toList.contains c then
      match cs, rest with
      | [], [] => .error ("option requires an argument -- '" ++ String.singleton c ++ "'")
      | [], value :: rest => .ok ([(c, value)], rest)
      | cs, rest => .ok ([(c, String.ofList cs)], rest)
    else if u.plain.toList.contains c then (u.letters cs rest).map fun (found, rest) => ((c, "") :: found, rest)
    else .error ("invalid option -- '" ++ String.singleton c ++ "'")

def Usage.read (u : Usage) (fuel : Nat) (args : List String) : Except String Arguments :=
  match fuel, args with
  | 0, _ | _, [] => .ok { operands := args }
  | fuel + 1, a :: rest =>
    let add (found : List (Char × String)) (r : Except String Arguments) : Except String Arguments :=
      r.map fun b => { b with options := found ++ b.options }
    match a.toList with
    | ['-', '-'] => .ok { operands := rest }
    | '-' :: '-' :: name =>
      let (name, value) := splitFirst '=' (String.ofList name)
      match u.long.find? fun l => l.1 == name || l.1.startsWith name with
      | none => .error ("unrecognized option '" ++ a ++ "'")
      | some (_, c) =>
        if u.valued.toList.contains c then
          match value, rest with
          | some v, rest => add [(c, v)] (u.read fuel rest)
          | none, v :: rest => add [(c, v)] (u.read fuel rest)
          | none, [] => .error ("option '" ++ a ++ "' requires an argument")
        else add [(c, "")] (u.read fuel rest)
    | '-' :: c :: cs =>
      match u.counted, c.isDigit with
      | some o, true => add [(o, String.ofList (c :: cs))] (u.read fuel rest)
      | _, _ =>
        match u.letters (c :: cs) rest with
        | .ok (found, rest) => add found (u.read fuel rest)
        | .error e => .error e
    | _ =>
      if u.mixed then (u.read fuel rest).map fun b => { b with operands := a :: b.operands }
      else .ok { operands := args }

def warn (name text : String) : Run Unit := Action.note (name ++ ": " ++ text)

def misused (name text : String) (status : Nat := 1) : Run Nat := do
  warn name text
  Action.note ("Try '" ++ name ++ " --help' for more information.")
  return status

def Usage.handle (u : Usage) (name : String) (args : List String) (action : Arguments → Run Nat) : Run Nat := do
  match u.read (args.length + 1) args with
  | .ok a => action a
  | .error text => misused name text u.misuse

def content (path : String) : Run (Except String String) := do
  let s ← get
  let fromInput := path == "-" || path == "/dev/stdin"
  if fromInput then
    if (s.descriptors.lookup 0).isNone then return .error (path ++ ": Bad file descriptor")
    else return .ok (Raw.ofBytes (← readAll 0))
  else
    match s.tree.read s.here (Raw.toText path) with
    | .ok bytes => return .ok (Raw.ofBytes bytes)
    | .error e => return .error (path ++ ": " ++ Action.errorText e)

/-- The contents of files, or of the input if there are none; complains about those that cannot be read, by the path and
the reason behind a colon. The answer tells whether all could. -/
def contents (name : String) (paths : List String) (failure : String → String → String := (· ++ ·)) :
    Run (List (String × String) × Bool) := do
  let mut found : List (String × String) := []
  let mut good := true
  for path in (if paths.isEmpty then ["-"] else paths) do
    match ← content path with
    | .ok text => found := (path, text) :: found
    | .error text =>
      warn name (failure path (String.ofList (text.toList.drop path.length)))
      good := false
  return (found.reverse, good)

def filter (name : String) (paths : List String) (f : String → String)
    (failure : String → String → String := (· ++ ·)) : Run Nat := do
  let (found, good) ← contents name paths failure
  write 1 (f (String.join (found.map (·.2))))
  return if good then 0 else 1

def replaceAll (old new text : String) : String :=
  if old.isEmpty then text
  else
    let rec go (fuel : Nat) (cs : List Char) : List Char :=
      match fuel, cs with
      | 0, _ | _, [] => cs
      | fuel + 1, c :: rest =>
        if old.toList.isPrefixOf (c :: rest) then new.toList ++ go fuel ((c :: rest).drop old.length)
        else c :: go fuel rest
    String.ofList (go (text.length + 1) text.toList)

def rightAligned (width : Nat) (s : String) : String := String.ofList (Text.padStart width ' ' s.toList)

def wordsOf (s : String) : List String :=
  (s.toList.foldr (fun c (words : List (List Char)) =>
    if Numeral.isBlank c then [] :: words
    else match words with
      | w :: rest => (c :: w) :: rest
      | [] => [[c]]) [[]]).filter (!·.isEmpty) |>.map String.ofList

end Lexicon.Shell.Tool
