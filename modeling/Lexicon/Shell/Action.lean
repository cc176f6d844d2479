import Lexicon.Shell.Format
import Lexicon.Shell.State

namespace Lexicon.Shell

open Run

abbrev Action := List String → Run Nat

def splitFirst (c : Char) (s : String) : String × Option String :=
  let (front, rest) := s.toList.span (· != c)
  (String.ofList front, if rest.isEmpty then none else some (String.ofList rest.tail))

/-- A text in single quotes. Single quotes in it stand in double quotes. -/
def singleQuoted (s : String) : String :=
  let rec go (fuel : Nat) (cs : List Char) : List Char :=
    match fuel with
    | 0 => []
    | fuel + 1 =>
      let (plain, rest) := cs.span (· != '\'')
      let (quotes, rest) := rest.span (· == '\'')
      ['\''] ++ plain ++ ['\''] ++ (if quotes.isEmpty then [] else ['"'] ++ quotes ++ ['"'])
        ++ (if rest.isEmpty then [] else go fuel rest)
  String.ofList (go (s.length + 1) s.toList)

namespace Action

/-- An error of a file call as programs say it: without its number. -/
def errorText (e : OsError) : String :=
  let cs := e.message.toList
  let number := " (os error ".toList
  match (List.range cs.length).find? fun n => number.isPrefixOf (cs.drop n) with
  | some n => String.ofList (cs.take n)
  | none => e.message

/-- Prints, and answers a status. If nothing can be printed, the command has failed. -/
def printing (text : String) (status : Nat := 0) : Run Nat := do
  if ← tryWrite 1 text then return status
  else
    complain (((← get).charge.map (· ++ ": ")).getD "" ++ "I/O error")
    return 1

def note (text : String) : Run Unit := write 2 (text ++ "\n")

def number (s : String) : Run Nat :=
  match Numeral.count? s with
  | some n => return n
  | none => fail ("Illegal number: " ++ s)

/-- Reads options of one letter; those in `valued` have a value. The answer has the options in order, and the
arguments behind them. -/
def options (plain valued : String) (args : List String) : Run (List (Char × String) × List String) :=
  go args.length (args.foldl (fun n a => n + a.length + 1) 1) args
where
  go (fuel letters : Nat) (args : List String) : Run (List (Char × String) × List String) := do
    match fuel, args with
    | 0, _ | _, [] => return ([], args)
    | fuel + 1, a :: rest =>
      match a.toList with
      | ['-', '-'] => return ([], rest)
      | '-' :: c :: cs =>
        let (found, rest) ← group letters (c :: cs) rest
        let (more, rest) ← go fuel letters rest
        return (found ++ more, rest)
      | _ => return ([], args)
  group (fuel : Nat) (cs : List Char) (rest : List String) : Run (List (Char × String) × List String) := do
    match fuel, cs with
    | 0, _ | _, [] => return ([], rest)
    | fuel + 1, c :: cs =>
      if valued.toList.contains c then
        match cs, rest with
        | [], [] => fail ("No arg for -" ++ String.singleton c ++ " option")
        | [], value :: rest => return ([(c, value)], rest)
        | cs, rest => return ([(c, String.ofList cs)], rest)
      else if plain.toList.contains c then
        let (more, rest) ← group fuel cs rest
        return ((c, "") :: more, rest)
      else fail ("Illegal option -" ++ String.singleton c)

def ending (status : Nat) : Action := fun _ => return status

def echoing : Action := fun args => printing (echo args)

def formatting : Action := fun args => do
  let (_, args) ← options "" "" args
  match args with
  | [] => fail "usage: printf format [arg ...]"
  | format :: args =>
    let p := printf format args
    p.complaints.reverse.forM complain
    match p.failure with
    | some text =>
      complain text
      let _ ← printing p.text
      return 2
    | none => printing p.text (if p.complaints.isEmpty then 0 else 1)

def testing : Action := fun args => do
  let s ← get
  match Condition.holds s.tree s.here args with
  | .ok v => return if v then 0 else 1
  | .error text => fail text

def testingInBrackets : Action := fun args =>
  if args.getLast? == some "]" then testing args.dropLast else fail "missing ]"

def pathOf (l : Location) : String := Raw.ofText ("/" ++ String.intercalate "/" l)

def locating : Action := fun args => do
  let _ ← options "LP" "" args
  printing (pathOf (← get).here ++ "\n")

def moving : Action := fun args => do
  let (_, args) ← options "LP" "" args
  let s ← get
  let target := match args with
    | [] => (s.valueOf? "HOME").getD ""
    | "-" :: _ => (s.valueOf? "OLDPWD").getD ""
    | path :: _ => path
  let isPlain := target.startsWith "/" || ["", ".", ".."].contains (splitFirst '/' target).1
  let places := if isPlain then [] else
    (s.valueOf? "CDPATH").elim [] fun text =>
      (Text.splitAt ':' text.toList).filter (!·.isEmpty) |>.map fun d => Path.join (String.ofList d) target
  let find (path : String) := match s.tree.find s.here (Raw.toText path) with
    | .ok (l, .directory) => some l
    | _ => none
  let found := places.find? fun p => (find p).isSome
  match find (found.getD (if target.isEmpty then "." else target)) with
  | some l =>
    let session := (s.toSession.updateVariable "OLDPWD" fun v =>
      { v with value := some (pathOf s.here), exported := true }).updateVariable "PWD" fun v =>
        { v with value := some (pathOf l), exported := true }
    set { s with toSession := { session with here := l } }
    if found.isSome || args.head? == some "-" then printing (pathOf l ++ "\n") else return 0
  | none => fail ("can't cd to " ++ target)

def masking : Action := fun args => do
  let (given, args) ← options "S" "" args
  let s ← get
  match args with
  | [] =>
    if given.isEmpty then printing (String.ofList (Text.padStart 4 '0' (Nat.toDigits 8 s.mask)) ++ "\n")
    else
      let shown (shift : Nat) : String :=
        let granted := 7 - s.mask / Nat.pow 8 shift % 8
        (if 4 ≤ granted then "r" else "") ++ (if granted / 2 % 2 = 1 then "w" else "")
          ++ (if granted % 2 = 1 then "x" else "")
      printing ("u=" ++ shown 2 ++ ",g=" ++ shown 1 ++ ",o=" ++ shown 0 ++ "\n")
  | mode :: _ =>
    if mode.toList.head?.any Char.isDigit then
      if mode.toList.all isOctal then set { s with mask := Numeral.value 8 mode.toList % 512 }; return 0
      else fail ("Illegal number: " ++ mode)
    else
      match changeMode (511 - s.mask) mode with
      | some granted =>
        set { s with mask := 511 - granted }
        return 0
      | none => fail ("Illegal mode: " ++ mode)
where
  changeMode (granted : Nat) (mode : String) : Option Nat :=
    (Text.splitAt ',' mode.toList).foldlM (fun granted clause => do
      let (who, rest) := clause.span ['u', 'g', 'o', 'a'].contains
      let who := if who.isEmpty || who.contains 'a' then ['u', 'g', 'o'] else who
      match rest with
      | [] => none
      | operation :: letters =>
        if !(['+', '-', '='].contains operation && letters.all ['r', 'w', 'x', 'X', 's', 't'].contains) then
          none
        else
          let bits := (if letters.contains 'r' then 4 else 0) + (if letters.contains 'w' then 2 else 0)
            + (if letters.contains 'x' || letters.contains 'X' then 1 else 0)
          let change (granted : Nat) (place : Char × Nat) : Nat :=
            if who.contains place.1 then
              let old := granted / place.2 % 8
              let new := if operation == '+' then old ||| bits else if operation == '-' then old &&& (7 - bits) else bits
              granted - old * place.2 + new * place.2
            else granted
          return [('u', 64), ('g', 8), ('o', 1)].foldl change granted) granted

/-- Prints nothing that could be foreseen: limits and times. -/
def measuring : Action := fun _ => return 0

end Action

end Lexicon.Shell
