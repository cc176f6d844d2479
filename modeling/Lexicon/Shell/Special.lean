import Lexicon.Shell.Action

namespace Lexicon.Shell.Action

open Run

/-- Ends the shell. While a trap runs, an exit without a status has the one from before. -/
def exiting : Action := fun args => do
  match args with
  | [] => if let some n := (← get).statusAtTrap then setStatus n
  | n :: _ => setStatus (← number n)
  throw .exit

def returning : Action := fun args => do
  match args with
  | [] => pure ()
  | n :: _ => setStatus (← number n)
  throw .returned

def levels (args : List String) : Run Nat := do
  let n ← match args with
    | [] => pure 1
    | n :: _ => do
      let count ← number n
      if count = 0 then fail ("Illegal number: " ++ n) else pure count
  return min n (← get).loops

def leaving : Action := fun args => do
  let n ← levels args
  setStatus 0
  if n = 0 then return 0 else throw (.leave n)

def repeating : Action := fun args => do
  let n ← levels args
  setStatus 0
  if n = 0 then return 0 else throw (.again n)

def shifting : Action := fun args => do
  let n ← match args with
    | [] => pure 1
    | n :: _ => number n
  let s ← get
  if s.arguments.length < n then fail "can't shift that many"
  set { s with arguments := s.arguments.drop n, optionPlace := (1, none) }
  return 0

def optionNames : List (Char × String) := [
  ('e', "errexit"), ('f', "noglob"), ('I', "ignoreeof"), ('i', "interactive"), ('m', "monitor"), ('n', "noexec"),
  ('s', "stdin"), ('x', "xtrace"), ('v', "verbose"), ('V', "vi"), ('E', "emacs"), ('C', "noclobber"),
  ('a', "allexport"), ('b', "notify"), ('u', "nounset"), ('p', "privileged")]

def namedOptions : List (Char × String) := [('\x01', "nolog"), ('\x02', "debug")]

def setOption (letter : Char) (value : Bool) : Run Unit := modify fun s =>
  let others := s.options.filter (· != letter)
  { s with options := if value then letter :: others else others }

def showOptions (asTable : Bool) : Run Unit := do
  let s ← get
  let line (o : Char × String) : String :=
    let isSet := s.options.contains o.1
    if asTable then String.ofList (o.2.toList ++ List.replicate (16 - o.2.length) ' ') ++ (if isSet then "on\n" else "off\n")
    else "set " ++ (if isSet then "-o " else "+o ") ++ o.2 ++ "\n"
  write 1 ((if asTable then "Current option settings\n" else "") ++ String.join ((optionNames ++ namedOptions).map line))

/-- Sets the options that arguments begin with. The answer has the rest of the arguments, and whether they replace
those that there are even if there are none. -/
def setOptions (fuel : Nat) (args : List String) : Run (List String × Bool) := do
  match fuel, args with
  | 0, _ | _, [] => return ([], false)
  | fuel + 1, a :: rest =>
    match a.toList with
    | ['-'] =>
      setOption 'x' false
      setOption 'v' false
      return (rest, false)
    | ['-', '-'] => return (rest, true)
    | sign :: letters =>
      if sign == '-' || sign == '+' then
        let rest ← letters.foldlM (fun (rest : List String) c => do
          if c == 'o' then
            match rest with
            | [] =>
              showOptions (sign == '-')
              return []
            | name :: rest =>
              match (optionNames ++ namedOptions).find? (·.2 == name) with
              | some (c, _) => setOption c (sign == '-')
              | none => fail ("Illegal option -o " ++ name)
              return rest
          else if optionNames.any (·.1 == c) then
            setOption c (sign == '-')
            return rest
          else fail ("Illegal option -" ++ String.singleton c)) rest
        setOptions fuel rest
      else return (args, false)
    | [] => return (args, false)

def showVariables (word : String) (p : Variable → Bool) : Run Nat := do
  let chosen := (← get).bindings.filter fun v => p v.2
  let sorted := chosen.mergeSort fun a b => decide (a.1 ≤ b.1)
  printing (String.join (sorted.map fun (name, v) =>
    word ++ name ++ (match v.value with
      | some value => "=" ++ singleQuoted value
      | none => "") ++ "\n"))

def setting : Action := fun args => do
  if args.isEmpty then showVariables "" fun v => v.value.isSome
  else
    let (rest, replaces) ← setOptions (args.length + 1) args
    if replaces || !rest.isEmpty then
      modify fun s => { s with arguments := rest, optionPlace := (1, none) }
    return 0

def requireName (name : String) : Run Unit := do
  if !isName name then fail (name ++ ": bad variable name")

def marking (word : String) (mark : Variable → Variable) (isMarked : Variable → Bool) : Action := fun args => do
  let (found, names) ← options "p" "" args
  if !found.isEmpty || names.isEmpty then showVariables (word ++ " ") isMarked
  else
    names.forM fun a => do
      let (name, value) := splitFirst '=' a
      requireName name
      if let some value := value then setVariable name value
      modify fun s => { s with toSession := s.toSession.updateVariable name mark }
    return 0

def exporting : Action := marking "export" ({ · with exported := true }) (·.exported)

def protecting : Action := marking "readonly" ({ · with readOnly := true }) (·.readOnly)

def keepingLocal : Action := fun args => do
  if (← get).locals.isNone then fail "not in a function"
  args.forM fun a => do
    let (name, value) := splitFirst '=' a
    if name != "-" then
      requireName name
      keepLocal name
      if let some value := value then setVariable name value
  return 0

def unsetting : Action := fun args => do
  let (found, names) ← options "vf" "" args
  let functions := found.getLast? == some ('f', "")
  names.forM fun name => do
    if functions then modify fun s => { s with functions := s.functions.filter (·.1 != name) }
    else
      let (name, _) := splitFirst '=' name
      requireName name
      let s ← get
      if (s.bindings.lookup name).any (·.readOnly) then fail (name ++ ": is read only")
      set { s with toSession := s.toSession.restoreVariable name none }
  return 0

/-- Reads a line into variables. A backslash protects the next character, unless told otherwise. -/
def reading : Action := fun args => do
  let (found, names) ← options "r" "p" args
  if names.isEmpty then fail "arg count"
  let raw := found.any (·.1 == 'r')
  let (cs, ended) ← line raw (← get).streams.size
  let s ← get
  let fields := Fields.ofStretches s.separators (stretches raw cs) (some names.length)
  (names.zipIdx).forM fun (name, i) => do
    requireName name
    setVariable name (textOf (fields.getD i []))
  return if ended then 0 else 1
where
  /-- A line without its break; protected breaks belong to it. -/
  line (raw : Bool) (fuel : Nat) : Run (List Char × Bool) := do
    let cs := ((Raw.ofBytes (← readLine 0)).toList).filter (· != '\x00')
    if cs.getLast? != some '\n' then return (cs, false)
    let cs := cs.dropLast
    let isProtected := !raw && (cs.reverse.takeWhile (· == '\\')).length % 2 == 1
    match isProtected, fuel with
    | true, fuel + 1 =>
      let (more, ended) ← line raw fuel
      return (cs.dropLast ++ more, ended)
    | _, _ => return (cs, true)
  stretches (raw : Bool) (cs : List Char) : List Stretch :=
    if raw then [⟨.atSeparators, cs.map (.character · false)⟩]
    else go cs.length cs
  go (fuel : Nat) (cs : List Char) : List Stretch :=
    match fuel with
    | 0 => [⟨.atSeparators, []⟩]
    | fuel + 1 =>
      let (plain, rest) := cs.span (· != '\\')
      let front : Stretch := ⟨.atSeparators, plain.map (.character · false)⟩
      match rest with
      | _ :: c :: rest => front :: ⟨.nowhere, [.character c true]⟩ :: go fuel rest
      | _ => [front]

def readingOptions : Action := fun args => do
  let (_, args) ← options "" "" args
  match args with
  | letters :: name :: given =>
    let s ← get
    let words := if given.isEmpty then s.arguments else given
    let (index, offset) := s.optionPlace
    let current := (words[index - 2]?).getD ""
    let inside := match offset with
      | some n => if 2 ≤ index && n < current.length then some (current.toList.drop n) else none
      | none => none
    let finish (index : Nat) (offset : Option Nat) (answer : String) (status : Nat) : Run Nat := do
      setVariable "OPTIND" (toString index)
      modify fun s => { s with optionPlace := (index, offset) }
      requireName name
      setVariable name answer
      return status
    let next : Option (List Char) × Nat := match inside with
      | some cs => (some cs, index)
      | none =>
        match (words[index - 1]?).map String.toList with
        | some ['-', '-'] => (none, index + 1)
        | some ('-' :: c :: cs) => (some (c :: cs), index + 1)
        | _ => (none, index)
    match next with
    | (none, index) | (some [], index) => finish index none "?" 1
    | (some (c :: rest), index) =>
      let silent := letters.startsWith ":"
      let known := (letters.toList.dropWhile (· != c))
      let width := ((words[index - 2]?).getD "").length
      let here : Option Nat := if rest.isEmpty then none else some (width - rest.length)
      if c == ':' || known.isEmpty then
        if silent then setVariable "OPTARG" (String.singleton c)
        else
          note ("Illegal option -" ++ String.singleton c)
          modify fun s => { s with toSession := s.toSession.restoreVariable "OPTARG" none }
        finish index here "?" 0
      else if known[1]? == some ':' then
        match rest, words[index - 1]? with
        | [], none =>
          if silent then
            setVariable "OPTARG" (String.singleton c)
            finish index none ":" 0
          else
            note ("No arg for -" ++ String.singleton c ++ " option")
            modify fun s => { s with toSession := s.toSession.restoreVariable "OPTARG" none }
            finish index none "?" 0
        | [], some value =>
          setVariable "OPTARG" value
          finish (index + 1) none (String.singleton c) 0
        | rest, _ =>
          setVariable "OPTARG" (String.ofList rest)
          finish index none (String.singleton c) 0
      else
        setVariable "OPTARG" ""
        finish index here (String.singleton c) 0
  | _ => fail "Usage: getopts optstring var [arg...]"

def naming : Action := fun args => do
  let s ← get
  if args.isEmpty then
    let shown := s.aliases.mergeSort fun a b => decide (shelf 39 a.1 ≤ shelf 39 b.1)
    printing (String.join (shown.map fun (name, value) => name ++ "=" ++ singleQuoted value ++ "\n"))
  else
    args.foldlM (fun status a => do
      match splitFirst '=' a with
      | (name, some value) =>
        let known := (← get).aliases.any (·.1 == name)
        modify fun s => { s with
          aliases := if known then s.aliases.map fun a => if a.1 == name then (name, value) else a
            else s.aliases ++ [(name, value)] }
        return status
      | (name, none) =>
        match (← get).aliases.lookup name with
        | some value => printing (name ++ "=" ++ singleQuoted value ++ "\n") status
        | none =>
          note ("alias: " ++ name ++ " not found")
          return 1) 0

def unnaming : Action := fun args => do
  let (found, names) ← options "a" "" args
  if !found.isEmpty then
    modify fun s => { s with aliases := [] }
    return 0
  else
    names.foldlM (fun status name => do
      let s ← get
      if s.aliases.any (·.1 == name) then
        set { s with aliases := s.aliases.filter (·.1 != name) }
        return status
      else
        note ("unalias: " ++ name ++ " not found")
        return 1) 0

/-- The first argument of a trap is a number, or the only argument: nothing more is done about the signals. -/
def trapping : Action := fun args => do
  let (_, args) ← options "" "" args
  match args with
  | [] =>
    let traps := (← get).traps.mergeSort fun a b => decide (a.1 ≤ b.1)
    printing (String.join (traps.map fun (n, action) =>
      "trap -- " ++ singleQuoted action ++ " " ++ Signal.nameOf n ++ "\n"))
  | first :: rest =>
    let resets := rest.isEmpty || (!first.isEmpty && first.toList.all Char.isDigit)
    go (if resets || first = "-" then none else some first) (if resets then args else rest)
where
  go (action : Option String) : List String → Run Nat
    | [] => return 0
    | name :: rest => do
      match Signal.numberOf? 0 name with
      | none =>
        note ("trap: " ++ name ++ ": bad trap")
        return 1
      | some n =>
        modify fun s =>
          let others := s.traps.filter (·.1 != n)
          { s with traps := match action with
            | some text => (n, text) :: others
            | none => others }
        go action rest

def receive (n : Nat) : Run Unit := do
  let s ← get
  let isFinal := n = 9 || n = 19
  match (if isFinal then none else s.traps.lookup n) with
  | some action => if !action.isEmpty then set { s with caught := s.caught ++ [n] }
  | none => if (Signal.ofNumber? n).any (·.effect == .ends) then throw (.killed n)

def job (name : String) : Run Job := do
  let s ← get
  let text := String.ofList (name.toList.drop 1)
  let found := if ["", "%", "+"].contains text then s.jobs.getLast?
    else text.toNat?.bind fun n => s.jobs[n - 1]?
  match found with
  | some j => return j
  | none => fail ("No such job: " ++ name)

/-- Sends a signal to a process. The answer is whether there is one. -/
def send (n : Nat) (target : Nat) : Run Bool := do
  let s ← get
  if target = s.process then
    if n != 0 then receive n
    return true
  else if s.jobs.any fun j => j.process == target then
    let running := s.jobs.any fun j => j.process == target && j.status.isNone
    let ends := (Signal.ofNumber? n).any (·.effect == .ends)
    if running && ends then
      let mark (j : Job) : Job := if j.process == target then { j with status := some (Signal.statusOf n) } else j
      set { s with jobs := s.jobs.map mark }
    return running
  else if target = s.shellProcess || target = s.parent || 4000 ≤ target && target < s.process then
    if n != 0 then set { s with signals := s.signals ++ [(target, n)] }
    return true
  else return false

def signalling : Action := fun args => do
  let usage : Run Nat := fail ("Usage: kill [-s sigspec | -signum | -sigspec] [pid | job]... or\n"
    ++ "kill -l [exitstatus]")
  let deliver (n : Nat) (targets : List String) : Run Nat := do
    if targets.isEmpty then usage
    else
      targets.foldlM (fun status t => do
        let process ← if t.startsWith "%" then pure (← job t).process
          else number (if t.startsWith "-" then String.ofList (t.toList.drop 1) else t)
        if ← send n process then return status
        else
          complain "No such process\n"
          return 1) 0
  match args with
  | [] => usage
  | first :: rest =>
    if first.startsWith "-" then
      match Signal.numberOf? 1 (String.ofList (first.toList.drop 1)) with
      | some n => deliver n rest
      | none =>
        let (found, targets) ← options "l" "s" args
        if found.any (·.1 == 'l') then
          match targets with
          | [] => printing ("0\n" ++ String.join (Signal.all.map fun s => s.name ++ "\n"))
          | status :: _ =>
            let n ← number status
            let n := if 128 < n then n - 128 else n
            match Signal.ofNumber? n with
            | some s => printing (s.name ++ "\n")
            | none => fail ("invalid signal number or exit status: " ++ status)
        else
          match found.getLast? with
          | some (_, name) =>
            match Signal.numberOf? 1 name with
            | some n => deliver n targets
            | none => fail ("invalid signal number or name: " ++ name)
          | none => deliver 15 targets
    else deliver 15 args

def listing : Action := fun _ => do
  let s ← get
  let line (i : Nat) : String :=
    let mark := if i + 1 = s.jobs.length then "+" else if i + 2 = s.jobs.length then "-" else " "
    "[" ++ toString (i + 1) ++ "] " ++ mark ++ " Running" ++ String.ofList (List.replicate 20 ' ') ++ "\n"
  printing (String.join ((s.jobs.zipIdx.filter fun j => j.1.status.isNone).map fun j => line j.2))

def foreground : Action := fun _ => fail "No current job"

def special : List (String × Action) := [
  (":", ending 0), ("break", leaving), ("continue", repeating), ("exit", exiting), ("export", exporting),
  ("local", keepingLocal), ("readonly", protecting), ("return", returning), ("set", setting), ("shift", shifting),
  ("times", measuring), ("trap", trapping), ("unset", unsetting)]

def regular : List (String × Action) := [
  ("[", testingInBrackets), ("alias", naming), ("bg", foreground), ("cd", moving), ("chdir", moving),
  ("echo", echoing), ("false", ending 1), ("fg", foreground), ("getopts", readingOptions),
  ("jobs", listing), ("kill", signalling), ("printf", formatting), ("pwd", locating), ("read", reading),
  ("test", testing), ("true", ending 0), ("ulimit", measuring), ("umask", masking), ("unalias", unnaming)]

end Lexicon.Shell.Action
