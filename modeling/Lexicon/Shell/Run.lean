import Lexicon.Shell.Expansion
import Lexicon.Shell.Image
import Lexicon.Shell.Reader
import Lexicon.Shell.Special
import Lexicon.Shell.Tools

/-!
How scripts run: redirections, simple and compound commands, processes and traps, and the programs of a file tree.
Every step has fuel, so that a script without an end is given up.
-/
namespace Lexicon.Shell

open Text (Bytes)
open Run

structure Manner where
  tested : Bool := false
  final : Bool := false

def Manner.more (m : Manner) : Manner := { m with final := false }

def Manner.condition : Manner := { tested := true }

structure Call where
  name : String
  args : List String
  special : Bool := false
  direct : Bool := false

def Call.ofFields (direct : Bool) : List String → Option Call
  | [] => none
  | "command" :: "--" :: name :: args => Call.ofFields true (name :: args)
  | "command" :: "-p" :: name :: args => Call.ofFields true (name :: args)
  | "command" :: name :: args =>
    if name.startsWith "-" && name != "-" then some ⟨"command", name :: args, false, true⟩
    else Call.ofFields true (name :: args)
  | name :: args => some ⟨name, args, !direct && specialNames.contains name, direct⟩

def runners : List String := [".", "command", "eval", "exec", "hash", "type", "wait"]

def isBuiltin (name : String) : Bool :=
  (Action.special.lookup name).isSome || (Action.regular.lookup name).isSome || runners.contains name

def programPath? (s : State) (name : String) : Option String :=
  let isProgram (path : String) := s.tree.isExecutable s.here (Raw.toText path)
  if name.toList.contains '/' then if isProgram name then some name else none
  else (searchPlaces ((s.valueOf? "PATH").getD "") name).find? isProgram

def Call.isFunction (c : Call) (s : State) : Bool :=
  !c.direct && !specialNames.contains c.name && s.functions.any (·.1 == c.name)

def Call.mayFail (c : Call) (s : State) : Bool := !c.special && isBuiltin c.name && !c.isFunction s

def describe (verbose : Bool) (name : String) : Run Nat := do
  let s ← get
  let answer (words plain : String) : Run Nat := do
    write 1 ((if verbose then name ++ words else plain) ++ "\n")
    return 0
  if reservedWords.contains name then answer " is a shell keyword" name
  else
    match s.aliases.lookup name with
    | some value => answer (" is an alias for " ++ value) ("alias " ++ name ++ "=" ++ singleQuoted value)
    | none =>
      if specialNames.contains name then answer " is a special shell builtin" name
      else if s.functions.any (·.1 == name) then answer " is a shell function" name
      else if isBuiltin name then answer " is a shell builtin" name
      else
        match programPath? s name with
        | some path =>
          let known := s.remembered.contains name && !name.toList.contains '/'
          answer ((if known then " is a tracked alias for " else " is ") ++ path) path
        | none =>
          if verbose then write 1 (name ++ ": not found\n")
          return 127

def remember (name : String) : Run Unit := do
  let s ← get
  if !name.toList.contains '/' && !s.remembered.contains name && (programPath? s name).isSome then
    set { s with remembered := s.remembered ++ [name] }

def remembering : Action := fun args => do
  let (found, names) ← Action.options "rv" "" args
  if !found.isEmpty then modify fun s => { s with remembered := [] }
  let s ← get
  if names.isEmpty && found.isEmpty then
    let shown := s.remembered.mergeSort fun a b => decide (shelf 31 a ≤ shelf 31 b)
    Action.printing (String.join (shown.filterMap fun name => (programPath? s name).map (· ++ "\n")))
  else
    names.foldlM (fun status name => do
      if isBuiltin name || s.functions.any (·.1 == name) then return status
      else if (programPath? s name).isSome then
        remember name
        return status
      else
        complain (name ++ ": not found")
        return 1) 0

def commanding : Action := fun args => do
  let (found, args) ← Action.options "pvV" "" args
  match args, found.getLast? with
  | name :: _, some ('v', _) => describe false name
  | name :: _, some ('V', _) => describe true name
  | _, _ => return 0

def describing : Action := fun args =>
  args.foldlM (fun status name => return status ||| (← describe true name)) 0

def builtin? (name : String) : Option Action :=
  match name with
  | "command" => some commanding
  | "type" => some describing
  | "hash" => some remembering
  | _ => Action.special.lookup name <|> Action.regular.lookup name

/-- Opens a file. The answer is a stream, or why there is none. -/
def openFile (kind : Redirect) (path : String) : Run (Except String Nat) := do
  let s ← get
  let device : Option Stream := match path with
    | "/dev/null" | "/dev/tty" => some .void
    | "/dev/full" => some .full
    | _ => none
  let descriptor : Option Nat := match path with
    | "/dev/stdin" => some 0
    | "/dev/stdout" => some 1
    | "/dev/stderr" => some 2
    | _ => if path.startsWith "/dev/fd/" then (String.ofList (path.toList.drop 8)).toNat? else none
  match device, descriptor.bind fun n => s.descriptors.lookup n with
  | some stream, _ => return .ok (← addStream stream)
  | none, some i => return .ok i
  | none, none =>
    let name := Raw.toText path
    if kind == Redirect.read then
      match s.tree.find s.here name with
      | .ok (l, .file ..) => return .ok (← addStream (.file l 0 false))
      | .ok (_, .directory) => return .ok (← addStream .void)
      | .error .noEntry | .error .notDirectory => return .error ("cannot open " ++ path ++ ": No such file")
      | .error e => return .error ("cannot open " ++ path ++ ": " ++ Action.errorText e)
    else
      let refuse (text : String) : Run (Except String Nat) := return .error ("cannot create " ++ path ++ ": " ++ text)
      match s.tree.walk s.here name with
      | .ok (.directory _) => refuse "Is a directory"
      | .ok (.name parent last slash) =>
        let l := parent ++ [last]
        match s.tree.node? l with
        | some .directory => refuse "Is a directory"
        | some (.file content executable) =>
          if slash then refuse "Directory nonexistent"
          else if kind == Redirect.write && s.hasOption 'C' then refuse "File exists"
          else
            let content := if kind == Redirect.write || kind == Redirect.clobber then [] else content
            set { s with tree := s.tree.put l (.file content executable) }
            return .ok (← addStream (.file l 0 (kind == Redirect.append)))
        | none =>
          if slash then refuse "Is a directory"
          else
            set { s with tree := s.tree.put l (.file [] false) }
            return .ok (← addStream (.file l 0 (kind == Redirect.append)))
      | .error .noEntry | .error .notDirectory => refuse "Directory nonexistent"
      | .error e => refuse (Action.errorText e)

/-- Sets where descriptors lead. The answer is whether that is possible; it is not for a text that has none. -/
def redirectAll : List (Nat × Redirect × Option String) → Run Bool
  | [] => return true
  | (_, _, none) :: _ => return false
  | (descriptor, kind, some target) :: rest => do
    match kind with
    | .copyIn | .copyOut =>
      match target.toNat? with
      | none =>
        lead descriptor none
        redirectAll rest
      | some n =>
        match (← get).descriptors.lookup n with
        | some i =>
          lead descriptor (some i)
          redirectAll rest
        | none =>
          complain (target ++ ": Bad file descriptor")
          return false
    | .document _ =>
      lead descriptor (some (← addStream (.given (Raw.toBytes target))))
      redirectAll rest
    | kind =>
      match ← openFile kind target with
      | .ok i =>
        lead descriptor (some i)
        redirectAll rest
      | .error text =>
        complain text
        return false

def keepingDescriptors (action : Run α) : Run α :=
  keeping (fun s t => { t with descriptors := s.descriptors }) action

def changingDescriptors (action : Run Unit) : Run Unit := fun s =>
  match action s with
  | (.ok (), t) => (.ok (), if t.status = 0 then t else { t with descriptors := s.descriptors })
  | result => result

def forgiving (action : Run Unit) : Run Unit := fun s =>
  match action s with
  | (.error .failed, t) => (.ok (), t)
  | result => result

def returningSafely (tested : Bool) (action : Run Unit) : Run Unit := fun s =>
  match action s with
  | (.error .returned, t) =>
    (.error (if t.hasOption 'e' && !tested && t.status != 0 then .exit else .returned), t)
  | result => result

def ifNoMistake (action : Run α) : Run (Option α) := fun s =>
  match action s with
  | (.error .failed, t) => (.ok none, t)
  | (.ok answer, t) => (.ok (some answer), t)
  | (.error e, t) => (.error e, t)

/-- Takes the signals that have been sent to the process. Those that a trap is set for are kept in mind. -/
def receiveSignals : Run Unit := do
  let s ← get
  if s.signals.isEmpty then return ()
  let (mine, others) := s.signals.partition (·.1 == s.process)
  set { s with signals := others }
  mine.forM fun signal => Action.receive signal.2

def Session.forked (s : Session) (process : Nat) : Session :=
  { s with process, parent := s.process, traps := s.traps.filter (·.2.isEmpty), caught := [] }

/-- The session of a program: it has the variables that are handed down, and nothing else of a shell. -/
def Session.ofProgram (s : Session) (name : String) : Session :=
  { here := s.here, descriptors := s.descriptors, name
    bindings := s.bindings.filter fun v => v.2.exported && v.2.value.isSome
    traps := s.traps.filter (·.2.isEmpty), mask := s.mask, process := s.process, parent := s.parent
    shellProcess := s.process }

def Session.withDefaults (s : Session) (searchPath : String) : Session :=
  let default (s : Session) (v : String × String) : Session :=
    if (s.valueOf? v.1).isSome then s else s.updateVariable v.1 fun _ => { value := some v.2 }
  let s := [("PATH", searchPath), ("PS1", if s.process = 0 then "$ " else "# "), ("PS2", "> "), ("PS4", "+ ")].foldl default s
  let s := s.updateVariable "PWD" fun v => { v with value := some (Action.pathOf s.here) }
  let s := s.updateVariable "PPID" fun _ => { value := some (toString s.parent) }
  (s.updateVariable "IFS" fun _ => { value := some " \t\n" }).updateVariable "OPTIND" fun v => { v with value := some "1" }

def reportKilled (n : Nat) : Run Unit := do
  let report := Signal.reportOf n
  if !report.isEmpty then Action.note report
  setStatus (Signal.statusOf n)

mutual

/-- Runs something as a process of its own, to its end. The answer is the signal that ended it, if one did. -/
def runProcess (fuel : Nat) (session : Session → Nat → Session) (body : Run Unit) : Run (Option Nat) := do
  match fuel with
  | 0 => throw .exit
  | fuel + 1 => fun outer =>
    let start : State :=
      { outer with
        toSession := session outer.toSession outer.nextProcess, nextProcess := outer.nextProcess + 1, jobs := [] }
    let (result, t) := concluding fuel body start
    let outer := { outer with toWorld := t.toWorld }
    match result with
    | .error (.killed n) => (.ok (some n), { outer with status := Signal.statusOf n })
    | _ => (.ok none, { outer with status := t.status % 256 })

/-- Runs something to the end of its process: what is to be done at the exit follows, and commands in the background
end, too. -/
def concluding (fuel : Nat) (body : Run Unit) : Run Unit := do
  match fuel with
  | 0 => throw .exit
  | fuel + 1 => fun s =>
    let caughtUp : Run Unit := do
      body
      attend fuel
    let (result, t) := caughtUp s
    let atExit : Run Unit := do
      let s ← get
      match s.traps.lookup Signal.exitNumber with
      | none => return ()
      | some action =>
        set { s with traps := s.traps.filter (·.1 != Signal.exitNumber), statusAtTrap := some s.status, charge := none }
        runText fuel {} action
        setStatus s.status
    match result with
    | .error (.killed n) =>
      let (_, t) := runJobs fuel t
      (.error (.killed n), t)
    | _ =>
      let (result, t) := atExit t
      let (_, t) := runJobs fuel t
      match result with
      | .error (.killed n) => (.error (.killed n), t)
      | _ => (.ok (), t)

def runJobs (fuel : Nat) : Run Unit := do
  match fuel with
  | 0 => throw .exit
  | fuel + 1 =>
    let s ← get
    match s.jobs.find? (·.status.isNone) with
    | none => return ()
    | some job =>
      let void ← addStream .void
      let session (_ : Session) (_ : Nat) : Session :=
        { job.session with
          descriptors := if job.session.descriptors.lookup 0 == s.descriptors.lookup 0 then
            (0, void) :: job.session.descriptors.filter (·.1 != 0) else job.session.descriptors }
      let killed ← runProcess fuel session (runCommand fuel { final := true } job.command)
      let status := (← get).status
      if let some n := killed then reportKilled n
      let mark (j : Job) : Job := if j.process == job.process then { j with status := some status } else j
      modify fun t => { t with jobs := t.jobs.map mark, status := s.status }
      runJobs fuel

def attend (fuel : Nat) : Run Unit := do
  match fuel with
  | 0 => throw .exit
  | fuel + 1 =>
    receiveSignals
    let s ← get
    match s.caught with
    | [] => return ()
    | n :: rest =>
      set { s with caught := rest, statusAtTrap := some s.status }
      if let some action := s.traps.lookup n then runText fuel {} action
      modify fun t => { t with status := s.status, statusAtTrap := s.statusAtTrap }
      attend fuel

def runText (fuel : Nat) (manner : Manner) (text : String) : Run Unit := do
  match fuel with
  | 0 => throw .exit
  | fuel + 1 => runSource fuel { manner with final := manner.final && !text.endsWith "\n" } true { rest := text.toList }

/-- Runs what is left of a script, of which nothing has been run if it is `fresh`. A script without commands succeeds. -/
def runSource (fuel : Nat) (manner : Manner) (fresh : Bool) (source : Source) : Run Unit := do
  match fuel with
  | 0 => throw .exit
  | fuel + 1 =>
    let s ← get
    match completeLine { source with aliases := s.aliases, nextDocument := s.nextDocument } with
    | .error e =>
      set { s with line := e.line }
      fail e.text
    | .ok none => if fresh then setStatus 0
    | .ok (some (script, source)) =>
      set { s with documents := source.documents ++ s.documents, nextDocument := source.nextDocument }
      runScript fuel { manner with final := manner.final && source.rest.isEmpty } script
      runSource fuel manner (fresh && script.isEmpty) source

/-- The output of commands. Their status is kept in mind, but is not yet that of the latest command. -/
def substitute (fuel : Nat) (body : Script) : Run String := do
  match fuel with
  | 0 => throw .exit
  | fuel + 1 =>
    let i ← addStream (.collected [])
    let session (s : Session) (process : Nat) : Session :=
      { s.forked process with descriptors := (1, i) :: s.descriptors.filter (·.1 != 1), traps := s.traps.filter (·.2.isEmpty) }
    let before := (← get).status
    let killed ← runProcess fuel session (runScript fuel { final := true } body)
    if let some n := killed then reportKilled n
    let s ← get
    set { s with substituted := some s.status, status := before }
    receiveSignals
    match s.streams[i]? with
    | some (.collected parts) => return Raw.ofBytes parts.reverse.flatten
    | _ => return ""

/-- Expands redirections. A mistake in a text behind a line concerns only the command that reads it. -/
def expandRedirections (fuel : Nat) (redirections : List Redirection) :
    Run (List (Nat × Redirect × Option String)) := do
  match fuel with
  | 0 => throw .exit
  | fuel + 1 =>
    redirections.mapM fun (descriptor, kind, word) => do
      match kind with
      | .document number =>
        let body := ((← get).documents.lookup number).getD []
        return (descriptor, kind, ← ifNoMistake (expandText (substitute fuel) .text body))
      | .copyIn | .copyOut =>
        let target ← expandText (substitute fuel) .text word
        if target != "-" && !(target.length = 1 && target.toList.all Char.isDigit) then
          fail "Syntax error: Bad fd number"
        return (descriptor, kind, some target)
      | kind => return (descriptor, kind, some (← expandText (substitute fuel) .text word))

/-- Runs a program with its arguments in the process that there is; `name` is what it was called, and `inPlace` whether
it was to take the place of the shell. A file that is not known how to run is read as a script of the shell. -/
def runProgram (fuel : Nat) (inPlace : Bool) (name : String) (args : List String) : Run Unit := do
  match fuel with
  | 0 => throw .exit
  | fuel + 1 =>
    let s ← get
    let searchPath := (s.valueOf? "PATH").getD ""
    let bare := !name.toList.contains '/'
    match Launch.lookUp s.tree s.here (Raw.toText searchPath) (Raw.toText name) args with
    | .ok launch => runNative fuel launch
    | .error .noExecutable =>
      let path := if bare then (programPath? s name).getD name else name
      runShell fuel path (path :: args)
    | .error .permission =>
      complain (name ++ ": Permission denied")
      setStatus (if bare && !inPlace then 127 else 126)
    | .error .tooManyLinks =>
      complain (name ++ ": Too many levels of symbolic links")
      setStatus 127
    | .error _ =>
      complain (name ++ ": not found")
      setStatus 127

def runNative (fuel : Nat) (launch : Launch) : Run Unit := do
  match fuel with
  | 0 => throw .exit
  | fuel + 1 =>
    modify fun s => { s with toSession := s.toSession.ofProgram launch.path }
    match launch.name with
    | "sh" => runShell fuel launch.path launch.args
    | "env" => runInEnvironment fuel launch.args
    | "xargs" => runOnInput fuel launch.args
    | name =>
      match Tools.actions.lookup name with
      | some action => setStatus (← action launch.args)
      | none => setStatus 0

def runFrom (fuel : Nat) (caller program : String) (args : List String) : Run Unit := do
  match fuel with
  | 0 => throw .exit
  | fuel + 1 =>
    let s ← get
    let searchPath := (s.valueOf? "PATH").getD defaultSearchPath
    match Launch.search s.tree s.here (Raw.toText searchPath) (Raw.toText program) args with
    | .ok launch => runNative fuel launch
    | .error e =>
      let missing := e == .noEntry || e == .notDirectory
      let shown := if caller = "env" then "'" ++ program ++ "'" else program
      Action.note (caller ++ ": " ++ shown ++ ": "
        ++ (if missing then "No such file or directory" else Action.errorText e))
      setStatus (if missing then 127 else 126)

def runInEnvironment (fuel : Nat) (args : List String) : Run Unit := do
  match fuel with
  | 0 => throw .exit
  | fuel + 1 =>
    match args with
    | "-i" :: rest | "-" :: rest =>
      modify fun s => { s with bindings := [] }
      runInEnvironment fuel rest
    | "-u" :: name :: rest =>
      modify fun s => { s with toSession := s.toSession.restoreVariable name none }
      runInEnvironment fuel rest
    | [] =>
      let shown := (← get).environment.map fun (name, value) => name ++ "=" ++ value ++ "\n"
      write 1 (String.join shown)
      setStatus 0
    | first :: rest =>
      match splitFirst '=' first with
      | (name, some value) =>
        modify fun s => { s with toSession := s.toSession.updateVariable name fun _ => ⟨some value, true, false⟩ }
        runInEnvironment fuel rest
      | _ => runFrom fuel "env" first rest

def runOnInput (fuel : Nat) (args : List String) : Run Unit := do
  match fuel with
  | 0 => throw .exit
  | fuel + 1 =>
    let (limit, template, args) := Tools.batches args
    let words := Tools.inputWords template.isSome (Raw.ofBytes (← readAll 0))
    let command := if args.isEmpty then ["echo"] else args
    let groups : List (List String) := match template, limit with
      | some mark, _ => words.map fun w => command.map (Tool.replaceAll mark w)
      | none, some n => if words.isEmpty then [command] else (Tools.chunks n words).map (command ++ ·)
      | none, none => [command ++ words]
    setStatus 0
    groups.forM fun group => do
      let before := (← get).status
      match group with
      | program :: rest =>
        let _ ← runProcess fuel Session.forked (runFrom fuel "xargs" program rest)
        let status := (← get).status
        setStatus (if status = 0 then before else if status = 127 || status = 126 then status else 123)
      | [] => return ()

/-- Runs a shell with the arguments of its command line: a command, a file, or the standard input. -/
def runShell (fuel : Nat) (name : String) (args : List String) : Run Unit := do
  match fuel with
  | 0 => throw .exit
  | fuel + 1 =>
    modify fun s =>
      { s with toSession := { (s.toSession.ofProgram name).withDefaults defaultSearchPath with line := 0 } }
    concluding fuel do
      let (given, rest) := Tools.shellOptions args
      let isCommand := given.any fun o => o.startsWith "-" && o.toList.contains 'c'
      let fromInput := given.any fun o => o.startsWith "-" && o.toList.contains 's'
      let own (o : String) : String := String.ofList (o.toList.filter fun c => c != 'c' && c != 's')
      let _ ← Action.setOptions (given.length + 1) ((given.map own).filter (· != "-"))
      let start (zero : String) (arguments : List String) (text : String) : Run Unit := do
        modify fun s => { s with name := zero, arguments, line := 1 }
        runText fuel {} text
      if isCommand then
        match rest with
        | [] => fail "-c requires an argument"
        | text :: rest => start (rest.headD name) rest.tail text
      else
        match rest, fromInput with
        | path :: rest, false =>
          let s ← get
          match s.tree.read s.here (Raw.toText path) with
          | .ok content => start path rest (Raw.ofBytes content)
          | .error _ => fail ("cannot open " ++ path ++ ": No such file")
        | rest, _ => start name rest (Raw.ofBytes (← readAll 0))

def call (fuel : Nat) (manner : Manner) (c : Call) : Run Unit := do
  match fuel with
  | 0 => throw .exit
  | fuel + 1 =>
    let s ← get
    let body := if c.isFunction s then s.functions.lookup c.name else none
    match body with
    | some body =>
      modify fun s => { s with arguments := c.args, loops := 0, optionPlace := (1, none) }
      keeping (fun _ t =>
          { t with arguments := s.arguments, loops := s.loops, optionPlace := s.optionPlace }) fun t =>
        match runCommand fuel manner.more body t with
        | (.error .returned, t) => (.ok (), t)
        | result => result
    | none =>
      if c.name = "eval" then
        onBehalf c.name (runText fuel manner.more (String.intercalate " " c.args))
      else if c.name = "." then onBehalf c.name (source fuel c.args)
      else if c.name = "exec" then
        match c.args with
        | [] => setStatus 0
        | program :: rest => do
          let found := (programPath? s program).isSome
          if found then set { s with traps := s.traps.filter (·.2.isEmpty) }
          onBehalf c.name (runProgram fuel true program rest)
          modify fun t => { s with toWorld := t.toWorld, status := t.status, traps := if found then [] else s.traps }
          throw .exit
      else if c.name = "wait" then do
        setStatus (← onBehalf c.name (wait fuel c.args))
        attend fuel
      else
        match builtin? c.name with
        | some action => do setStatus (← onBehalf c.name (action c.args))
        | none => do
          if c.name = "sleep" then runJobs fuel
          remember c.name
          if manner.final && !s.hasTraps then
            runProgram fuel false c.name c.args
            modify fun t => { s with toWorld := t.toWorld, status := t.status }
            throw .exit
          else
            let killed ← runProcess fuel Session.forked (runProgram fuel false c.name c.args)
            if let some n := killed then reportKilled n

def source (fuel : Nat) (args : List String) : Run Unit := do
  match fuel with
  | 0 => throw .exit
  | fuel + 1 =>
    let s ← get
    match args with
    | [] => setStatus 0
    | path :: _ =>
      let found := if path.toList.contains '/' then some path
        else (searchPlaces ((s.valueOf? "PATH").getD "") path).find? fun p => s.tree.isFile s.here (Raw.toText p)
      match found with
      | none => fail (path ++ ": not found")
      | some place =>
        match s.tree.read s.here (Raw.toText place) with
        | .error _ => fail ("cannot open " ++ place ++ ": No such file")
        | .ok content =>
          onBehalf place fun t =>
            match runText fuel {} (Raw.ofBytes content) t with
            | (.error .returned, t) => (.ok (), t)
            | result => result

def wait (fuel : Nat) (args : List String) : Run Nat := do
  match fuel with
  | 0 => throw .exit
  | fuel + 1 =>
    let pending := (← get).jobs.filter fun j => j.status.isSome
    let (_, args) ← Action.options "" "" args
    runJobs fuel
    match args with
    | [] =>
      modify fun s => { s with jobs := [] }
      return 0
    | args =>
      args.foldlM (fun _ a => do
        let process ← if a.startsWith "%" then pure (← Action.job a).process else Action.number a
        let s ← get
        match s.jobs.find? (·.process == process) with
        | some job =>
          let status := job.status.getD 0
          if (pending.any (·.process == process)) && 128 < status then
            let report := Signal.reportOf (status - 128)
            if !report.isEmpty then Action.note report
          modify fun t => { t with jobs := t.jobs.filter (·.process != process) }
          return status
        | none => return 127) 127

def runSimple (fuel : Nat) (manner : Manner) (assignments : List (String × Word)) (words : List Word)
    (redirections : List Redirection) : Run Unit := do
  match fuel with
  | 0 => throw .exit
  | fuel + 1 =>
    modify fun s => { s with substituted := none }
    let fields ← expandCommand (substitute fuel) words
    let called := Call.ofFields false fields
    let special := called.any (·.special)
    let s ← get
    let traced := s.descriptors.lookup 2
    let perform : Run Unit := do
      if !(← redirectAll (← expandRedirections fuel redirections)) then
        setStatus 2
        if special then throw .failed
      else
        let values ← assignments.mapM fun (name, word) => do
          let value ← expandText (substitute fuel) .value word
          if called.isSome && !special then
            if !((← get).bindings.lookup name).any (·.readOnly) then keepLocal name
          setVariable name value
          if called.isSome && !special then
            modify fun s => { s with toSession := s.toSession.updateVariable name ({ · with exported := true }) }
          return name ++ "=" ++ value
        let s ← get
        if s.hasOption 'x' then
          let lead ← traceMark fuel
          let text := String.intercalate " " (values ++ fields)
          if let some i := traced then
            let _ ← writeTo i (lead ++ text ++ "\n")
        match called with
        | none => setStatus ((← get).substituted.getD 0)
        | some c =>
          if c.mayFail (← get) then forgiving (call fuel manner c) else call fuel manner c
    let isFunction := called.any (·.isFunction s)
    let enclosed := if (!assignments.isEmpty && called.isSome && !special) || isFunction then withLocals perform else perform
    let lasting := called.any fun c => c.name == "exec" && c.args.isEmpty
    if redirections.isEmpty then enclosed else if lasting then changingDescriptors enclosed else keepingDescriptors enclosed

def traceMark (fuel : Nat) : Run String := do
  match fuel with
  | 0 => throw .exit
  | fuel + 1 =>
    let s ← get
    let mark := (s.valueOf? "PS4").getD "+ "
    match readText mark with
    | some word =>
      set { s with options := s.options.filter (· != 'x') }
      let text ← expandText (substitute fuel) .text word
      modify fun t => { t with options := s.options, substituted := s.substituted, status := s.status }
      return text
    | none => return mark

def runCommand (fuel : Nat) (manner : Manner) (command : Command) : Run Unit := do
  match fuel with
  | 0 => throw .exit
  | fuel + 1 =>
    if (← get).hasOption 'n' then return ()
    let check : Run Unit := do
      attend fuel
      let s ← get
      if s.hasOption 'e' && !manner.tested && s.status != 0 then throw .exit
    let goTo (line : Nat) : Run Unit := modify fun s => { s with line }
    match command with
    | .simple line assignments words redirections =>
      goTo line
      returningSafely manner.tested (runSimple fuel manner assignments words redirections)
      check
    | .group body => runScript fuel manner body
    | .subshell line body redirections =>
      goTo line
      let targets ← expandRedirections fuel redirections
      let inner : Run Unit := do
        if ← redirectAll targets then runScript fuel { manner with final := true } body
        else
          setStatus 2
          throw .failed
      if manner.final && !(← get).hasTraps then
        inner
        throw .exit
      else
        let killed ← runProcess fuel Session.forked inner
        if let some n := killed then reportKilled n
        check
    | .conditional condition body otherwise =>
      runScript fuel Manner.condition condition
      if (← get).status == 0 then runScript fuel manner body
      else if otherwise.isEmpty then setStatus 0
      else runScript fuel manner otherwise
    | .loop until' condition body =>
      inLoop (runLoop fuel manner.more until' condition body 0)
    | .each line name words body =>
      goTo line
      let values ← expandAll (substitute fuel) words
      if values.isEmpty then setStatus 0
      inLoop (runEach fuel manner.more name values body)
    | .choice line subject arms =>
      goTo line
      let text ← expandText (substitute fuel) .text subject
      runArms fuel manner text arms
    | .function line name body =>
      goTo line
      modify fun s => { s with functions := (name, body) :: s.functions.filter (·.1 != name) }
      setStatus 0
    | .pipeline commands =>
      let killed ← runPiped fuel manner.tested none commands
      let status := (← get).status
      killed.forM fun n => reportKilled n
      setStatus status
      check
    | .negated command =>
      runCommand fuel Manner.condition command
      setStatus (if (← get).status == 0 then 1 else 0)
    | .joined junction left right =>
      runCommand fuel Manner.condition left
      let succeeded := (← get).status == 0
      if succeeded == (junction == .both) then runCommand fuel manner right
    | .background command =>
      let s ← get
      let job : Job := ⟨s.nextProcess, command, s.toSession.forked s.nextProcess, none⟩
      set { s with nextProcess := s.nextProcess + 1, jobs := s.jobs ++ [job], latestJob := some job.process }
      setStatus 0
    | .redirected line command redirections =>
      goTo line
      let targets ← expandRedirections fuel redirections
      let succeeded ← keepingDescriptors do
        let succeeded ← redirectAll targets
        if succeeded then runCommand fuel manner.more command else setStatus 2
        return succeeded
      if !succeeded then check
where
  inLoop (action : Run Unit) : Run Unit := do
    let s ← get
    set { s with loops := s.loops + 1 }
    keeping (fun _ t => { t with loops := s.loops }) action

def runScript (fuel : Nat) (manner : Manner) (body : Script) : Run Unit := do
  match fuel with
  | 0 => throw .exit
  | fuel + 1 =>
    match body with
    | [] => return ()
    | [command] => runCommand fuel manner command
    | command :: rest => do
      runCommand fuel manner.more command
      runScript fuel manner rest

/-- Runs the body of a loop once. The answer is whether the loop goes on. -/
def runBody (fuel : Nat) (manner : Manner) (body : Script) : Run Bool := fun s =>
  match fuel with
  | 0 => (.error .exit, s)
  | fuel + 1 =>
    match runScript fuel manner body s with
    | (.ok (), t) => (.ok true, t)
    | (.error (.leave n), t) => if n ≤ 1 then (.ok false, t) else (.error (.leave (n - 1)), t)
    | (.error (.again n), t) => if n ≤ 1 then (.ok true, t) else (.error (.again (n - 1)), t)
    | (.error e, t) => (.error e, t)

def runLoop (fuel : Nat) (manner : Manner) (until' : Bool) (condition body : Script) (status : Nat) : Run Unit := do
  match fuel with
  | 0 => throw .exit
  | fuel + 1 =>
    if ← runBody fuel Manner.condition condition then
      if ((← get).status == 0) != until' then
        if ← runBody fuel manner body then runLoop fuel manner until' condition body (← get).status
        else return ()
      else setStatus status
    else return ()

def runEach (fuel : Nat) (manner : Manner) (name : String) (values : List String) (body : Script) : Run Unit := do
  match fuel with
  | 0 => throw .exit
  | fuel + 1 =>
    match values with
    | [] => return ()
    | value :: rest => do
      setVariable name value
      if ← runBody fuel manner body then runEach fuel manner name rest body else return ()

def runArms (fuel : Nat) (manner : Manner) (text : String) (arms : List (List Word × Script)) : Run Unit := do
  match fuel with
  | 0 => throw .exit
  | fuel + 1 =>
    match arms with
    | [] => setStatus 0
    | (patterns, body) :: rest => do
      if ← fitsAny (substitute fuel) text patterns then
        if body.isEmpty then setStatus 0 else runScript fuel manner body
      else runArms fuel manner text rest

/-- Runs the commands of a pipeline. What one prints is the input of the next, and all of them begin with the same
status. The answer has the signals that ended some of them. -/
def runPiped (fuel : Nat) (tested : Bool) (input : Option Nat) (commands : List Command) : Run (List Nat) := do
  match fuel with
  | 0 => throw .exit
  | fuel + 1 =>
    let leading (descriptor : Nat) (stream : Option Nat) (s : Session) : Session :=
      match stream with
      | some i => { s with descriptors := (descriptor, i) :: s.descriptors.filter (·.1 != descriptor) }
      | none => s
    match commands with
    | [] => return []
    | command :: rest => do
      if let .simple _ _ ([.literal _ name] :: _) _ := command then
        if isName name && !isBuiltin name && !((← get).functions.any (·.1 == name)) then remember name
      let before := (← get).status
      let output ← if rest.isEmpty then pure none else do pure (some (← addStream (.collected [])))
      let session (s : Session) (process : Nat) : Session := leading 1 output (leading 0 input (s.forked process))
      let killed ← runProcess fuel session (runCommand fuel ⟨tested, true⟩ command)
      let next ← match output with
        | none => pure none
        | some i => do
          let bytes := match (← get).streams[i]? with
            | some (.collected parts) => parts.reverse.flatten
            | _ => []
          pure (some (← addStream (.given bytes)))
      unless rest.isEmpty do setStatus before
      return killed.toList ++ (← runPiped fuel tested next rest)

end

end Lexicon.Shell
