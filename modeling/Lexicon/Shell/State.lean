import Lexicon.Shell.Command
import Lexicon.Shell.Condition
import Lexicon.Shell.Field
import Lexicon.Shell.Signal

namespace Lexicon.Shell

open Text (Bytes utf8)

inductive Stream where
  /-- Collects what is written; the latest part comes first. -/
  | collected (parts : List Bytes)
  | given (rest : Bytes)
  | file (l : Location) (position : Nat) (appends : Bool)
  | void
  | full

/-- What all processes share. Signals wait until the process that they are sent to can notice them. -/
structure World where
  tree : FileTree
  streams : Array Stream
  signals : List (Nat × Nat) := []
  nextProcess : Nat := 4001

/-- A variable. It may be marked without having a value. -/
structure Variable where
  value : Option String := none
  exported : Bool := false
  readOnly : Bool := false

structure Session where
  here : Location
  descriptors : List (Nat × Nat)
  bindings : List (String × Variable)
  functions : List (String × Command) := []
  aliases : List (String × String) := []
  arguments : List String := []
  name : String := "sh"
  status : Nat := 0
  substituted : Option Nat := none
  line : Nat := 1
  charge : Option String := none
  options : List Char := []
  /-- What is done about signals; nothing, if the text is empty. -/
  traps : List (Nat × String) := []
  caught : List Nat := []
  statusAtTrap : Option Nat := none
  process : Nat := 4000
  parent : Nat := 1
  shellProcess : Nat := 4000
  latestJob : Option Nat := none
  loops : Nat := 0
  locals : Option (List (String × Option Variable)) := none
  mask : Nat := 0o022
  remembered : List String := []
  optionPlace : Nat × Option Nat := (1, none)
  documents : List (Nat × Word) := []
  nextDocument : Nat := 0

/-- A command that has been put into the background. It runs when it is waited for; then it has a status. -/
structure Job where
  process : Nat
  command : Command
  session : Session
  status : Option Nat := none

structure State extends Session, World where
  jobs : List Job := []

inductive Interrupt where
  | exit
  | leave (levels : Nat)
  | again (levels : Nat)
  | returned
  | failed
  | killed (signal : Nat)
  deriving DecidableEq

abbrev Run (α : Type) := ExceptT Interrupt (StateM State) α

namespace Stream

def rest (tree : FileTree) : Stream → Bytes
  | given rest => rest
  | file l position _ =>
    match tree.node? l with
    | some (.file content _) => content.drop position
    | _ => []
  | _ => []

def skip (n : Nat) : Stream → Stream
  | given rest => given (rest.drop n)
  | file l position appends => file l (position + n) appends
  | s => s

end Stream

def Session.valueOf? (s : Session) (name : String) : Option String := (s.bindings.lookup name).bind (·.value)

def Session.hasOption (s : Session) (letter : Char) : Bool := s.options.contains letter

def Session.hasTraps (s : Session) : Bool := s.traps.any fun t => !t.2.isEmpty

def Session.updateVariable (s : Session) (name : String) (f : Variable → Variable) : Session :=
  { s with bindings := (name, f ((s.bindings.lookup name).getD {})) :: s.bindings.filter (·.1 != name) }

def Session.restoreVariable (s : Session) (name : String) (old : Option Variable) : Session :=
  let others := s.bindings.filter (·.1 != name)
  { s with bindings := match old with
    | some v => (name, v) :: others
    | none => others }

def Session.separators (s : Session) : List Char := ((s.valueOf? "IFS").getD " \t\n").toList

def Session.joint (s : Session) : String := match s.valueOf? "IFS" with
  | some text => String.ofList (text.toList.take 1)
  | none => " "

/-- The one of so many shelves on which a name is kept. What is kept is shown in the order of the shelves. -/
def shelf (count : Nat) (name : String) : Nat :=
  let codes := (Raw.toBytes name).map (·.toNat)
  (codes.foldl (· + ·) (16 * codes.headD 0)) % 32768 % count

def Session.optionLetters (s : Session) : String :=
  String.ofList ("pubaCEVvxsnmiIfe".toList.filter s.options.contains)

/-- The value of a parameter, if it is set. All arguments together are joined; they count as set even if there are
none. -/
def Session.parameter? (s : Session) (name : String) : Option String :=
  match name with
  | "@" | "*" => some (String.intercalate s.joint s.arguments)
  | "#" => some (toString s.arguments.length)
  | "?" => some (toString s.status)
  | "$" => some (toString s.shellProcess)
  | "-" => some s.optionLetters
  | "!" => s.latestJob.map toString
  | "0" => some s.name
  | _ =>
    match name.toNat? with
    | some n => s.arguments[n - 1]?
    | none => s.valueOf? name

def Session.environment (s : Session) : List (String × String) :=
  s.bindings.reverse.filterMap fun (name, v) => if v.exported then v.value.map (name, ·) else none

namespace Run

def stream? (descriptor : Nat) : Run (Option Stream) := fun s =>
  (.ok ((s.descriptors.lookup descriptor).bind (s.streams[·]?)), s)

/-- Writes to a stream. The answer is whether that is possible. -/
def writeTo (i : Nat) (text : String) : Run Bool := do
  let s ← get
  match s.streams[i]? with
  | some (.collected parts) =>
    set { s with streams := s.streams.set! i (.collected (Raw.toBytes text :: parts)) }
    return true
  | some (.file l position appends) =>
    match s.tree.node? l with
    | some (.file content executable) =>
      let bytes := Raw.toBytes text
      let position := if appends then content.length else position
      let gap := List.replicate (position - content.length) 0
      let content := content.take position ++ gap ++ bytes ++ content.drop (position + bytes.length)
      set { s with
        tree := s.tree.put l (.file content executable)
        streams := s.streams.set! i (.file l (position + bytes.length) appends) }
      return true
    | _ => return true
  | some .void => return true
  | _ => return false

/-- Writes where a descriptor leads to. The answer is whether that is possible. -/
def tryWrite (descriptor : Nat) (text : String) : Run Bool := do
  if text.isEmpty then return true
  match (← get).descriptors.lookup descriptor with
  | some i => writeTo i text
  | none => return false

def write (descriptor : Nat) (text : String) : Run Unit := do
  let _ ← tryWrite descriptor text

def readAll (descriptor : Nat) : Run Bytes := do
  let s ← get
  match s.descriptors.lookup descriptor with
  | none => return []
  | some i =>
    match s.streams[i]? with
    | some stream =>
      let bytes := stream.rest s.tree
      set { s with streams := s.streams.set! i (stream.skip bytes.length) }
      return bytes
    | none => return []

def readLine (descriptor : Nat) : Run Bytes := do
  let s ← get
  match s.descriptors.lookup descriptor with
  | none => return []
  | some i =>
    match s.streams[i]? with
    | some stream =>
      let bytes := stream.rest s.tree
      let line := bytes.takeWhile (· != 10)
      let line := bytes.take (line.length + 1)
      set { s with streams := s.streams.set! i (stream.skip line.length) }
      return line
    | none => return []

def addStream (stream : Stream) : Run Nat := do
  let s ← get
  set { s with streams := s.streams.push stream }
  return s.streams.size

def lead (descriptor : Nat) (stream : Option Nat) : Run Unit := modify fun s =>
  let others := s.descriptors.filter (·.1 != descriptor)
  { s with descriptors := match stream with
    | some i => (descriptor, i) :: others
    | none => others }

def setStatus (n : Nat) : Run Unit := modify fun s => { s with status := n }

def complain (text : String) : Run Unit := do
  let s ← get
  let charge := (s.charge.map (· ++ ": ")).getD ""
  write 2 (s.name ++ ": " ++ toString s.line ++ ": " ++ charge ++ text ++ "\n")

def fail (text : String) : Run α := do
  complain text
  setStatus 2
  throw .failed

def setVariable (name value : String) : Run Unit := do
  let s ← get
  if ((s.bindings.lookup name).any (·.readOnly)) then fail (name ++ ": is read only")
  let session := s.toSession.updateVariable name fun v =>
    { v with value := some value, exported := v.exported || s.hasOption 'a' }
  let place := if name = "OPTIND" then (max 1 ((Numeral.count? value).getD 1), none) else s.optionPlace
  set { s with toSession := { session with optionPlace := place } }

def keepLocal (name : String) : Run Unit := modify fun s =>
  match s.locals with
  | some kept =>
    if kept.any (·.1 == name) then s else { s with locals := some ((name, s.bindings.lookup name) :: kept) }
  | none => s

def keeping (restore : State → State → State) (action : Run α) : Run α := fun s =>
  match action s with
  | (result, t) => (result, restore s t)

def onBehalf (name : String) (action : Run α) : Run α := fun s =>
  match action { s with charge := some name } with
  | (result, t) => (result, { t with charge := s.charge })

def withLocals (action : Run α) : Run α := fun s =>
  match action { s with locals := some [] } with
  | (result, t) =>
    let kept := t.locals.getD []
    let session := kept.foldl (fun (session : Session) (name, old) => session.restoreVariable name old) t.toSession
    (result, { t with toSession := { session with locals := s.locals } })

end Run

end Lexicon.Shell
