import Lexicon.Shell.Tool.Basic

namespace Lexicon.Shell.Tool

open Run

def quotedPath (path : String) : String := "'" ++ path ++ "'"

/-- Does something with every path; the answer tells whether all went well. -/
def eachPath (name : String) (paths : List String) (f : String → Run Bool) : Run Nat := do
  if paths.isEmpty then misused name "missing operand"
  else
    paths.foldlM (fun status path => return if ← f path then status else 1) 0

def refuse (name text : String) : Run Bool := do
  warn name text
  return false

def splitPath (path : String) : String × String :=
  let cs := path.toList.reverse.dropWhile (· == '/')
  let last := cs.takeWhile (· != '/')
  let front := (cs.drop last.length).dropWhile (· == '/')
  (String.ofList front.reverse, String.ofList last.reverse)

def within (directory name : String) : String := if directory.endsWith "/" then directory ++ name else directory ++ "/" ++ name

def makingDirectories : Action := fun args =>
  let usage : Usage := { plain := "pv", valued := "m", long := [("parents", 'p'), ("mode", 'm')] }
  usage.handle "mkdir" args fun a => eachPath "mkdir" a.operands fun path => do
    let fronts := if a.has 'p' then
        let cs := path.toList
        ((List.range cs.length).filter fun n => 0 < n && cs[n]? == some '/').map (String.ofList <| cs.take ·)
      else []
    for front in fronts do
      modify fun s => { s with tree := (s.tree.makeDirectory s.here (Raw.toText front)).toOption.getD s.tree }
    let s ← get
    match s.tree.makeDirectory s.here (Raw.toText path) with
    | .ok tree =>
      set { s with tree }
      return true
    | .error e =>
      if a.has 'p' && s.tree.isDirectory s.here (Raw.toText path) then return true
      else refuse "mkdir" ("cannot create directory " ++ quotedPath path ++ ": " ++ Action.errorText e)

def removeBelow (l : Location) : Run Unit := modify fun s =>
  let tree := (s.tree.below l).foldl (fun (t : FileTree) n => t.remove (l ++ n.1)) s.tree
  { s with tree := tree.remove l }

def removing : Action := fun args =>
  let usage : Usage := { plain := "rRfidv", long := [("recursive", 'r'), ("force", 'f')] }
  usage.handle "rm" args fun a => do
    if a.operands.isEmpty && a.has 'f' then return 0
    eachPath "rm" a.operands fun path => do
      let s ← get
      match s.tree.find s.here (Raw.toText path) with
      | .ok (l, .file ..) =>
        set { s with tree := s.tree.remove l }
        return true
      | .ok (l, .directory) =>
        if a.has 'r' || a.has 'R' || (a.has 'd' && (s.tree.below l).isEmpty) then
          removeBelow l
          return true
        else refuse "rm" ("cannot remove " ++ quotedPath path ++ ": Is a directory")
      | .error e =>
        if a.has 'f' && (e == .noEntry || e == .notDirectory) then return true
        else refuse "rm" ("cannot remove " ++ quotedPath path ++ ": " ++ Action.errorText e)

def removingDirectories : Action := fun args =>
  let usage : Usage := { plain := "pv" }
  usage.handle "rmdir" args fun a => eachPath "rmdir" a.operands fun path => do
    let s ← get
    let failed (text : String) : Run Bool := refuse "rmdir" ("failed to remove " ++ quotedPath path ++ ": " ++ text)
    match s.tree.find s.here (Raw.toText path) with
    | .ok (l, .directory) =>
      if (s.tree.below l).isEmpty then
        set { s with tree := s.tree.remove l }
        return true
      else failed "Directory not empty"
    | .ok _ => failed "Not a directory"
    | .error e => failed (Action.errorText e)

def touching : Action := fun args =>
  let usage : Usage := { plain := "acm", valued := "dtr" }
  usage.handle "touch" args fun a => eachPath "touch" a.operands fun path => do
    let s ← get
    match s.tree.walk s.here (Raw.toText path) with
    | .ok (.name parent last false) =>
      if (s.tree.node? (parent ++ [last])).isNone && !a.has 'c' then
        set { s with tree := s.tree.put (parent ++ [last]) (.file [] false) }
      return true
    | .ok _ => return true
    | .error e => refuse "touch" ("cannot touch " ++ quotedPath path ++ ": " ++ Action.errorText e)

def permitting : Action := fun args => do
  match args.filter (· != "-R") with
  | [] => misused "chmod" "missing operand"
  | [mode] => misused "chmod" ("missing operand after " ++ quotedPath mode)
  | mode :: paths =>
    let digits := mode.toList.all isOctal
    let takes := mode.toList.contains '-'
    let given := if digits then mode.toList.any fun c => (c.toNat - '0'.toNat) % 2 = 1
      else !takes && mode.toList.contains 'x'
    let concerns := digits || mode.toList.contains 'x' || mode.toList.contains '='
    eachPath "chmod" paths fun path => do
      let s ← get
      match s.tree.find s.here (Raw.toText path) with
      | .ok (l, .file content old) =>
        set { s with tree := s.tree.put l (.file content (if concerns then given else old)) }
        return true
      | .ok _ => return true
      | .error e => refuse "chmod" ("cannot access " ++ quotedPath path ++ ": " ++ Action.errorText e)

def namesBelow (s : State) (l : Location) : List String :=
  let names := (s.tree.below l).filterMap fun (path, _) =>
    match path with
    | [name] => some (Raw.ofText name)
    | _ => none
  names.mergeSort fun a b => decide (a ≤ b)

def listingFiles : Action := fun args =>
  let usage : Usage := { plain := "1aAdlRrFphCtS", misuse := 2, long := [("all", 'a'), ("directory", 'd'), ("recursive", 'R')] }
  usage.handle "ls" args fun a => do
    let s ← get
    let paths := (if a.operands.isEmpty then ["."] else a.operands).mergeSort fun x y => decide (x ≤ y)
    let find (path : String) := s.tree.find s.here (Raw.toText path)
    let suffix (path name : String) : String :=
      if a.has 'F' || a.has 'p' then
        match find path with
        | .ok (_, .directory) => name ++ "/"
        | .ok (_, .file _ executable) => if a.has 'F' && executable then name ++ "*" else name
        | .error _ => name
      else name
    let ordered (names : List String) : List String := if a.has 'r' then names.reverse else names
    let mut status := 0
    for path in paths do
      if let .error e := find path then
        warn "ls" ("cannot access " ++ quotedPath path ++ ": " ++ Action.errorText e)
        status := 2
    let isDirectory (path : String) : Bool := !a.has 'd' && (match find path with
      | .ok (_, .directory) => true
      | _ => false)
    let files := paths.filter fun p => (find p).isOk && !isDirectory p
    write 1 (unlines ((ordered files).map fun p => suffix p p))
    let directories := paths.filter isDirectory
    let rec names (fuel : Nat) (path : String) : List (String × List String) :=
      match fuel, find path with
      | fuel + 1, .ok (l, .directory) =>
        let all := (namesBelow s l).filter fun n => a.has 'a' || a.has 'A' || !n.startsWith "."
        let shown := ordered ((if a.has 'a' then [".", ".."] else []) ++ all)
        let inner := if a.has 'R' then (ordered all).flatMap fun n => names fuel (within path n) else []
        (path, shown.map fun n => suffix (within path n) n) :: inner
      | _, _ => []
    let groups := (ordered directories).flatMap (names 64)
    let headed := 1 < paths.length || a.has 'R'
    let text (g : String × List String) : String := (if headed then g.1 ++ ":\n" else "") ++ unlines g.2
    let joined := String.intercalate "\n" (groups.map text)
    write 1 ((if !files.isEmpty && !groups.isEmpty then "\n" else "") ++ joined)
    return status

def plantCopy (origin target : Location) : Run Unit := modify fun s =>
  let copies := (s.tree.below origin).map fun (path, n) => (target ++ path, n)
  let root := ((s.tree.node? origin).map fun n => (target, n)).toList
  { s with tree := (root ++ copies.reverse).foldl (fun (t : FileTree) (l, n) => t.put l n) s.tree }

def bringing (name : String) (keeps : Bool) : Action := fun args =>
  let usage : Usage := { plain := "rRfiapnvu", valued := "t", long := [("recursive", 'r'), ("force", 'f')] }
  usage.handle name args fun a => do
    let (sources, target) := match a.value? 't' with
      | some t => (a.operands, some t)
      | none => (a.operands.dropLast, a.operands.getLast?)
    match sources, target with
    | _, none => misused name "missing file operand"
    | [], some t => misused name ("missing destination file operand after " ++ quotedPath t)
    | sources, some target =>
      let start ← get
      let intoDirectory := start.tree.isDirectory start.here (Raw.toText target)
      if 1 < sources.length && !intoDirectory then
        warn name ("target " ++ quotedPath target ++ ": No such file or directory")
        return 1
      eachPath name sources fun path => do
        let s ← get
        match s.tree.find s.here (Raw.toText path) with
        | .error e => refuse name ("cannot stat " ++ quotedPath path ++ ": " ++ Action.errorText e)
        | .ok (origin, node) =>
          let recursive := !keeps || a.has 'r' || a.has 'R' || a.has 'a'
          if node == .directory && !recursive then
            refuse name ("-r not specified; omitting directory " ++ quotedPath path)
          else
            let goal := if intoDirectory then within target (splitPath path).2 else target
            match s.tree.walk s.here (Raw.toText goal) with
            | .ok (.name parent last _) =>
              let l := parent ++ [last]
              if l == origin then refuse name (quotedPath path ++ " and " ++ quotedPath goal ++ " are the same file")
              else
                let node : Node := match node, s.tree.node? l with
                  | Node.file content _, some (Node.file _ executable) =>
                    if keeps then Node.file content executable else node
                  | _, _ => node
                plantCopy origin l
                if let Node.file .. := node then modify fun s => { s with tree := s.tree.put l node }
                if !keeps then removeBelow origin
                return true
            | .ok (.directory _) => refuse name ("cannot overwrite directory " ++ quotedPath goal)
            | .error e =>
              if keeps then refuse name ("cannot create regular file " ++ quotedPath goal ++ ": " ++ Action.errorText e)
              else refuse name ("cannot move " ++ quotedPath path ++ " to " ++ quotedPath goal ++ ": " ++ Action.errorText e)

def finding : Action := fun args => do
  let isTest (a : String) : Bool := a.startsWith "-" || a == "!" || a == "("
  let places := args.takeWhile (!isTest ·)
  let tests := args.drop places.length
  let places := if places.isEmpty then ["."] else places
  let option (name : String) : Option String := (tests.dropWhile (· != name))[1]?
  let s ← get
  let mut status := 0
  for place in places do
    match s.tree.find s.here (Raw.toText place) with
    | .error e =>
      warn "find" (quotedPath place ++ ": " ++ Action.errorText e)
      status := 1
    | .ok (l, root) =>
      let nodes := ([], root) :: (s.tree.below l)
      let sorted := nodes.mergeSort fun a b => !b.1.lex a.1 fun x y => decide (x < y)
      for (path, node) in sorted do
        let shown := path.foldl (fun p n => within p (Raw.ofText n)) place
        let last := (path.getLast?.map Raw.ofText).getD (splitPath place).2
        let named := (option "-name").all fun p => Glob.accepts (p.toList.map (·, false)) last
        let typed := (option "-type").all fun k => (k == "d") == (node == .directory)
        let deep := ((option "-maxdepth").bind String.toNat?).all (path.length ≤ ·)
        let far := ((option "-mindepth").bind String.toNat?).all (· ≤ path.length)
        if named && typed && deep && far then write 1 (shown ++ "\n")
  return status

def fileTools : List (String × Action) := [
  ("mkdir", makingDirectories), ("rm", removing), ("rmdir", removingDirectories), ("touch", touching),
  ("chmod", permitting), ("ls", listingFiles), ("cp", bringing "cp" true), ("mv", bringing "mv" false),
  ("find", finding)]

end Lexicon.Shell.Tool
