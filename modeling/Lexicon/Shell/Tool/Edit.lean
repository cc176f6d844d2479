import Lexicon.Shell.Tool.Basic
import Lexicon.Shell.Tool.Expression

namespace Lexicon.Shell.Tool

open Run

namespace Edit

inductive Address where
  | line (n : Nat)
  | step (first step : Nat)
  | last
  | matching (e : Option Expression)
  | ahead (n : Nat)

inductive Replacement where
  | text (s : String)
  | group (n : Nat)
  /-- Changes the letters of what follows: to capitals, to small ones, or no more. -/
  | casing (mode : Char)

inductive Operation where
  | begin (skipTo : Nat)
  | finish
  | label (name : String)
  | substitute (e : Option Expression) (replacement : List Replacement) (nth : Nat) (all prints : Bool)
  | translate (pairs : List (Char × Char))
  | append (text : String)
  | insert (text : String)
  | change (text : String)
  | branch (kind : Char) (name : String)
  | quit (prints : Bool) (status : Nat)
  | readFile (path : String)
  | writeFile (path : String)
  | plain (c : Char)

structure Instruction where
  first : Option Address := none
  last : Option Address := none
  negated : Bool := false
  operation : Operation

/-- Text up to a mark that no backslash protects, and what stands behind the mark. In expressions, brackets protect
it, too. -/
def upTo (mark : Char) (inExpression : Bool) : (fuel : Nat) → (bracket : Bool) → List Char → Option (List Char × List Char)
  | 0, _, _ | _, _, [] => none
  | fuel + 1, bracket, c :: rest =>
    let add (taken : List Char) (r : Option (List Char × List Char)) := r.map fun (a, b) => (taken ++ a, b)
    if c == '\\' && !bracket then
      match rest with
      | d :: more =>
        if d == mark then add (if inExpression && ['.', '*', '[', ']', '^', '$'].contains d then [c, d] else [d])
            (upTo mark inExpression fuel bracket more)
        else add [c, d] (upTo mark inExpression fuel bracket more)
      | [] => none
    else if c == mark && !bracket then some ([], rest)
    else if inExpression && c == '[' && !bracket then
      let head := (rest.takeWhile (· == '^')).take 1
      let more := rest.drop head.length
      let head := if more.head? == some ']' then head ++ [']'] else head
      add (c :: head) (upTo mark inExpression fuel true (rest.drop head.length))
    else add [c] (upTo mark inExpression fuel (bracket && c != ']') rest)

def replacementOf (fuel : Nat) (cs : List Char) : List Replacement :=
  match fuel, cs with
  | 0, _ | _, [] => []
  | fuel + 1, '&' :: rest => .group 0 :: replacementOf fuel rest
  | fuel + 1, '\\' :: c :: rest =>
    let next := replacementOf fuel rest
    if c.isDigit then .group (c.toNat - '0'.toNat) :: next
    else if c == 'n' then .text "\n" :: next
    else if c == 't' then .text "\t" :: next
    else if ['U', 'L', 'E', 'u', 'l'].contains c then .casing c :: next
    else .text (String.singleton c) :: next
  | fuel + 1, c :: rest => .text (String.singleton c) :: replacementOf fuel rest

abbrev Fault := String × List Char

abbrev Parse (α : Type) := Except Fault (α × List Char)

def address? (extended : Bool) (cs : List Char) : Parse (Option Address) :=
  match cs with
  | '$' :: rest => .ok (some .last, rest)
  | '/' :: rest | '\\' :: '/' :: rest =>
    match upTo '/' true (rest.length + 1) false rest with
    | none => .error ("unterminated address regex", [])
    | some (text, rest) =>
      let fold := rest.head? == some 'I'
      let rest := if fold then rest.tail else rest
      if text.isEmpty then .ok (some (.matching none), rest)
      else match Expression.ofText extended fold (String.ofList text) with
        | .ok e => .ok (some (.matching (some e)), rest)
        | .error text => .error (text, rest)
  | '+' :: rest =>
    match Numeral.decimal? rest with
    | some (n, rest) => .ok (some (.ahead n), rest)
    | none => .error ("expected number", rest)
  | _ =>
    match Numeral.decimal? cs with
    | none => .ok (none, cs)
    | some (n, '~' :: rest) =>
      match Numeral.decimal? rest with
      | some (k, rest) => .ok (some (.step n k), rest)
      | none => .ok (some (.line n), rest)
    | some (n, rest) => .ok (some (.line n), rest)

def isGap (c : Char) : Bool := c == ' ' || c == '\t'

/-- Text to add, behind its command: on the same line, or on the next ones behind a backslash. -/
def addedText (cs : List Char) : String × List Char :=
  let cs := cs.dropWhile isGap
  let cs := match cs with
    | '\\' :: rest =>
      match rest.dropWhile isGap with
      | '\n' :: more => more
      | _ => rest
    | _ => cs
  go (cs.length + 1) [] cs
where
  go (fuel : Nat) (acc : List Char) (cs : List Char) : String × List Char :=
    match fuel, cs with
    | 0, _ | _, [] => (String.ofList (acc.reverse ++ ['\n']), [])
    | _ + 1, '\n' :: rest => (String.ofList (acc.reverse ++ ['\n']), rest)
    | fuel + 1, '\\' :: c :: rest => go fuel (c :: acc) rest
    | fuel + 1, c :: rest => go fuel (c :: acc) rest

def groupCount (extended : Bool) : List Char → Nat
  | '\\' :: c :: rest => (if c == '(' && !extended then 1 else 0) + groupCount extended rest
  | c :: rest => (if c == '(' && extended then 1 else 0) + groupCount extended rest
  | [] => 0

def operation (extended : Bool) (cs : List Char) : Parse Operation :=
  match cs with
  | [] => .error ("missing command", [])
  | 's' :: mark :: rest =>
    match upTo mark true (rest.length + 1) false rest with
    | none => .error ("unterminated `s' command", [])
    | some (pattern, rest) =>
      match upTo mark false (rest.length + 1) false rest with
      | none => .error ("unterminated `s' command", [])
      | some (replacement, rest) =>
        let flags := rest.takeWhile fun c => c.isDigit || ['g', 'p', 'i', 'I', 'e', 'm', 'M'].contains c
        let rest := rest.drop flags.length
        let fold := flags.contains 'i' || flags.contains 'I'
        let nth := ((String.ofList (flags.filter Char.isDigit)).toNat?).getD 1
        match rest.head? with
        | some c =>
          if !([' ', '\t', '\n', ';', '\x7d', '#'].contains c) then .error ("unknown option to `s'", rest.tail)
          else go pattern replacement fold nth flags rest
        | none => go pattern replacement fold nth flags rest
  | 'y' :: mark :: rest =>
    match upTo mark false (rest.length + 1) false rest with
    | none => .error ("unterminated `y' command", [])
    | some (old, rest) =>
      match upTo mark false (rest.length + 1) false rest with
      | none => .error ("unterminated `y' command", [])
      | some (new, rest) =>
        let plain (cs : List Char) : List Char := (replacementOf (cs.length + 1) cs).flatMap fun
          | .text s => s.toList
          | .group _ => ['&']
          | .casing c => [c]
        if (plain old).length = (plain new).length then .ok (.translate ((plain old).zip (plain new)), rest)
        else .error ("strings for `y' command are different lengths", rest)
  | 'a' :: rest => let (text, rest) := addedText rest; .ok (.append text, rest)
  | 'i' :: rest => let (text, rest) := addedText rest; .ok (.insert text, rest)
  | 'c' :: rest => let (text, rest) := addedText rest; .ok (.change text, rest)
  | ':' :: rest =>
    let rest := rest.dropWhile isGap
    let name := rest.takeWhile fun c => !isGap c && c != '\n' && c != ';'
    .ok (.label (String.ofList name), rest.drop name.length)
  | '\x7b' :: rest => .ok (.begin 0, rest)
  | '\x7d' :: rest => .ok (.finish, rest)
  | c :: rest =>
    if c == 'b' || c == 't' || c == 'T' then
      let rest := rest.dropWhile isGap
      let name := rest.takeWhile fun c => !isGap c && c != '\n' && c != ';' && c != '\x7d'
      .ok (.branch c (String.ofList name), rest.drop name.length)
    else if c == 'q' || c == 'Q' then
      let rest := rest.dropWhile isGap
      match Numeral.decimal? rest with
      | some (n, rest) => .ok (.quit (c == 'q') n, rest)
      | none => .ok (.quit (c == 'q') 0, rest)
    else if c == 'r' || c == 'w' then
      let name := (rest.dropWhile isGap).takeWhile (· != '\n')
      let rest := (rest.dropWhile isGap).drop name.length
      .ok (if c == 'r' then .readFile (String.ofList name) else .writeFile (String.ofList name), rest)
    else if ['p', 'P', 'd', 'D', 'n', 'N', 'g', 'G', 'h', 'H', 'x', '=', 'l', 'z'].contains c then .ok (.plain c, rest)
    else .error ("unknown command: `" ++ String.singleton c ++ "'", rest)
where
  go (pattern replacement : List Char) (fold : Bool) (nth : Nat) (flags rest : List Char) : Parse Operation :=
    let pieces := replacementOf (replacement.length + 1) replacement
    let highest := pieces.foldl (fun n p => match p with
      | .group k => max n k
      | _ => n) 0
    let groups := groupCount extended pattern
    let made (e : Option Expression) : Parse Operation :=
      if e.isSome && groups < highest then
        .error ("invalid reference \\" ++ toString highest ++ " on `s' command's RHS", rest)
      else .ok (.substitute e pieces nth (flags.contains 'g') (flags.contains 'p'), rest)
    if pattern.isEmpty then made none
    else match Expression.ofText extended fold (String.ofList pattern) with
      | .ok e => made (some e)
      | .error text => .error (text, rest)

/-- Reads a script; those instructions that have been read come in reverse. -/
def instructions (fuel : Nat) (extended : Bool) (found : List Instruction) (cs : List Char) :
    Except Fault (List Instruction) :=
  match fuel with
  | 0 => .ok found.reverse
  | fuel + 1 =>
    let cs := cs.dropWhile fun c => isGap c || c == '\n' || c == ';'
    match cs with
    | [] => .ok found.reverse
    | '#' :: rest => instructions fuel extended found (rest.dropWhile (· != '\n'))
    | _ => do
      let (first, cs) ← address? extended cs
      let cs := if first.isSome then cs.dropWhile isGap else cs
      let (last, cs) ← match first, cs with
        | some _, ',' :: rest => address? extended (rest.dropWhile isGap)
        | _, _ => pure (none, cs)
      let cs := cs.dropWhile isGap
      let negated := cs.head? == some '!'
      let cs := if negated then (cs.dropWhile (· == '!')).dropWhile isGap else cs
      if last.isSome && (cs.head?).any ['q', 'Q', ':', '\x7d'].contains then
        throw ("command only uses one address", cs.tail)
      let (operation, rest) ← operation extended cs
      let after := rest.dropWhile isGap
      let closes := match operation with
        | .append _ | .insert _ | .change _ | .begin _ | .finish => true
        | _ => after.isEmpty || (after.head?).any ['\n', ';', '\x7d', '#'].contains
      if closes then instructions fuel extended (⟨first, last, negated, operation⟩ :: found) rest
      else .error ("extra characters after command", after.tail)

def lostLabel? (is : List Instruction) : Option String :=
  let isThere (name : String) : Bool := name.isEmpty || is.any fun i => match i.operation with
    | .label l => l == name
    | _ => false
  is.findSome? fun i => match i.operation with
    | .branch _ name => if isThere name then none else some name
    | _ => none

structure Editor where
  ahead : List String
  pattern : String := ""
  hold : String := ""
  number : Nat := 0
  printed : List String := []
  queue : List String := []
  open' : List (Nat × Option Nat) := []
  latest : Option Expression := none
  substituted : Bool := false
  ended : Option Nat := none
  files : List (String × String) := []

def Editor.print (d : Editor) (s : String) : Editor := { d with printed := (s ++ "\n") :: d.printed }

def Editor.isAt (d : Editor) : Address → Bool × Editor
  | .line n => (d.number == n, d)
  | .step first k => (if k = 0 then d.number == first else first ≤ d.number && (d.number - first) % k == 0, d)
  | .last => (d.ahead.isEmpty, d)
  | .ahead _ => (false, d)
  | .matching e =>
    match e <|> d.latest with
    | some e => ((e.find? d.pattern.toList.toArray 0).isSome, { d with latest := some e })
    | none => (false, d)

def Editor.chooses (d : Editor) (index : Nat) (i : Instruction) : Bool × Editor :=
  let (chosen, d) : Bool × Editor := match i.first, i.last with
    | none, _ => (true, d)
    | some a, none => d.isAt a
    | some a, some b =>
      let close (d : Editor) : Editor := { d with open' := d.open'.filter (·.1 != index) }
      match d.open'.lookup index with
      | some stop =>
        match stop, b with
        | some n, _ => (d.number ≤ n, if n ≤ d.number then close d else d)
        | none, b =>
          let (ends, d) := d.isAt b
          (true, if ends then close d else d)
      | none =>
        let (begins, d) := d.isAt a
        if begins then
          let stop : Option Nat := match b with
            | .line n => some n
            | .ahead n => some (d.number + n)
            | _ => none
          let single := stop.any (· ≤ d.number) || (match b with
            | .last => d.ahead.isEmpty
            | _ => false)
          (true, if single then d else { d with open' := (index, stop) :: d.open' })
        else (false, d)
  (chosen != i.negated, d)

def replaced (pieces : List Replacement) (text : Array Char) (m : Nat × Expression.Reached) : String :=
  let part (a b : Nat) : List Char := (text.toList.take b).drop a
  let (shown, _, _) := pieces.foldl (fun (shown, mode, once) piece =>
    let add (cs : List Char) : List Char × Char × Char :=
      let cs := if mode == 'U' then cs.map Char.toUpper else if mode == 'L' then cs.map Char.toLower else cs
      let cs := match cs with
        | c :: rest => if once == 'u' then c.toUpper :: rest else if once == 'l' then c.toLower :: rest else cs
        | [] => []
      (shown ++ cs, mode, if cs.isEmpty then once else ' ')
    match piece with
    | .text s => add s.toList
    | .group 0 => add (part m.1 m.2.1)
    | .group n => match m.2.2.lookup n with
      | some (a, b) => add (part a b)
      | none => (shown, mode, once)
    | .casing c => if c == 'u' || c == 'l' then (shown, mode, c) else (shown, c, once)) ([], ' ', ' ')
  String.ofList shown

def Editor.substitute (d : Editor) (e : Expression) (pieces : List Replacement) (nth : Nat) (all : Bool) :
    Bool × Editor :=
  let text := d.pattern.toList.toArray
  let found := e.findAll text
  let chosen := (found.drop (nth - 1))
  let chosen := if all then chosen else chosen.take 1
  if chosen.isEmpty then (false, { d with latest := some e })
  else
    let (front, at') := chosen.foldl (fun (front, at') m =>
      (front ++ String.ofList ((text.toList.take m.1).drop at') ++ replaced pieces text m, m.2.1)) ("", 0)
    (true, { d with
      pattern := front ++ String.ofList (text.toList.drop at'), latest := some e, substituted := true })

def Editor.advance (d : Editor) : Editor :=
  match d.ahead with
  | [] => d
  | l :: rest => { d with pattern := l, ahead := rest, number := d.number + 1 }

def Editor.flush (d : Editor) : Editor := { d with printed := d.queue ++ d.printed, queue := [] }

def behindBlock (is : Array Instruction) (fuel at' depth : Nat) : Nat :=
  match fuel with
  | 0 => at'
  | fuel + 1 =>
    match is[at']? with
    | none => at'
    | some i =>
      match i.operation with
      | .begin _ => behindBlock is fuel (at' + 1) (depth + 1)
      | .finish => if depth ≤ 1 then at' + 1 else behindBlock is fuel (at' + 1) (depth - 1)
      | _ => behindBlock is fuel (at' + 1) depth

def cycle (is : Array Instruction) (quiet : Bool) (read : String → Option String) (fuel at' : Nat) (d : Editor) : Editor :=
  let close (d : Editor) : Editor := (if quiet then d else d.print d.pattern).flush
  match fuel with
  | 0 => { d with ended := some 1 }
  | fuel + 1 =>
    match is[at']? with
    | none => close d
    | some i =>
      let (chosen, d) := d.chooses at' i
      let next (d : Editor) : Editor := cycle is quiet read fuel (at' + 1) d
      if !chosen then
        match i.operation with
        | .begin _ => cycle is quiet read fuel (behindBlock is (is.size + 1) at' 0) d
        | _ => next d
      else
        match i.operation with
        | .begin _ | .finish | .label _ => next d
        | .substitute e pieces nth all prints =>
          match e <|> d.latest with
          | none => next d
          | some e =>
            let (done, d) := d.substitute e pieces nth all
            next (if done && prints then d.print d.pattern else d)
        | .translate pairs => next { d with pattern := d.pattern.map fun c => (pairs.lookup c).getD c }
        | .append text => next { d with queue := text :: d.queue }
        | .insert text => next { d with printed := text :: d.printed }
        | .change text =>
          let isLast := i.last.isNone || i.negated || !(d.open'.any (·.1 == at'))
          (if isLast then { d with printed := text :: d.printed } else d).flush
        | .branch kind name =>
          let jumps := kind == 'b' || (kind == 't') == d.substituted
          let d := if kind == 'b' then d else { d with substituted := false }
          if jumps then
            if name.isEmpty then close d
            else
              match is.findIdx? fun i => match i.operation with
                | .label l => l == name
                | _ => false with
              | some target => cycle is quiet read fuel target d
              | none => { d with ended := some 1 }
          else next d
        | .quit prints status =>
          let d := if prints && !quiet then d.print d.pattern else d
          { d.flush with ended := some status }
        | .readFile path => next { d with queue := ((read path).getD "") :: d.queue }
        | .writeFile path =>
          let old := (d.files.lookup path).getD ""
          next { d with files := (path, old ++ d.pattern ++ "\n") :: d.files.filter (·.1 != path) }
        | .plain c =>
          match c with
          | 'p' => next (d.print d.pattern)
          | 'P' => next (d.print (splitFirst '\n' d.pattern).1)
          | 'd' => d.flush
          | 'D' =>
            match (splitFirst '\n' d.pattern).2 with
            | none => d.flush
            | some rest => cycle is quiet read fuel 0 { d.flush with pattern := rest }
          | 'n' =>
            if d.ahead.isEmpty then { close d with ended := some 0 }
            else next ((if quiet then d else d.print d.pattern).flush.advance)
          | 'N' =>
            if d.ahead.isEmpty then { close d with ended := some 0 }
            else
              let front := d.pattern
              let d := d.flush.advance
              next { d with pattern := front ++ "\n" ++ d.pattern }
          | 'g' => next { d with pattern := d.hold }
          | 'G' => next { d with pattern := d.pattern ++ "\n" ++ d.hold }
          | 'h' => next { d with hold := d.pattern }
          | 'H' => next { d with hold := d.hold ++ "\n" ++ d.pattern }
          | 'x' => next { d with hold := d.pattern, pattern := d.hold }
          | '=' => next (d.print (toString d.number))
          | 'z' => next { d with pattern := "" }
          | _ => next (d.print (replaceAll "\t" "\\t" (replaceAll "\n" "\\n" (replaceAll "\\" "\\\\" d.pattern)) ++ "$"))

def run (is : Array Instruction) (quiet : Bool) (read : String → Option String) (fuel : Nat) (d : Editor) : Editor :=
  match fuel with
  | 0 => d
  | fuel + 1 =>
    if d.ended.isSome || d.ahead.isEmpty then d
    else run is quiet read fuel (cycle is quiet read 10000 0 { d.advance with substituted := false })

end Edit

def editing : Action := fun args =>
  let usage : Usage := {
    plain := "nErsuzi", valued := "ef"
    long := [("quiet", 'n'), ("silent", 'n'), ("regexp-extended", 'E'), ("expression", 'e'), ("file", 'f')] }
  usage.handle "sed" args fun a => do
    let given := a.values 'e'
    let fromFiles ← (a.values 'f').mapM fun path => return (← content path).toOption.getD ""
    let scripts := given ++ fromFiles
    let (script, paths) := if scripts.isEmpty then (a.operands.headD "", a.operands.drop 1)
      else (String.intercalate "\n" scripts, a.operands)
    if scripts.isEmpty && a.operands.isEmpty then
      Action.note "Usage: sed [OPTION]... \x7bscript-only-if-no-other-script\x7d [input-file]..."
      return 1
    match Edit.instructions (script.length + 1) (a.has 'E' || a.has 'r') [] script.toList with
    | .error (text, rest) =>
      warn "sed" ("-e expression #1, char " ++ toString (script.length - rest.length) ++ ": " ++ text)
      return 1
    | .ok is =>
      if let some name := Edit.lostLabel? is then
        warn "sed" ("can't find label for jump to `" ++ name ++ "'")
        return 4
      let mut texts : List (String × String) := []
      let mut status := 0
      for path in (if paths.isEmpty then ["-"] else paths) do
        match ← content path with
        | .ok text => texts := (path, text) :: texts
        | .error text =>
          warn "sed" ("can't read " ++ text)
          status := 2
      let store (path text : String) : Run Unit := do
        let s ← get
        if let .ok (.name parent last false) := s.tree.walk s.here (Raw.toText path) then
          set { s with tree := s.tree.put (parent ++ [last]) (.file (Raw.toBytes text) false) }
      let inPlace := a.has 'i'
      let jobs := if inPlace then texts.reverse else [("-", String.join (texts.reverse.map (·.2)))]
      for (path, all) in jobs do
        let (lines, closed) := linesOf all
        let s ← get
        let read (path : String) : Option String := (s.tree.read s.here (Raw.toText path)).toOption.map Raw.ofBytes
        let done := Edit.run is.toArray (a.has 'n') read (lines.length + 1) { ahead := lines }
        let text := String.join done.printed.reverse
        let unclosed := !closed && !lines.isEmpty && done.ahead.isEmpty
          && done.printed.head? == some (done.pattern ++ "\n")
        let text := if unclosed then String.ofList text.toList.dropLast else text
        if inPlace then store path text else write 1 text
        done.files.forM fun (path, text) => store path text
        if status = 0 then status := done.ended.getD 0
      return status

end Lexicon.Shell.Tool
