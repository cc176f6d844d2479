import Lexicon.Shell.Tool.Expression
import Lexicon.Shell.Tool.Files

namespace Lexicon.Shell.Tool

open Run

def plainEchoing : Action := fun args => do
  let flags := args.takeWhile fun a => a.startsWith "-" && 1 < a.length && a.toList.tail.all ['n', 'e', 'E'].contains
  let text := String.intercalate " " (args.drop flags.length)
  let expands := (String.join flags).toList.reverse.find? (fun c => c == 'e' || c == 'E') == some 'e'
  let (cs, ended) := if expands then unescape text.length text.toList else (text.toList, false)
  write 1 (String.ofList cs ++ (if ended || flags.any (·.toList.contains 'n') then "" else "\n"))
  return 0

def namingLast : Action := fun args =>
  let usage : Usage := { plain := "az", valued := "s", mixed := false }
  usage.handle "basename" args fun a => do
    let (paths, suffix) := if a.has 'a' || a.has 's' then (a.operands, (a.value? 's').getD "")
      else (a.operands.take 1, (a.operands[1]?).getD "")
    let several := a.has 'a' || a.has 's'
    if paths.isEmpty then misused "basename" "missing operand"
    else if !several && 2 < a.operands.length then misused "basename" ("extra operand '" ++ a.operands.getD 2 "" ++ "'")
    else
      paths.forM fun path => do
        let last := (splitPath path).2
        let last := if last.isEmpty && path.startsWith "/" then "/" else last
        let shown := if last.endsWith suffix && last != suffix then
            String.ofList (last.toList.take (last.length - suffix.length)) else last
        write 1 (shown ++ "\n")
      return 0

def namingFront : Action := fun args => do
  if args.isEmpty then misused "dirname" "missing operand"
  else
    args.forM fun path =>
      let front := (splitPath path).1
      write 1 ((if !front.isEmpty then front else if path.startsWith "/" then "/" else ".") ++ "\n")
    return 0

/-- A decimal number: an integer in units of its last place, and the count of places. -/
def decimal? (s : String) : Option (Int × Nat) :=
  let (negative, cs) := match s.toList with
    | '-' :: rest => (true, rest)
    | '+' :: rest => (false, rest)
    | cs => (false, cs)
  let (whole, rest) := Numeral.digits 10 cs
  let (fraction, rest) := match rest with
    | '.' :: rest => Numeral.digits 10 rest
    | rest => ([], rest)
  if rest.isEmpty && !(whole.isEmpty && fraction.isEmpty) then
    let n : Int := (Numeral.value 10 (whole ++ fraction) : Nat)
    some (if negative then -n else n, fraction.length)
  else none

def decimalText (n : Int) (places : Nat) : String :=
  (if n < 0 then "-" else "") ++ Text.Fixed.pointed places n.natAbs false

def sequencing : Action := fun args =>
  let isNumber (a : String) : Bool := (decimal? a).isSome
  let flags := args.takeWhile (!isNumber ·)
  let usage : Usage := { plain := "w", valued := "sf", mixed := false, long := [("separator", 's'), ("equal-width", 'w')] }
  usage.handle "seq" flags fun a => do
    let operands := a.operands ++ args.drop flags.length
    let numbers := operands.map fun o => (o, decimal? o)
    match numbers.find? (·.2.isNone) with
    | some (o, _) => misused "seq" ("invalid floating point argument: '" ++ o ++ "'")
    | none =>
      let given := numbers.filterMap (·.2)
      let (first, step, last) : (Int × Nat) × (Int × Nat) × (Int × Nat) := match given with
        | [n] => ((1, 0), (1, 0), n)
        | [x, n] => (x, (1, 0), n)
        | x :: k :: n :: _ => (x, k, n)
        | [] => ((1, 0), (1, 0), (0, 0))
      if given.isEmpty then misused "seq" "missing operand"
      else if step.1 = 0 then misused "seq" "invalid Zero increment value: '0'"
      else
        let places := max first.2 step.2
        let scale := max places last.2
        let unit (x : Int × Nat) : Int := x.1 * Nat.pow 10 (scale - x.2)
        let (low, k, high) := (unit first, unit step, unit last)
        let count := if 0 < k then (high - low) / k + 1 else (low - high) / (-k) + 1
        let shown := (List.range count.toNat).map fun (i : Nat) =>
          decimalText ((low + k * (i : Int)) / Nat.pow 10 (scale - places)) places
        let width := shown.foldl (fun w s => max w s.length) 0
        let shown := if a.has 'w' then shown.map fun s =>
            if s.startsWith "-" then "-" ++ String.ofList (Text.padStart (width - 1) '0' s.toList.tail)
            else String.ofList (Text.padStart width '0' s.toList) else shown
        write 1 (if shown.isEmpty then "" else String.intercalate ((a.value? 's').getD "\n") shown ++ "\n")
        return 0

def endlessness : Nat := 4096

def affirming : Action := fun args => do
  let line := (if args.isEmpty then "y" else String.intercalate " " args) ++ "\n"
  write 1 (String.join (List.replicate endlessness line))
  return 0

def showingVariables : Action := fun args => do
  let all := (← get).environment
  if args.isEmpty then
    write 1 (unlines (all.map fun (name, value) => name ++ "=" ++ value))
    return 0
  else
    args.foldlM (fun status name => do
      match all.lookup name with
      | some value =>
        write 1 (value ++ "\n")
        return status
      | none => return 1) 0

def locatingPrograms : Action := fun args => do
  let s ← get
  let places (name : String) : List String :=
    if name.toList.contains '/' then [name]
    else (Text.splitAt ':' ((s.valueOf? "PATH").getD "").toList).map fun d => within (String.ofList d) name
  args.foldlM (fun status name => do
    match (places name).find? fun p => s.tree.isExecutable s.here (Raw.toText p) with
    | some path =>
      write 1 (path ++ "\n")
      return status
    | none => return 1) 0

/-- A value of an expression: a text, which may spell an integer. -/
abbrev Operand := String

def operandNumber? (s : Operand) : Option Int :=
  match s.toList with
  | '-' :: cs => if !cs.isEmpty && cs.all Char.isDigit then some (-(Numeral.value 10 cs : Int)) else none
  | cs => if !cs.isEmpty && cs.all Char.isDigit then some (Numeral.value 10 cs) else none

def isNull (s : Operand) : Bool := s.isEmpty || operandNumber? s == some 0

def matched (s pattern : Operand) : Except String Operand := do
  let e ← Expression.ofText false false pattern
  let text := s.toList.toArray
  let grouped := ["\\("].any fun mark => (replaceAll mark "" pattern) != pattern
  match e.matchAt? text 0 with
  | some (stop, groups) =>
    if grouped then
      return match groups.lookup 1 with
        | some (a, b) => String.ofList ((s.toList.take b).drop a)
        | none => ""
    else return toString stop
  | none => return if grouped then "" else "0"

def combined (o a b : Operand) : Except String Operand :=
  let integers (f : Int → Int → Except String Int) : Except String Operand :=
    match operandNumber? a, operandNumber? b with
    | some m, some n => (f m n).map toString
    | _, _ => .error "non-integer argument"
  let order : Ordering := match operandNumber? a, operandNumber? b with
    | some m, some n => compare m n
    | _, _ => compare a b
  let truth (v : Bool) : Except String Operand := .ok (if v then "1" else "0")
  match o with
  | "|" => .ok (if !isNull a then a else if isNull b then "0" else b)
  | "&" => .ok (if isNull a || isNull b then "0" else a)
  | "<" => truth (order == .lt)
  | "<=" => truth (order != .gt)
  | ">" => truth (order == .gt)
  | ">=" => truth (order != .lt)
  | "=" | "==" => truth (order == .eq)
  | "!=" => truth (order != .eq)
  | "+" => integers fun m n => .ok (m + n)
  | "-" => integers fun m n => .ok (m - n)
  | "*" => integers fun m n => .ok (m * n)
  | "/" => integers fun m n => if n = 0 then .error "division by zero" else .ok (m.tdiv n)
  | "%" => integers fun m n => if n = 0 then .error "division by zero" else .ok (m.tmod n)
  | _ => matched a b

def operandLevels : List (List String) :=
  [["|"], ["&"], ["<", "<=", "=", "==", "!=", ">=", ">"], ["+", "-"], ["*", "/", "%"], [":"]]

mutual

def operandLevel (fuel : Nat) (levels : List (List String)) (args : List String) :
    Except String (Operand × List String) :=
  match fuel with
  | 0 => .error "syntax error"
  | fuel + 1 =>
    match levels with
    | [] => operandUnit fuel args
    | among :: tighter => do
      let (a, rest) ← operandLevel fuel tighter args
      operandsAfter fuel among tighter a rest

def operandsAfter (fuel : Nat) (among : List String) (tighter : List (List String)) (a : Operand) (args : List String) :
    Except String (Operand × List String) :=
  match fuel with
  | 0 => .error "syntax error"
  | fuel + 1 =>
    match args with
    | o :: rest =>
      if among.contains o then do
        if rest.isEmpty then .error ("syntax error: missing argument after '" ++ o ++ "'")
        let (b, rest) ← operandLevel fuel tighter rest
        operandsAfter fuel among tighter (← combined o a b) rest
      else .ok (a, args)
    | [] => .ok (a, [])

def operandUnit (fuel : Nat) (args : List String) : Except String (Operand × List String) :=
  match fuel with
  | 0 => .error "syntax error"
  | fuel + 1 =>
    match args with
    | "(" :: rest => do
      let (a, rest) ← operandLevel fuel operandLevels rest
      match rest with
      | ")" :: rest => return (a, rest)
      | r :: _ => .error ("syntax error: expecting ')' instead of '" ++ r ++ "'")
      | [] => .error ("syntax error: expecting ')' after '" ++ a ++ "'")
    | "length" :: s :: rest => .ok (toString s.length, rest)
    | "match" :: s :: p :: rest => (matched s p).map (·, rest)
    | "index" :: s :: cs :: rest =>
      .ok (toString (((s.toList.findIdx? cs.toList.contains).map (· + 1)).getD 0), rest)
    | "substr" :: s :: at' :: count :: rest =>
      match operandNumber? at', operandNumber? count with
      | some i, some n =>
        .ok (if 1 ≤ i && 0 < n then String.ofList ((s.toList.drop (i.toNat - 1)).take n.toNat) else "", rest)
      | _, _ => .ok ("", rest)
    | "+" :: s :: rest => .ok (s, rest)
    | s :: rest => if s = ")" then .error "syntax error: unexpected ')'" else .ok (s, rest)
    | [] => .error "syntax error"

end

def computing : Action := fun args => do
  if args.isEmpty then misused "expr" "missing operand" 2
  else
    let args := if args.head? == some "--" then args.tail else args
    match operandLevel (16 * args.length + 32) operandLevels args with
    | .error text =>
      warn "expr" text
      return 2
    | .ok (value, rest) =>
      match rest with
      | r :: _ =>
        warn "expr" ("syntax error: unexpected argument '" ++ r ++ "'")
        return 2
      | [] =>
        write 1 (value ++ "\n")
        return if isNull value then 1 else 0

def wordTools : List (String × Action) := [
  ("echo", plainEchoing), ("printf", Action.formatting), ("test", Action.testing), ("[", Action.testingInBrackets),
  ("pwd", Action.locating), ("true", Action.ending 0), ("false", Action.ending 1), ("sleep", Action.ending 0),
  ("sync", Action.ending 0), ("basename", namingLast), ("dirname", namingFront), ("seq", sequencing), ("yes", affirming),
  ("printenv", showingVariables), ("which", locatingPrograms), ("expr", computing)]

end Lexicon.Shell.Tool
