import Lexicon.FileTree.Basic
import Lexicon.Shell.Numeral
import Lexicon.Shell.Raw

namespace Lexicon.Shell.Condition

inductive Kind where
  | operand
  | unary
  | binary
  | negation
  | conjunction
  | alternative
  | opening
  | closing
  | missing
  deriving DecidableEq, Repr

def unaryOperators : List String := [
  "-r", "-w", "-x", "-e", "-f", "-d", "-c", "-b", "-p", "-u", "-g", "-k", "-s", "-t", "-z", "-n", "-h", "-O", "-G",
  "-L", "-S"]

def binaryOperators : List String := [
  "=", "!=", "<", ">", "-eq", "-ne", "-ge", "-gt", "-le", "-lt", "-nt", "-ot", "-ef"]

def kind : List String → Kind
  | [] => .missing
  | s :: rest =>
    if s = "!" then .negation
    else if s = "-a" then .conjunction
    else if s = "-o" then .alternative
    else if s = "(" then if rest.isEmpty then .operand else .opening
    else if s = ")" then .closing
    else if binaryOperators.contains s then .binary
    else if unaryOperators.contains s then
      match rest with
      | [] => .operand
      | [_] => .unary
      | next :: _ => if binaryOperators.contains next then .operand else .unary
    else .operand

def number (s : String) : Except String Int :=
  match Numeral.whole? s with
  | some n => .ok n
  | none => .error ("Illegal number: " ++ s)

def unary (t : FileTree) (here : Location) (o a : String) : Except String Bool := do
  let path := Raw.toText a
  match o with
  | "-n" => return !a.isEmpty
  | "-z" => return a.isEmpty
  | "-t" =>
    let _ ← number a
    return false
  | "-e" | "-r" | "-w" | "-O" | "-G" => return (t.find here path).isOk
  | "-f" => return t.isFile here path && path != "/dev/null"
  | "-c" => return path == "/dev/null"
  | "-d" => return t.isDirectory here path
  | "-x" => return t.isExecutable here path || t.isDirectory here path
  | "-s" => return match t.find here path with
    | .ok (_, .file content _) => !content.isEmpty
    | .ok (_, .directory) => true
    | .error _ => false
  | _ => return false

/-- A question about two operands. Files have no age. -/
def binary (t : FileTree) (here : Location) (a o b : String) : Except String Bool := do
  let find (s : String) := (t.find here (Raw.toText s)).toOption.map (·.1)
  match o with
  | "=" => return a == b
  | "!=" => return a != b
  | "<" => return decide (a < b)
  | ">" => return decide (b < a)
  | "-eq" => return (← number a) == (← number b)
  | "-ne" => return (← number a) != (← number b)
  | "-lt" => return decide ((← number a) < (← number b))
  | "-le" => return decide ((← number a) ≤ (← number b))
  | "-gt" => return decide ((← number b) < (← number a))
  | "-ge" => return decide ((← number b) ≤ (← number a))
  | "-ef" => return (find a).isSome && find a == find b
  | _ => return false

mutual

/-- Alternatives. The answer comes with the arguments from the last operand on. -/
def either (fuel : Nat) (t : FileTree) (here : Location) (k : Kind) (args : List String) :
    Except String (Bool × List String) := do
  match fuel with
  | 0 => .error "too many arguments"
  | fuel + 1 =>
    let (a, rest) ← both fuel t here k args
    if kind rest.tail == .alternative then
      let next := rest.tail.tail
      let (b, rest) ← either fuel t here (kind next) next
      return (a || b, rest)
    else return (a, rest)

def both (fuel : Nat) (t : FileTree) (here : Location) (k : Kind) (args : List String) :
    Except String (Bool × List String) := do
  match fuel with
  | 0 => .error "too many arguments"
  | fuel + 1 =>
    let (a, rest) ← negated fuel t here k args
    if kind rest.tail == .conjunction then
      let next := rest.tail.tail
      let (b, rest) ← both fuel t here (kind next) next
      return (a && b, rest)
    else return (a, rest)

def negated (fuel : Nat) (t : FileTree) (here : Location) (k : Kind) (args : List String) :
    Except String (Bool × List String) := do
  match fuel with
  | 0 => .error "too many arguments"
  | fuel + 1 =>
    match k with
    | .negation =>
      let next := kind args.tail
      let (v, rest) ← negated fuel t here next (if next == .missing then args else args.tail)
      return (!v, rest)
    | .missing => return (false, args)
    | .opening =>
      let inner := args.tail
      if kind inner == .closing then return (false, inner)
      else
        let (v, rest) ← either fuel t here (kind inner) inner
        if kind rest.tail == .closing then return (v, rest.tail) else .error "closing paren expected"
    | _ =>
      match k, args with
      | .unary, o :: a :: rest => return (← unary t here o a, a :: rest)
      | .unary, [o] => .error (o ++ ": argument expected")
      | _, a :: rest =>
        if kind rest == .binary then
          match rest with
          | o :: b :: _ => return (← binary t here a o b, rest.tail)
          | _ => .error (rest.headD "" ++ ": argument expected")
        else return (!a.isEmpty, args)
      | _, [] => return (false, [])

end

def answer (t : FileTree) (here : Location) (k : Kind) (args : List String) : Except String Bool := do
  let (v, rest) ← either (4 * args.length + 8) t here k args
  match rest with
  | a :: _ :: _ => .error (if a.isEmpty then "unexpected operator" else a ++ ": unexpected operator")
  | _ => return v

/-- The answer to a condition. Three or four arguments are looked at as a whole first. -/
def holds (t : FileTree) (here : Location) (args : List String) : Except String Bool :=
  let inParentheses := args.head? == some "(" && args.getLast? == some ")"
  match args with
  | [] => .ok false
  | [a, o, b] =>
    if binaryOperators.contains o then answer t here .operand args
    else if inParentheses then answer t here (kind [o]) [o]
    else if a = "!" then (holds t here [o, b]).map (!·)
    else answer t here (kind args) args
  | [a, b, c, d] =>
    if inParentheses then answer t here (kind [b, c]) [b, c]
    else if a = "!" then (holds t here [b, c, d]).map (!·)
    else answer t here (kind args) args
  | _ => answer t here (kind args) args

end Lexicon.Shell.Condition
