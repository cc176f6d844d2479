import Lexicon.Shell.Command
import Lexicon.Shell.Numeral

namespace Lexicon.Shell.Arithmetic

inductive Fault where
  | expecting (what : String)
  | divisionByZero
  | illegalNumber (text : String)
  | readOnly (name : String)
  deriving DecidableEq, Repr

def Fault.message (expression : String) : Fault → String
  | expecting what => "arithmetic expression: expecting " ++ what ++ ": \"" ++ expression ++ "\""
  | divisionByZero => "arithmetic expression: division by zero: \"" ++ expression ++ "\""
  | illegalNumber text => "Illegal number: " ++ text
  | readOnly name => name ++ ": is read only"

inductive Lexeme where
  | number (n : Int64)
  | name (s : String)
  | operator (s : String)
  | unknown
  deriving DecidableEq

def operators : List String := [
  "<<=", ">>=", "<<", ">>", "<=", ">=", "==", "!=", "&&", "||", "+=", "-=", "*=", "/=", "%=", "&=", "|=", "^=",
  "+", "-", "*", "/", "%", "<", ">", "=", "!", "~", "&", "|", "^", "?", ":", "(", ")"]

def lexemes (fuel : Nat) (cs : List Char) : List Lexeme :=
  match fuel, cs with
  | 0, _ | _, [] => []
  | fuel + 1, c :: rest =>
    if c == ' ' || c == '\t' || c == '\n' then lexemes fuel rest
    else if isNameStart c then
      let (name, rest) := (c :: rest).span isNameRest
      .name (String.ofList name) :: lexemes fuel rest
    else
      match Numeral.unsigned? (c :: rest) with
      | some (n, rest) => .number (Int64.ofNat (min n maxInteger)) :: lexemes fuel rest
      | none =>
        match operators.find? fun o => o.toList.isPrefixOf (c :: rest) with
        | some o => .operator o :: lexemes fuel ((c :: rest).drop o.length)
        | none => [.unknown]

def levels : List (List String) := [
  ["|"], ["^"], ["&"], ["==", "!="], ["<", "<=", ">", ">="], ["<<", ">>"], ["+", "-"], ["*", "/", "%"]]

def assignments : List (String × Option String) := [
  ("=", none), ("+=", some "+"), ("-=", some "-"), ("*=", some "*"), ("/=", some "/"), ("%=", some "%"),
  ("<<=", some "<<"), (">>=", some ">>"), ("&=", some "&"), ("|=", some "|"), ("^=", some "^")]

structure Progress where
  rest : List Lexeme
  changes : List (String × Int64) := []

abbrev Calculation (α : Type) := StateT Progress (Except Fault) α

/-- The variables around an expression: their values, and whether they may be set. -/
structure Surroundings where
  value : String → String
  isReadOnly : String → Bool

def ofBool (b : Bool) : Int64 := if b then 1 else 0

def apply (o : String) (a b : Int64) : Except Fault Int64 :=
  match o with
  | "+" => .ok (a + b)
  | "-" => .ok (a - b)
  | "*" => .ok (a * b)
  | "/" => if b == 0 then .error .divisionByZero else .ok (a / b)
  | "%" => if b == 0 then .error .divisionByZero else .ok (a % b)
  | "<<" => .ok (a <<< (b &&& 63))
  | ">>" => .ok (a >>> (b &&& 63))
  | "<" => .ok (ofBool (a < b))
  | "<=" => .ok (ofBool (a ≤ b))
  | ">" => .ok (ofBool (b < a))
  | ">=" => .ok (ofBool (b ≤ a))
  | "==" => .ok (ofBool (a == b))
  | "!=" => .ok (ofBool (a != b))
  | "&" => .ok (a &&& b)
  | "^" => .ok (a ^^^ b)
  | _ => .ok (a ||| b)

def Surroundings.read (around : Surroundings) (name : String) : Calculation Int64 := do
  match (← get).changes.lookup name with
  | some n => return n
  | none =>
    let text := around.value name
    match Numeral.signed? Numeral.unsigned? text.toList with
    | some (n, rest) =>
      if rest.all Numeral.isBlank && Numeral.fits n then return Int64.ofInt n
      else throw (.illegalNumber text)
    | none => if text.toList.all Numeral.isBlank then return 0 else throw (.illegalNumber text)

def operator? (among : List String) : Calculation (Option String) := fun p =>
  match p.rest with
  | .operator o :: rest => if among.contains o then .ok (some o, { p with rest }) else .ok (none, p)
  | _ => .ok (none, p)

mutual

/-- An assignment or a choice. With `idle`, nothing is evaluated. -/
def expression (fuel : Nat) (around : Surroundings) (idle : Bool) : Calculation Int64 := do
  match fuel with
  | 0 => throw (.expecting "primary")
  | fuel + 1 =>
    match (← get).rest with
    | .name name :: .operator o :: rest =>
      match assignments.lookup o with
      | some first =>
        modify ({ · with rest })
        let right ← expression fuel around idle
        if idle then return right
        let result ← match first with
          | some o => do
            let left ← around.read name
            match apply o left right with
            | .ok n => pure n
            | .error e => throw e
          | none => pure right
        if around.isReadOnly name then throw (.readOnly name)
        modify fun p => { p with changes := (name, result) :: p.changes }
        return result
      | none => choice fuel around idle
    | _ => choice fuel around idle

def choice (fuel : Nat) (around : Surroundings) (idle : Bool) : Calculation Int64 := do
  match fuel with
  | 0 => throw (.expecting "primary")
  | fuel + 1 =>
    let condition ← either fuel around idle
    match ← operator? ["?"] with
    | none => return condition
    | some _ =>
      let a ← expression fuel around (idle || condition == 0)
      match ← operator? [":"] with
      | none => throw (.expecting "':'")
      | some _ =>
        let b ← choice fuel around (idle || condition != 0)
        return if condition != 0 then a else b

def either (fuel : Nat) (around : Surroundings) (idle : Bool) : Calculation Int64 := do
  match fuel with
  | 0 => throw (.expecting "primary")
  | fuel + 1 =>
    let a ← both fuel around idle
    match ← operator? ["||"] with
    | none => return a
    | some _ =>
      let b ← either fuel around (idle || a != 0)
      return ofBool (a != 0 || b != 0)

def both (fuel : Nat) (around : Surroundings) (idle : Bool) : Calculation Int64 := do
  match fuel with
  | 0 => throw (.expecting "primary")
  | fuel + 1 =>
    let a ← level fuel around idle levels
    match ← operator? ["&&"] with
    | none => return a
    | some _ =>
      let b ← both fuel around (idle || a == 0)
      return ofBool (a != 0 && b != 0)

def level (fuel : Nat) (around : Surroundings) (idle : Bool) (tighter : List (List String)) :
    Calculation Int64 := do
  match fuel with
  | 0 => throw (.expecting "primary")
  | fuel + 1 =>
    match tighter with
    | [] => operand fuel around idle
    | among :: rest =>
      let a ← level fuel around idle rest
      operands fuel around idle among rest a

def operands (fuel : Nat) (around : Surroundings) (idle : Bool) (among : List String) (tighter : List (List String))
    (a : Int64) : Calculation Int64 := do
  match fuel with
  | 0 => throw (.expecting "primary")
  | fuel + 1 =>
    match ← operator? among with
    | none => return a
    | some o =>
      let b ← level fuel around idle tighter
      if idle then operands fuel around idle among tighter b
      else
        match apply o a b with
        | .ok n => operands fuel around idle among tighter n
        | .error e => throw e

def operand (fuel : Nat) (around : Surroundings) (idle : Bool) : Calculation Int64 := do
  match fuel with
  | 0 => throw (.expecting "primary")
  | fuel + 1 =>
    let p ← get
    match p.rest with
    | .number n :: rest =>
      set { p with rest }
      return n
    | .name name :: rest =>
      set { p with rest }
      if idle then return 0 else around.read name
    | .operator "(" :: rest =>
      set { p with rest }
      let n ← expression fuel around idle
      match ← operator? [")"] with
      | none => throw (.expecting "')'")
      | some _ => return n
    | .operator "+" :: rest =>
      set { p with rest }
      operand fuel around idle
    | .operator "-" :: rest =>
      set { p with rest }
      return -(← operand fuel around idle)
    | .operator "!" :: rest =>
      set { p with rest }
      return ofBool ((← operand fuel around idle) == 0)
    | .operator "~" :: rest =>
      set { p with rest }
      return ~~~(← operand fuel around idle)
    | _ => throw (.expecting "primary")

end

def eval (around : Surroundings) (text : String) : Except Fault (Int64 × List (String × Int64)) := do
  let ls := lexemes text.length text.toList
  let (n, p) ← (expression (16 * ls.length + 32) around false).run { rest := ls }
  if p.rest.isEmpty then return (n, p.changes.reverse) else .error (.expecting "EOF")

end Lexicon.Shell.Arithmetic
