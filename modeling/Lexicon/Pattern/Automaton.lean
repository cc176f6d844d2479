import Lexicon.Pattern.LiteralTree
import Lexicon.Pattern.Normal

/-!
The automata of a pattern: one that reads forward and notes where groups begin and end, and one that reads
backward. A pattern is too large if one of them is. A repetition is written out as often as its counts say.
-/
namespace Lexicon.Pattern

open Text

inductive Direction where
  | forward
  | backward
  deriving DecidableEq

def copies (part : Draft → Option (Exit × Draft)) : (count : Nat) → Exit → Draft → Option (Exit × Draft)
  | 0, exit, d => some (exit, d)
  | count + 1, exit, d =>
    match part d with
    | none => none
    | some (next, d) =>
      match exit.leave d with
      | none => none
      | some d => copies part count next d

/-- Writes out a part exactly `count` times. No times at all is an empty state. -/
def exactly (part : Draft → Option (Exit × Draft)) (count : Nat) (d : Draft) : Option (Exit × Draft) :=
  match count with
  | 0 => do return (.single, ← d.add 1)
  | count + 1 => do
    let (exit, d) ← part d
    copies part count exit d

/-- Writes out a part up to `count` times, each behind a fork that can leave the repetition. -/
def optionalCopies (part : Draft → Option (Exit × Draft)) : (count : Nat) → Exit → Draft → Option (Exit × Draft)
  | 0, exit, d => some (exit, d)
  | count + 1, exit, d =>
    match d.add 1 with
    | none => none
    | some d =>
      match part d with
      | none => none
      | some (next, d) =>
        match (exit.leave d).bind (·.link 2) with
        | none => none
        | some d => optionalCopies part count next d

/-- A repetition. `isLong` says that every round takes up a byte. -/
def addRepeated (least : Nat) (most : Option Nat) (isLong : Bool) (part : Draft → Option (Exit × Draft))
    (d : Draft) : Option (Exit × Draft) := do
  match least, most with
  | 0, some 1 =>
    let (exit, d) ← part (← d.add 1)
    return (.single, ← exit.leave (← (← d.add 1).link 2))
  | 0, none =>
    if isLong then
      let (exit, d) ← part (← d.add 1)
      return (.fork, ← exit.leave (← d.link 1))
    else
      let (exit, d) ← part d
      let d ← exit.leave (← d.add 3)
      return (.single, ← d.link 4)
  | 1, none =>
    let (exit, d) ← part d
    let d ← exit.leave (← d.add 1)
    return (.fork, ← d.link 1)
  | n + 1, none =>
    let (before, d) ← exactly part n d
    let (exit, d) ← part d
    let d ← exit.leave (← before.leave (← d.add 1))
    return (.fork, ← d.link 1)
  | least, some most =>
    let (exit, d) ← exactly part least d
    if most ≤ least then return (exit, d)
    else
      let (exit, d) ← optionalCopies part (most - least) exit (← d.add 1)
      return (.single, ← exit.leave d)

def literals? (es : List Expression) : Option (List (List UInt8)) :=
  es.mapM fun
    | .literal bytes => some bytes
    | _ => none

mutual

def build (dir : Direction) : Expression → Draft → Option (Exit × Draft)
  | .empty, d => do return (.single, ← d.add 1)
  | .place _, d => do return (.single, ← d.add 1)
  | .literal bytes, d => do return (.single, ← d.add bytes.length)
  | .byte set, d => do return (.single, ← (← d.add 1).addRanges set.ranges.size)
  | .scalar set, d =>
    if set.isBelow 0x80 then do return (.single, ← (← d.add 1).addRanges set.ranges.size)
    else
      match dir with
      | .forward => do return (.single, ← d.addForward set)
      | .backward => do return (.single, ← d.addBackward set)
  | .group _ body, d =>
    match dir with
    | .backward => build dir body d
    | .forward => do
      let (exit, d) ← build dir body (← d.add 1)
      return (.single, ← exit.leave (← d.add 1))
  | .sequence parts, d =>
    match dir with
    | .forward => buildInOrder dir parts d
    | .backward => buildInReverse dir parts d
  | .choice branches, d =>
    match literals? branches with
    | some literals => do
      let tree := LiteralTree.ofList (if dir = .forward then literals else literals.map List.reverse)
      return (.single, ← tree.addTo (← d.add 1))
    | none => do return (.single, ← buildBranches dir 0 branches d)
  | .repeated least most _ body, d => addRepeated least most (body.shortest.any (0 < ·)) (build dir body) d

def buildInOrder (dir : Direction) : List Expression → Draft → Option (Exit × Draft)
  | [], d => do return (.single, ← d.add 1)
  | [e], d => build dir e d
  | e :: rest, d => do
    let (exit, d) ← build dir e d
    let (last, d) ← buildInOrder dir rest d
    return (last, ← exit.leave d)

def buildInReverse (dir : Direction) : List Expression → Draft → Option (Exit × Draft)
  | [], d => do return (.single, ← d.add 1)
  | [e], d => build dir e d
  | e :: rest, d => do
    let (exit, d) ← buildInReverse dir rest d
    let (last, d) ← build dir e d
    return (last, ← exit.leave d)

/-- Adds branches. The fork before them and their common end follow the second of them. -/
def buildBranches (dir : Direction) : (before : Nat) → List Expression → Draft → Option Draft
  | _, [], d => some d
  | before, e :: rest, d => do
    let (exit, d) ← build dir e d
    let d ← if before = 1 then d.add 2 else some d
    let d ← exit.leave (← d.link 1)
    buildBranches dir (before + 1) rest d

end

/-- The pattern is bound to the place at which the automaton begins to read. -/
def isBound (dir : Direction) (e : Expression) : Bool :=
  match dir with
  | .forward => e.opensWith .textStart
  | .backward => e.closesWith .textEnd

/-- Adds what skips the bytes before a match: any bytes, or nothing if the pattern is bound. -/
def buildLead (dir : Direction) (e : Expression) (d : Draft) : Option Draft := do
  if isBound dir e then d.add 1
  else
    let part (d : Draft) : Option (Exit × Draft) := do return (.single, ← (← d.add 1).addRanges 1)
    let (exit, d) ← addRepeated 0 none true part d
    exit.leave d

/-- The automaton of a pattern. The whole match is a group like others. -/
def automaton? (dir : Direction) (e : Expression) : Option Draft := do
  let (exit, d) ← build dir (.group 0 e) (← buildLead dir e .blank)
  exit.leave (← d.add 1)

def fits (e : Expression) : Bool := (automaton? .forward e).isSome && (automaton? .backward e).isSome

end Lexicon.Pattern
