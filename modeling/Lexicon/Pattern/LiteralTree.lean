import Lexicon.Pattern.Draft

namespace Lexicon.Pattern

/-- A tree of literals. The groups before the last one come in reverse. -/
inductive LiteralTree where
  | node (closed : List (List (UInt8 × LiteralTree))) (active : List (UInt8 × LiteralTree))

namespace LiteralTree

def leaf : LiteralTree := .node [] []

def isLeaf : LiteralTree → Bool
  | node closed active => active.isEmpty && closed.all (·.isEmpty)

def endHere : LiteralTree → LiteralTree
  | node closed active =>
    if active.isEmpty && closed.all (·.isEmpty) && !closed.isEmpty then node closed active
    else node (active :: closed) []

def putBranch (b : UInt8) (t : LiteralTree) : List (UInt8 × LiteralTree) → List (UInt8 × LiteralTree)
  | [] => [(b, t)]
  | (c, s) :: rest =>
    if b == c then (b, t) :: rest else if b < c then (b, t) :: (c, s) :: rest else (c, s) :: putBranch b t rest

def insert : List UInt8 → LiteralTree → LiteralTree
  | [], t => t.endHere
  | b :: rest, node closed active =>
    let branch := ((active.find? (·.1 == b)).map (·.2)).getD leaf
    node closed (putBranch b (insert rest branch) active)

def ofList (literals : List (List UInt8)) : LiteralTree := literals.foldl (fun t bytes => t.insert bytes) leaf

def addGroup (count : Nat) (d : Draft) : Option Draft :=
  if count = 0 then some d
  else do (← if count = 1 then d.add 1 else d.addRanges count).link 1

def addGroups (counts : List Nat) (d : Draft) : Option Draft := do
  let d ← counts.foldlM (fun d n => addGroup n d) d
  d.link (counts.length - 1)

mutual

/-- Adds the states of a tree: for every node that has branches a fork, and a state for each of its groups. -/
def addTo : LiteralTree → Draft → Option Draft
  | node closed active, d => do
    let d ← addClosed closed d
    let d ← addBranches active d
    let d ← addGroups (active.length :: closed.map (·.length)) d
    d.add 1

def addClosed : List (List (UInt8 × LiteralTree)) → Draft → Option Draft
  | [], d => some d
  | group :: rest, d => do addBranches group (← addClosed rest d)

def addBranches : List (UInt8 × LiteralTree) → Draft → Option Draft
  | [], d => some d
  | branch :: rest, d => do addBranches rest (← addBranch branch d)

def addBranch : UInt8 × LiteralTree → Draft → Option Draft
  | (_, t), d => if t.isLeaf then some d else addTo t d

end

end LiteralTree

end Lexicon.Pattern
