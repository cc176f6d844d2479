import Lexicon.Text.ByteRanges
import Lexicon.Text.CodeRanges
import Std.Data.HashMap

/-!
Automata under construction, as far as their size goes. A draft counts the states of an automaton and the room that
the links of its larger states take; a step of the construction has no answer once the automaton is too large.
States are numbered in the order in which they are made.

Classes of scalars share states. Which of them are found again depends on a memory with a fixed number of slots, in
which a later entry displaces an earlier one.
-/
namespace Lexicon.Pattern

open Text

structure Draft where
  states : Nat
  links : Nat

namespace Draft

def blank : Draft := ⟨0, 0⟩

def stateRoom : Nat := 32

/-- The room of a link from a byte range, and of a link of a fork. -/
def rangeLinkRoom : Nat := 8

@[inherit_doc rangeLinkRoom]
def forkLinkRoom : Nat := 4

def roomLimit : Nat := 10 * 1024 * 1024

def room (d : Draft) : Nat := stateRoom * d.states + d.links

def checked (d : Draft) : Option Draft := if d.room ≤ roomLimit then some d else none

def add (count : Nat) (d : Draft) : Option Draft := checked { d with states := d.states + count }

def addRanges (count : Nat) (d : Draft) : Option Draft :=
  checked ⟨d.states + 1, d.links + rangeLinkRoom * count⟩

def link (count : Nat) (d : Draft) : Option Draft := checked { d with links := d.links + forkLinkRoom * count }

end Draft

/-- How a part of an automaton goes on: from a state with one way on, or from a fork, which takes a further
link. -/
inductive Exit where
  | single
  | fork

def Exit.leave : Exit → Draft → Option Draft
  | single, d => some d
  | fork, d => d.link 1

/-! ### Memories -/

/-- A memory of states by their keys. Every key has one slot, which holds the entry that came last. -/
structure Slots (α : Type) where
  entries : Std.HashMap Nat (α × Nat)

namespace Slots

variable {α : Type}

def empty : Slots α := ⟨∅⟩

/-- The state of a key in its slot, if it has not been displaced. -/
def find? [BEq α] (s : Slots α) (slot : Nat) (key : α) : Option Nat :=
  match s.entries[slot]? with
  | some (k, state) => if k == key then some state else none
  | none => none

def put (s : Slots α) (slot : Nat) (key : α) (state : Nat) : Slots α := ⟨s.entries.insert slot (key, state)⟩

end Slots

/-- The slot of a row of numbers: the remainder of a running product, into which each number is mixed before the
next multiplication. -/
def slotOf (count : Nat) (numbers : List UInt64) : Nat :=
  (numbers.foldl (fun h n => (h ^^^ n) * 1099511628211) 14695981039346656037).toNat % count

/-! ### Classes of scalars, read forward -/

structure Link where
  range : ByteRange
  state : Nat
  deriving BEq

/-- A state that is not finished: its links, the latest first, and a range whose link has still to be made. -/
structure OpenState where
  links : List Link
  pending : Option ByteRange

/-- Makes the link that is missing. -/
def OpenState.close (n : OpenState) (state : Nat) : OpenState :=
  match n.pending with
  | some range => ⟨⟨range, state⟩ :: n.links, none⟩
  | none => n

/-- A class of scalars while it is read forward: the open states on the way of the last byte sequence, the
deepest first, and the states that may be shared. -/
structure ForwardClass where
  draft : Draft
  path : List OpenState
  known : Slots (List Link)

namespace ForwardClass

def slotCount : Nat := 10000

/-- The number of the state with the given links, the latest first. Such a state may exist already. -/
def state? (c : ForwardClass) (links : List Link) : Option (Nat × ForwardClass) :=
  let slot := slotOf slotCount <| links.reverse.flatMap fun l =>
    [l.range.1.toUInt64, l.range.2.toUInt64, l.state.toUInt64]
  match c.known.find? slot links with
  | some n => some (n, c)
  | none => do
    let draft ← c.draft.addRanges links.length
    return (c.draft.states, { c with draft, known := c.known.put slot links c.draft.states })

/-- Finishes the open states deeper than `depth`, and the link of the state at that depth. -/
def finishBelow (depth : Nat) (target : Nat) : List OpenState → ForwardClass → Option ForwardClass
  | [], c => some { c with path := [] }
  | n :: rest, c =>
    if rest.length ≤ depth then some { c with path := n.close target :: rest }
    else do
      let (target, c) ← c.state? (n.close target).links
      finishBelow depth target rest c

/-- How many ranges at the beginning of a sequence are those of the last one. -/
def sharedRanges : List ByteRange → List OpenState → Nat
  | r :: rs, n :: ns => if n.pending == some r then sharedRanges rs ns + 1 else 0
  | _, _ => 0

def add (target : Nat) (c : ForwardClass) (sequence : List ByteRange) : Option ForwardClass := do
  let shared := sharedRanges sequence c.path.reverse
  let c ← finishBelow shared target c.path c
  match sequence.drop shared, c.path with
  | first :: others, top :: rest =>
    let opened := others.foldl (fun path r => ⟨[], some r⟩ :: path) ({ top with pending := some first } :: rest)
    return { c with path := opened }
  | _, _ => return c

end ForwardClass

def Draft.addForward (set : CodeRanges) (d : Draft) : Option Draft := do
  let target := d.states
  let start : ForwardClass := ⟨← d.add 1, [⟨[], none⟩], .empty⟩
  let sequences := set.ranges.toList.flatMap fun r => byteRanges r.1 r.2
  let c ← sequences.foldlM (ForwardClass.add target) start
  let c ← ForwardClass.finishBelow 0 target c.path c
  let (_, c) ← c.state? ((c.path.head?.map (·.links)).getD [])
  return c.draft

/-! ### Classes of scalars, read backward -/

/-- A class of scalars while it is read backward: every byte sequence has states of its own, but those that end
alike share them. -/
structure BackwardClass where
  draft : Draft
  known : Slots (Nat × ByteRange)

namespace BackwardClass

def slotCount : Nat := 1000

/-- The state that leads to another one by a range of bytes. Such a state may exist already. -/
def state? (c : BackwardClass) (next : Nat) (range : ByteRange) : Option (Nat × BackwardClass) :=
  let slot := slotOf slotCount [next.toUInt64, range.1.toUInt64, range.2.toUInt64]
  match c.known.find? slot (next, range) with
  | some n => some (n, c)
  | none => do
    let draft ← c.draft.add 1
    return (c.draft.states, ⟨draft, c.known.put slot (next, range) c.draft.states⟩)

def add (target : Nat) (c : BackwardClass) (sequence : List ByteRange) : Option BackwardClass := do
  let (_, c) ← sequence.foldlM (fun (next, c) range => c.state? next range) (target, c)
  return { c with draft := ← c.draft.link 1 }

end BackwardClass

/-- Adds a class of scalars, read backward: a fork, the end, and the byte sequences. -/
def Draft.addBackward (set : CodeRanges) (d : Draft) : Option Draft := do
  let start : BackwardClass := ⟨← d.add 2, .empty⟩
  let sequences := set.ranges.toList.flatMap fun r => byteRanges r.1 r.2
  let c ← sequences.foldlM (BackwardClass.add (d.states + 1)) start
  return c.draft

end Lexicon.Pattern
