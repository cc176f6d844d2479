namespace Lexicon.Text

def splitAt (mark : Char) (cs : List Char) : List (List Char) :=
  cs.foldr (fun c pieces =>
    if c == mark then [] :: pieces
    else match pieces with
      | [] => [[c]]
      | piece :: rest => (c :: piece) :: rest) [[]]

def splitWords (cs : List Char) : List (List Char) :=
  (splitAt ' ' cs).filter (!·.isEmpty)

def isHexSmall (c : Char) : Bool := c.isDigit || ('a' ≤ c && c ≤ 'f')

def digitValue (c : Char) : Nat :=
  if c.isDigit then c.toNat - '0'.toNat
  else if c.isLower then c.toNat - 'a'.toNat + 10
  else c.toNat - 'A'.toNat + 10

def readHex (cs : List Char) : Nat := cs.foldl (fun n c => n * 16 + digitValue c) 0

/-- Among the positions below `size`, whose keys ascend, the last one with a key of at most `target`;
zero if there is none. -/
def lastAtMost (key : Nat → Option Nat) (size target : Nat) : Nat :=
  let rec halve (fuel low high : Nat) : Nat :=
    match fuel with
    | 0 => low
    | fuel + 1 =>
      if high ≤ low + 1 then low
      else
        let middle := (low + high) / 2
        if (key middle).all (· ≤ target) then halve fuel middle high else halve fuel low middle
  halve size 0 size

structure CodeRanges where
  ranges : Array (Nat × Nat)

namespace CodeRanges

def empty : CodeRanges := ⟨#[]⟩

def contains (set : CodeRanges) (n : Nat) : Bool :=
  let i := lastAtMost (fun i => (set.ranges[i]?).map (·.1)) set.ranges.size n
  (set.ranges[i]?).any fun r => r.1 ≤ n && n ≤ r.2

/-- Joins neighbours that overlap or touch. The ranges come in the order of their first ends. -/
def mergeSorted : List (Nat × Nat) → List (Nat × Nat)
  | [] => []
  | [r] => [r]
  | r :: s :: rest =>
    if s.1 ≤ r.2 + 1 then mergeSorted ((r.1, max r.2 s.2) :: rest)
    else r :: mergeSorted (s :: rest)
termination_by rs => rs.length

def ofList (ranges : List (Nat × Nat)) : CodeRanges :=
  ⟨(mergeSorted (ranges.mergeSort fun r s => r.1 ≤ s.1)).toArray⟩

def single (n : Nat) : CodeRanges := ⟨#[(n, n)]⟩

def union (a b : CodeRanges) : CodeRanges := ofList (a.ranges.toList ++ b.ranges.toList)

def gaps (last : Nat) : (start : Nat) → List (Nat × Nat) → List (Nat × Nat)
  | start, [] => if start ≤ last then [(start, last)] else []
  | start, r :: rest =>
    if start < r.1 then (start, r.1 - 1) :: gaps last (r.2 + 1) rest
    else gaps last (r.2 + 1) rest

def complement (last : Nat) (set : CodeRanges) : CodeRanges :=
  ⟨(gaps last 0 set.ranges.toList).toArray⟩

def intersect (last : Nat) (a b : CodeRanges) : CodeRanges :=
  ((a.complement last).union (b.complement last)).complement last

def difference (last : Nat) (a b : CodeRanges) : CodeRanges :=
  a.intersect last (b.complement last)

def symmetricDifference (last : Nat) (a b : CodeRanges) : CodeRanges :=
  (a.difference last b).union (b.difference last a)

/-- The set that words list: code points and ranges in base sixteen. -/
def ofWords (words : List (List Char)) : CodeRanges :=
  ofList <| words.map fun word =>
    match splitAt '-' word with
    | [first, last] => (readHex first, readHex last)
    | _ => (readHex word, readHex word)

def read (rows : List String) : CodeRanges := ofWords (rows.flatMap fun row => splitWords row.toList)

def lastCodePoint : Nat := 0x10FFFF

def scalarParts (r : Nat × Nat) : List (Nat × Nat) :=
  [(r.1, min r.2 0xD7FF), (max r.1 0xE000, r.2)].filter fun part => part.1 ≤ part.2

def scalars (set : CodeRanges) : CodeRanges := ⟨(set.ranges.toList.flatMap scalarParts).toArray⟩

def isBelow (bound : Nat) (set : CodeRanges) : Bool := set.ranges.all (·.2 < bound)

def only? (set : CodeRanges) : Option Nat :=
  match set.ranges.toList with
  | [(first, last)] => if first = last then some first else none
  | _ => none

def all : CodeRanges := ⟨#[(0, lastCodePoint)]⟩

def without (a b : CodeRanges) : CodeRanges := a.difference lastCodePoint b

end CodeRanges

end Lexicon.Text
