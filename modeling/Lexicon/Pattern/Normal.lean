import Lexicon.Pattern.Basic
import Lexicon.Text.Bytes

namespace Lexicon.Expression

open Text

/-! ### What an expression takes up -/

mutual

def weight : Expression → Nat
  | .group _ body => body.weight + 1
  | .repeated _ _ _ body => body.weight + 1
  | .sequence parts => weightAll parts + 1
  | .choice branches => weightAll branches + 1
  | _ => 1

def weightAll : List Expression → Nat
  | [] => 0
  | e :: rest => e.weight + weightAll rest

end

mutual

def isWidthless : Expression → Bool
  | .empty | .place _ => true
  | .literal bytes => bytes.isEmpty
  | .scalar _ | .byte _ => false
  | .group _ body => body.isWidthless
  | .sequence parts => areWidthless parts
  | .choice branches => areWidthless branches
  | .repeated _ most _ body => most == some 0 || (most.isSome && body.isWidthless)

def areWidthless : List Expression → Bool
  | [] => true
  | e :: rest => e.isWidthless && areWidthless rest

end

mutual

/-- The least number of bytes that the expression takes up, counting a scalar as one. It is not known where
something can never match. -/
def shortest : Expression → Option Nat
  | .empty | .place _ => some 0
  | .literal bytes => some bytes.length
  | .scalar set | .byte set => if set.ranges.isEmpty then none else some 1
  | .group _ body => body.shortest
  | .sequence parts => shortestOfAll parts
  | .choice branches => shortestOfAny branches
  | .repeated least _ _ body => body.shortest.map (least * ·)

def shortestOfAll : List Expression → Option Nat
  | [] => some 0
  | e :: rest => do return (← e.shortest) + (← shortestOfAll rest)

def shortestOfAny : List Expression → Option Nat
  | [] => none
  | [e] => e.shortest
  | e :: rest => do return min (← e.shortest) (← shortestOfAny rest)

end

/-! ### Places at the ends -/

mutual

def opensWith (p : Place) : Expression → Bool
  | .place q => q == p
  | .group _ body => body.opensWith p
  | .sequence parts => sequenceOpens p parts
  | .choice branches => choiceOpens p branches
  | .repeated least _ _ body => 0 < least && body.opensWith p
  | _ => false

def sequenceOpens (p : Place) : List Expression → Bool
  | [] => false
  | e :: rest => e.opensWith p || (e.isWidthless && sequenceOpens p rest)

def choiceOpens (p : Place) : List Expression → Bool
  | [] => true
  | e :: rest => e.opensWith p && choiceOpens p rest

end

mutual

def closesWith (p : Place) : Expression → Bool
  | .place q => q == p
  | .group _ body => body.closesWith p
  | .sequence parts => sequenceCloses p parts
  | .choice branches => choiceCloses p branches
  | .repeated least _ _ body => 0 < least && body.closesWith p
  | _ => false

def sequenceCloses (p : Place) : List Expression → Bool
  | [] => false
  | e :: rest => sequenceCloses p rest || (areWidthless rest && e.closesWith p)

def choiceCloses (p : Place) : List Expression → Bool
  | [] => true
  | e :: rest => e.closesWith p && choiceCloses p rest

end

/-! ### Construction -/

mutual

def same : Expression → Expression → Bool
  | .empty, .empty => true
  | .literal a, .literal b => a == b
  | .scalar a, .scalar b => a.ranges == b.ranges
  | .byte a, .byte b => a.ranges == b.ranges
  | .place p, .place q => p == q
  | .group m a, .group n b => m == n && a.same b
  | .sequence as, .sequence bs => sameAll as bs
  | .choice as, .choice bs => sameAll as bs
  | .repeated l m g a, .repeated l' m' g' b => l == l' && m == m' && g == g' && a.same b
  | _, _ => false

def sameAll : List Expression → List Expression → Bool
  | [], [] => true
  | a :: as, b :: bs => a.same b && sameAll as bs
  | _, _ => false

end

def never : Expression := .byte .empty

def ofChar (c : Char) : Expression := .literal (String.utf8EncodeChar c)

def ofScalars (set : CodeRanges) : Expression :=
  let set := set.scalars
  if set.ranges.isEmpty then never
  else match set.only? with
    | some n => ofChar (Char.ofNat n)
    | none => .scalar set

def ofByteSet (set : CodeRanges) : Expression :=
  match set.only? with
  | some n => .literal [n.toUInt8]
  | none => .byte set

/-- The parts of a sequence; any other expression is its own only part. -/
def parts : Expression → List Expression
  | .empty => []
  | .sequence parts => parts
  | e => [e]

def prepend : Expression → List Expression → List Expression
  | .literal a, .literal b :: rest => .literal (a ++ b) :: rest
  | e, rest => e :: rest

def join (es : List Expression) : Expression :=
  match (es.flatMap parts).foldr prepend [] with
  | [] => .empty
  | [e] => e
  | es => .sequence es

/-- The branches of a choice; any other expression is its own only branch. -/
def branches : Expression → List Expression
  | .choice branches => branches
  | e => [e]

def scalarLiteral? : Expression → Option CodeRanges
  | .literal bytes => do
    let (c, n) ← scalarAt? bytes
    if n = bytes.length then some (.single c.toNat) else none
  | _ => none

def byteLiteral? : Expression → Option CodeRanges
  | .literal [b] => some (.single b.toNat)
  | _ => none

def scalarSet? : Expression → Option CodeRanges
  | .scalar set => some set
  | .byte set => if set.isBelow 0x80 then some set else none
  | _ => none

def byteSet? : Expression → Option CodeRanges
  | .byte set => some set
  | .scalar set => if set.isBelow 0x80 then some set else none
  | _ => none

def unionBy? (f : Expression → Option CodeRanges) (es : List Expression) : Option CodeRanges :=
  (es.mapM f).map fun sets => .ofList (sets.flatMap fun set => set.ranges.toList)

def asSet? (es : List Expression) : Option Expression :=
  ((unionBy? scalarLiteral? es).map ofScalars <|> (unionBy? byteLiteral? es).map ofByteSet) <|>
    ((unionBy? scalarSet? es).map ofScalars <|> (unionBy? byteSet? es).map ofByteSet)

def sharedParts : List Expression → List Expression → Nat
  | a :: as, b :: bs => if a.same b then sharedParts as bs + 1 else 0
  | _, _ => 0

def sharedByAll : List Expression → Nat
  | .sequence first :: rest =>
    rest.foldl (fun n e =>
      match e with
      | .sequence parts => min n (sharedParts first parts)
      | _ => 0) first.length
  | _ => 0

/-- One of several expressions, with beginnings that are shared up to `fuel` times taken out. -/
def factored (fuel : Nat) (es : List Expression) : Expression :=
  match es.flatMap branches with
  | [] => never
  | [e] => e
  | first :: rest =>
    match asSet? (first :: rest) with
    | some e => e
    | none =>
      match fuel, sharedByAll (first :: rest) with
      | fuel + 1, n + 1 =>
        let rests := (first :: rest).map fun e => join (e.parts.drop (n + 1))
        join (first.parts.take (n + 1) ++ [factored fuel rests])
      | _, _ => .choice (first :: rest)

def oneOf (es : List Expression) : Expression := factored (weightAll es) es

/-- An expression repeated. One that takes up nothing need not be repeated more than once. -/
def times (least : Nat) (most : Option Nat) (greedy : Bool) (body : Expression) : Expression :=
  let (least, most) :=
    if body.isWidthless then (min least 1, some (min (most.getD 1) 1)) else (least, most)
  if most == some 0 then .empty
  else if least == 1 && most == some 1 then body
  else .repeated least most greedy body

end Lexicon.Expression
