import Lexicon.Pattern.Automaton
import Lexicon.Pattern.Reader
import Lexicon.Text.Bytes

/-!
Matching by sets of places. An expression leads from the places where a match may begin to those where it may
end; a pattern matches if it leads from some place to some place. Sets of places are ascending lists.
-/
namespace Lexicon.Pattern

open Text Text.Unicode

abbrev Haystack := Array UInt8

def Haystack.window (h : Haystack) (i : Nat) : Bytes := (h.extract i (i + 4)).toList

def Haystack.scalarAt? (h : Haystack) (i : Nat) : Option (Char × Nat) := Text.scalarAt? (h.window i)

def isContinuation (b : UInt8) : Bool := 0x80 ≤ b && b < 0xC0

/-- The place at which the scalar before `i` would begin, at most `steps` bytes further back. -/
def Haystack.scalarStart (h : Haystack) : (steps : Nat) → (i : Nat) → Nat
  | 0, i => i
  | steps + 1, i => if 0 < i && (h[i]?).any isContinuation then h.scalarStart steps (i - 1) else i

def Haystack.scalarBefore? (h : Haystack) (i : Nat) : Option Char :=
  if i = 0 then none
  else
    let start := h.scalarStart 3 (i - 1)
    (Text.scalarAt? ((h.extract start i).toList)).map (·.1)

def isWordByte (b : UInt8) : Bool :=
  (0x30 ≤ b && b ≤ 0x39) || (0x41 ≤ b && b ≤ 0x5A) || b == 0x5F || (0x61 ≤ b && b ≤ 0x7A)

inductive Side where
  | word
  | other
  /-- Bytes that are no scalar, where scalars are expected. -/
  | illFormed
  deriving DecidableEq

def Side.ofScalar : Option Char → Side
  | some c => if wordCharacter.contains c.toNat then .word else .other
  | none => .illFormed

def Side.ofByte : Option UInt8 → Side
  | some b => if isWordByte b then .word else .other
  | none => .other

def Haystack.before (h : Haystack) (unicode : Bool) (i : Nat) : Side :=
  if i = 0 then .other else if unicode then .ofScalar (h.scalarBefore? i) else .ofByte h[i - 1]?

def Haystack.behind (h : Haystack) (unicode : Bool) (i : Nat) : Side :=
  if h.size ≤ i then .other else if unicode then .ofScalar ((h.scalarAt? i).map (·.1)) else .ofByte h[i]?

def Haystack.holds (h : Haystack) (i : Nat) : Place → Bool
  | .textStart => i == 0
  | .textEnd => i == h.size
  | .lineStart => i == 0 || h[i - 1]? == some 10
  | .lineEnd => i == h.size || h[i]? == some 10
  | .anyLineStart => i == 0 || h[i - 1]? == some 10 || (h[i - 1]? == some 13 && h[i]? != some 10)
  | .anyLineEnd =>
    i == h.size || h[i]? == some 13 || (h[i]? == some 10 && (i == 0 || h[i - 1]? != some 13))
  | .wordBoundary u => (h.before u i == .word) != (h.behind u i == .word)
  | .noWordBoundary u =>
    h.before u i != .illFormed && h.behind u i != .illFormed && h.before u i == h.behind u i
  | .wordStart u => h.before u i != .word && h.behind u i == .word
  | .wordEnd u => h.before u i == .word && h.behind u i != .word
  | .wordStartHalf u => h.before u i == .other
  | .wordEndHalf u => h.behind u i == .other

def mergePlaces : List Nat → List Nat → List Nat
  | [], js => js
  | is, [] => is
  | i :: is, j :: js =>
    if i < j then i :: mergePlaces is (j :: js)
    else if j < i then j :: mergePlaces (i :: is) js
    else i :: mergePlaces is js
termination_by is js => is.length + js.length

/-- The places that are found by going on from `frontier` for as long as new ones turn up. -/
def closure (f : List Nat → List Nat) : (fuel : Nat) → (found : Array Bool) → (frontier : List Nat) → Array Bool
  | 0, found, _ => found
  | fuel + 1, found, frontier =>
    let fresh := (f frontier).filter fun i => found[i]? == some false
    if fresh.isEmpty then found else closure f fuel (fresh.foldl (fun a i => a.setIfInBounds i true) found) fresh

def rounds (f : List Nat → List Nat) : (count : Nat) → (found : List Nat) → List Nat → List Nat
  | 0, found, _ => found
  | count + 1, found, places =>
    let next := f places
    if next.isEmpty || next == places then found else rounds f count (mergePlaces found next) next

def Haystack.standAt (h : Haystack) : Nat → List UInt8 → Bool
  | _, [] => true
  | i, b :: rest => h[i]? == some b && h.standAt (i + 1) rest

/-- The places reached by exactly `count` rounds. A round that leads nowhere else ends the count. -/
def iterate (f : List Nat → List Nat) : (count : Nat) → List Nat → List Nat
  | 0, places => places
  | count + 1, places =>
    let next := f places
    if next == places then places else iterate f count next

mutual

def reach (h : Haystack) : Expression → List Nat → List Nat
  | .empty, places => places
  | .literal bytes, places => places.filterMap fun i =>
    if h.standAt i bytes then some (i + bytes.length) else none
  | .scalar set, places => places.filterMap fun i =>
    match h.scalarAt? i with
    | some (c, n) => if set.contains c.toNat then some (i + n) else none
    | none => none
  | .byte set, places => places.filterMap fun i =>
    match h[i]? with
    | some b => if set.contains b.toNat then some (i + 1) else none
    | none => none
  | .place p, places => places.filter fun i => h.holds i p
  | .group _ body, places => reach h body places
  | .sequence parts, places => reachThrough h parts places
  | .choice branches, places => reachAny h branches places
  | .repeated least most _ body, places =>
    let start := iterate (reach h body) least places
    match most with
    | some most => rounds (reach h body) (most - least) start start
    | none =>
      let marked := start.foldl (fun a i => a.setIfInBounds i true) (Array.replicate (h.size + 1) false)
      let found := closure (reach h body) (h.size + 1) marked start
      (List.range (h.size + 1)).filter fun i => found[i]? == some true

def reachThrough (h : Haystack) : List Expression → List Nat → List Nat
  | [], places => places
  | e :: rest, places => reachThrough h rest (reach h e places)

def reachAny (h : Haystack) : List Expression → List Nat → List Nat
  | [], _ => []
  | e :: rest, places => mergePlaces (reach h e places) (reachAny h rest places)

end

end Lexicon.Pattern

namespace Lexicon

/-- A pattern: its text, and what the text says. -/
structure Pattern where
  text : String
  expression : Expression

namespace Pattern

inductive Fault where
  | malformed
  | tooLarge
  deriving DecidableEq, Repr

def Fault.message : Fault → String
  | malformed => "regex parse error"
  | tooLarge => "Compiled regex exceeds size limit of " ++ toString Draft.roomLimit ++ " bytes."

def ofText (text : String) : Except Fault Pattern :=
  match read? text with
  | none => .error .malformed
  | some expression => if fits expression then .ok ⟨text, expression⟩ else .error .tooLarge

def isMatch (p : Pattern) (bytes : Text.Bytes) : Bool :=
  let h : Haystack := bytes.toArray
  !(reach h p.expression (List.range (h.size + 1))).isEmpty

end Pattern

end Lexicon
