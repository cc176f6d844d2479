import Lexicon.Json.Value

/-!
Number literals. The digits that fit into 64 bits make up the significand; later digits count only for the
exponent. A literal with a fraction, an exponent, a negative zero or too many digits is a real number, and one that
no finite float can hold is out of range.
-/
namespace Lexicon.Json

structure Slip where
  cause : Cause
  offset : Nat

/-- The digits of a number so far, as `significand * 10 ^ exponent`. Once a digit no longer fits, the number is
full. -/
structure Significand where
  significand : Nat
  exponent : Int
  full : Bool

namespace Significand

def empty : Significand := ⟨0, 0, false⟩

def overflows (n : Nat) (c : Char) : Bool := decide (UInt64.size ≤ n * 10 + Text.digitValue c)

def pushWhole (s : Significand) (c : Char) : Significand :=
  if s.full || overflows s.significand c then ⟨s.significand, s.exponent + 1, true⟩
  else ⟨s.significand * 10 + Text.digitValue c, s.exponent, false⟩

def pushFraction (s : Significand) (c : Char) : Significand :=
  if s.full || overflows s.significand c then ⟨s.significand, s.exponent, true⟩
  else ⟨s.significand * 10 + Text.digitValue c, s.exponent - 1, false⟩

end Significand

def powerOfTen (n : Nat) : Float := Float.ofScientific 1 false n

/-- `x * 10 ^ exponent`, stepwise where the power itself is no float; `none` if it is too large. -/
def scaleByTen (x : Float) (exponent : Int) : (steps : Nat) → Option Float
  | 0 => some x
  | steps + 1 =>
    if 0 ≤ exponent then
      if exponent ≤ 308 then
        let y := x * powerOfTen exponent.toNat
        if y.isInf then none else some y
      else if x == 0 then some x else none
    else if -308 ≤ exponent then some (x / powerOfTen (-exponent).toNat)
    else if x == 0 then some x
    else scaleByTen (x / powerOfTen 308) (exponent + 308) steps

def Significand.real? (s : Significand) (exponent : Int) : Option Float :=
  let exponent := s.exponent + exponent
  scaleByTen (UInt64.ofNat s.significand).toFloat exponent (exponent.natAbs / 308 + 2)

def readDecimal (ds : List Char) : Nat := ds.foldl (fun n c => n * 10 + Text.digitValue c) 0

/-- The largest exponent that is read as it stands. -/
def lastExponent : Nat := 0x7FFFFFFF

namespace Number

def signed (negative : Bool) (x : Float) : Float := if negative then -x else x

def real (negative : Bool) (taken : Nat) : Option Float → Except Slip (Value × Nat)
  | some x => .ok (.real (signed negative x), taken)
  | none => .error ⟨.numberOutOfRange, taken⟩

/-- The number of digits after which an exponent that starts with `value` is too large. -/
def longExponent? (value taken : Nat) : List Char → Option Nat
  | [] => none
  | c :: rest =>
    let value := value * 10 + Text.digitValue c
    if lastExponent < value then some (taken + 1) else longExponent? value (taken + 1) rest

/-- Reads an exponent behind its letter; `taken` characters of the literal come before. -/
def scanExponent (negative : Bool) (s : Significand) (taken : Nat) (cs : List Char) : Except Slip (Value × Nat) :=
  let (down, sign) := match cs with
    | '+' :: _ => (false, 1)
    | '-' :: _ => (true, 1)
    | _ => (false, 0)
  let rest := cs.drop sign
  let ds := rest.takeWhile Char.isDigit
  let taken := taken + sign
  if ds.isEmpty then
    .error ⟨if rest.isEmpty then .unfinishedValue else .invalidNumber, taken + 1⟩
  else
    match longExponent? 0 0 ds with
    | some n =>
      if s.significand ≠ 0 ∧ !down then .error ⟨.numberOutOfRange, taken + n⟩
      else .ok (.real (signed negative 0), taken + ds.length)
    | none =>
      let exponent : Int := readDecimal ds
      real negative (taken + ds.length) (s.real? (if down then -exponent else exponent))

def scanRest (negative : Bool) (s : Significand) (taken : Nat) (cs : List Char) : Except Slip (Value × Nat) :=
  match cs with
  | '.' :: rest =>
    let ds := rest.takeWhile Char.isDigit
    let taken := taken + 1 + ds.length
    if ds.isEmpty then
      .error ⟨if rest.isEmpty then .unfinishedValue else .invalidNumber, taken + 1⟩
    else
      let s := ds.foldl Significand.pushFraction ⟨s.significand, s.exponent, false⟩
      match rest.drop ds.length with
      | 'e' :: rest | 'E' :: rest => scanExponent negative s (taken + 1) rest
      | _ => real negative taken (s.real? 0)
  | 'e' :: rest | 'E' :: rest => scanExponent negative s (taken + 1) rest
  | _ =>
    if s.full then real negative taken (s.real? 0)
    else if !negative then .ok (.integer s.significand, taken)
    else if 0 < s.significand ∧ s.significand ≤ 0x8000000000000000 then .ok (.integer (-s.significand), taken)
    else .ok (.real (signed true (UInt64.ofNat s.significand).toFloat), taken)

/-- Reads a number literal behind its sign; the answer tells how many characters it takes, the sign included. -/
def scanUnsigned (negative : Bool) (taken : Nat) (cs : List Char) : Except Slip (Value × Nat) :=
  match cs with
  | [] => .error ⟨.unfinishedValue, taken⟩
  | c :: rest =>
    if c == '0' then
      if (rest.head?).any Char.isDigit then .error ⟨.invalidNumber, taken + 2⟩
      else scanRest negative .empty (taken + 1) rest
    else if c.isDigit then
      let ds := cs.takeWhile Char.isDigit
      scanRest negative (ds.foldl Significand.pushWhole .empty) (taken + ds.length) (cs.drop ds.length)
    else .error ⟨.invalidNumber, taken + 1⟩

def scan (c : Char) (rest : List Char) : Except Slip (Value × Nat) :=
  if c == '-' then scanUnsigned true 1 rest else scanUnsigned false 0 (c :: rest)

end Number

end Lexicon.Json
