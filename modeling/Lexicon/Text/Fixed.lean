import Lexicon.Text.Shortest

namespace Lexicon.Text.Fixed

open Shortest (Binary)

/-- The integer nearest to a quotient; of two that are equally near, the even one. -/
def roundedQuotient (a b : Nat) : Nat :=
  let q := a / b
  let r := a % b
  if b < 2 * r || (2 * r == b && q % 2 == 1) then q + 1 else q

def scaledInteger (significand : Nat) (p e : Int) : Nat :=
  roundedQuotient (significand * Nat.pow 2 p.toNat * Nat.pow 10 e.toNat) (Nat.pow 2 (-p).toNat * Nat.pow 10 (-e).toNat)

def atPlaces (b : Binary) (places : Nat) : Nat := scaledInteger b.significand b.exponent places

def scientific (b : Binary) (places : Nat) : Nat × Int :=
  if b.significand = 0 then (0, 0)
  else
    let k := b.magnitude
    let n := scaledInteger b.significand b.exponent (places - k)
    if n = Nat.pow 10 (places + 1) then (Nat.pow 10 places, k + 1) else (n, k)

def pointed (places n : Nat) (always : Bool) : String :=
  let digits := padStart (places + 1) '0' (Nat.toDigits 10 n)
  let whole := String.ofList (digits.take (digits.length - places))
  if places = 0 then (if always then whole ++ "." else whole)
  else whole ++ "." ++ String.ofList (digits.drop (digits.length - places))

def powerText (k : Int) : String :=
  (if k < 0 then "e-" else "e+") ++ String.ofList (padStart 2 '0' (Nat.toDigits 10 k.natAbs))

def stripped (s : String) : String :=
  if s.toList.contains '.' then
    let cs := s.toList.reverse.dropWhile (· == '0')
    String.ofList (if cs.head? == some '.' then cs.tail else cs).reverse
  else s

def fixedText (b : Binary) (places : Nat) (alternate : Bool) : String := pointed places (atPlaces b places) alternate

def scientificText (b : Binary) (places : Nat) (alternate : Bool) : String :=
  let (n, k) := scientific b places
  pointed places n alternate ++ powerText k

def generalText (b : Binary) (digits : Nat) (alternate : Bool) : String :=
  let digits := max digits 1
  let (n, k) := scientific b (digits - 1)
  let strip (s : String) : String := if alternate then s else stripped s
  if -4 ≤ k && k < digits then
    let places := ((digits : Int) - 1 - k).toNat
    strip (fixedText b places alternate)
  else strip (pointed (digits - 1) n alternate) ++ powerText k

def hexText (b : Binary) (places : Option Nat) (alternate : Bool) : String :=
  let isNormal := Shortest.hiddenBit ≤ b.significand
  let power : Int := if b.significand = 0 then 0 else b.exponent + 52
  let (lead, fraction) := match places with
    | none => (if isNormal then 1 else 0, b.significand % Shortest.hiddenBit)
    | some n =>
      let kept := min n 13
      let unit := Nat.pow 16 (13 - kept)
      let rounded := roundedQuotient b.significand unit * unit
      (rounded / Shortest.hiddenBit, rounded % Shortest.hiddenBit)
  let digits := padStart 13 '0' (Nat.toDigits 16 fraction)
  let shown := match places with
    | none => (digits.reverse.dropWhile (· == '0')).reverse
    | some n => digits.take n ++ List.replicate (n - 13) '0'
  "0x" ++ toString lead ++ (if shown.isEmpty && !alternate then "" else ".") ++ String.ofList shown
    ++ (if power < 0 then "p-" else "p+") ++ toString power.natAbs

end Lexicon.Text.Fixed
