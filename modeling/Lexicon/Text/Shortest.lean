import Lexicon.Text.Hex

namespace Lexicon.Text.Shortest

/-- A positive number `significand * 2 ^ exponent`, with the interval of what rounds to it in quarters of a unit of
the significand. -/
structure Binary where
  significand : Nat
  exponent : Int
  closed : Bool
  narrow : Bool

def hiddenBit : Nat := 0x10000000000000

def Binary.ofBits (bits : UInt64) : Binary :=
  let fraction : Nat := bits.toNat % hiddenBit
  let field : Nat := bits.toNat / hiddenBit % 2048
  if field = 0 then ⟨fraction, -1074, fraction % 2 == 0, false⟩
  else ⟨hiddenBit + fraction, (field : Int) - 1075, fraction % 2 == 0, fraction == 0 && decide (1 < field)⟩

structure Decimal where
  digits : Nat
  exponent : Int
  deriving DecidableEq, Repr

def scaled (a : Nat) (p : Int) (d : Nat) (e : Int) : Nat × Nat :=
  (a * Nat.pow 2 p.toNat * Nat.pow 10 (-e).toNat, d * Nat.pow 10 e.toNat * Nat.pow 2 (-p).toNat)

def Binary.admits (b : Binary) (d : Decimal) : Bool :=
  let low := 4 * b.significand - (if b.narrow then 1 else 2)
  let (low, x) := scaled low (b.exponent - 2) d.digits d.exponent
  let (high, _) := scaled (4 * b.significand + 2) (b.exponent - 2) d.digits d.exponent
  if b.closed then low ≤ x && x ≤ high else low < x && x < high

def Binary.distance (b : Binary) (d : Decimal) : Nat :=
  let (x, y) := scaled b.significand b.exponent d.digits d.exponent
  if x ≤ y then y - x else x - y

def Binary.magnitude (b : Binary) : Int :=
  let atLeast (k : Int) : Bool :=
    let (x, y) := scaled b.significand b.exponent 1 k
    y ≤ x
  let guess : Int := (b.exponent + Nat.log2 b.significand) * 30103 / 100000
  if atLeast (guess + 1) then guess + 1 else if atLeast guess then guess else guess - 1

/-- The candidate with `n` digits, if one reads back: the neighbour below or above on that grid. -/
def Binary.candidate? (b : Binary) (n : Nat) : Option Decimal :=
  let e := b.magnitude - n + 1
  let (x, unit) := scaled b.significand b.exponent 1 e
  let below : Decimal := ⟨x / unit, e⟩
  let above : Decimal := ⟨x / unit + 1, e⟩
  match b.admits below, b.admits above with
  | true, true => some (if b.distance above < b.distance below then above else below)
  | true, false => some below
  | false, true => some above
  | false, false => none

def Decimal.trimmed (fuel : Nat) (d : Decimal) : Decimal :=
  match fuel with
  | 0 => d
  | fuel + 1 => if d.digits % 10 = 0 ∧ d.digits ≠ 0 then trimmed fuel ⟨d.digits / 10, d.exponent + 1⟩ else d

/-- The shortest decimal number that reads back. Seventeen digits always do. -/
def Binary.shortest (b : Binary) : Decimal :=
  (((List.range 17).findSome? fun i => b.candidate? (i + 1)).getD ⟨0, 0⟩).trimmed 18

/-- A decimal number as text: positional while the point is at most sixteen places to the right or four to the
left of the digits, and with an exponent, which has a sign, otherwise. -/
def Decimal.text (d : Decimal) : String :=
  let ds := Nat.toDigits 10 d.digits
  let point := ds.length + d.exponent
  if 0 ≤ d.exponent ∧ point ≤ 16 then
    String.ofList (ds ++ List.replicate d.exponent.toNat '0' ++ ['.', '0'])
  else if 0 < point ∧ point ≤ 16 then
    String.ofList (ds.take point.toNat ++ '.' :: ds.drop point.toNat)
  else if -5 < point ∧ point ≤ 0 then
    String.ofList ("0.".toList ++ List.replicate (-point).toNat '0' ++ ds)
  else
    let tail := match ds.tail with
      | [] => []
      | rest => '.' :: rest
    String.ofList (ds.take 1 ++ tail) ++ (if 0 < point then "e+" else "e") ++ toString (point - 1)

def text (x : Float) : String :=
  let bits := x.toBits
  let magnitude := bits &&& 0x7FFFFFFFFFFFFFFF
  (if magnitude = bits then "" else "-")
    ++ (if magnitude = 0 then "0.0" else (Binary.ofBits magnitude).shortest.text)

end Lexicon.Text.Shortest
