import Lexicon.Text.CodeRanges

namespace Lexicon.Shell

def maxInteger : Nat := Nat.pow 2 63 - 1

namespace Numeral

def isBlank (c : Char) : Bool := c == ' ' || ('\t' ≤ c && c ≤ '\r')

def digits (base : Nat) (cs : List Char) : List Char × List Char :=
  cs.span fun c => c.isAlphanum && Text.digitValue c < base

def value (base : Nat) (cs : List Char) : Nat := cs.foldl (fun n c => n * base + Text.digitValue c) 0

/-- A numeral without a sign, and what is left; `none` if there are no digits. -/
def unsigned? (cs : List Char) : Option (Nat × List Char) :=
  let inBase (base : Nat) (cs : List Char) : Option (Nat × List Char) :=
    match digits base cs with
    | ([], _) => none
    | (ds, rest) => some (value base ds, rest)
  match cs with
  | '0' :: x :: rest => if x == 'x' || x == 'X' then inBase 16 rest <|> some (0, x :: rest) else inBase 8 cs
  | _ => inBase 10 cs

def signed? (read : List Char → Option (Nat × List Char)) (cs : List Char) : Option (Int × List Char) :=
  match cs.dropWhile isBlank with
  | '-' :: rest => (read rest).map fun (n, rest) => (-(n : Int), rest)
  | '+' :: rest => (read rest).map fun (n, rest) => ((n : Int), rest)
  | rest => (read rest).map fun (n, rest) => ((n : Int), rest)

def decimal? (cs : List Char) : Option (Nat × List Char) :=
  match digits 10 cs with
  | ([], _) => none
  | (ds, rest) => some (value 10 ds, rest)

def fits (n : Int) : Bool := -(maxInteger : Int) - 1 ≤ n && n ≤ maxInteger

def saturated (n : Int) : Int := max (-(maxInteger : Int) - 1) (min n maxInteger)

def whole? (s : String) : Option Int :=
  match signed? decimal? s.toList with
  | some (n, rest) => if rest.all isBlank && fits n then some n else none
  | none => none

def count? (s : String) : Option Nat :=
  match whole? s with
  | some n => if 0 ≤ n && n < Nat.pow 2 31 then some n.toNat else none
  | none => none

end Numeral

end Lexicon.Shell
