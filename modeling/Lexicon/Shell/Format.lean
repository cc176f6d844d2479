import Lexicon.Shell.Numeral
import Lexicon.Text.Fixed

namespace Lexicon.Shell

def isOctal (c : Char) : Bool := '0' ≤ c && c ≤ '7'

def octalCharacter (cs : List Char) : Char := Char.ofNat (Numeral.value 8 cs % 256)

def escapeLetters : List (Char × Char) := [
  ('a', '\x07'), ('b', '\x08'), ('e', '\x1b'), ('f', '\x0c'), ('n', '\n'), ('r', '\x0d'), ('t', '\t'), ('v', '\x0b'),
  ('\\', '\\')]

/-- An escape behind its backslash: its character, and how many characters spell it. With `leadingZero`, a zero stands
in front of up to three digits. -/
def escapeAt (leadingZero : Bool) : List Char → Char × Nat
  | c :: rest =>
    match escapeLetters.lookup c with
    | some d => (d, 1)
    | none =>
      if isOctal c then
        let digits := ((c :: rest).take (if leadingZero && c == '0' then 4 else 3)).takeWhile isOctal
        (octalCharacter digits, digits.length)
      else ('\\', 0)
  | [] => ('\\', 0)

def unescape (fuel : Nat) (cs : List Char) : List Char × Bool :=
  match fuel, cs with
  | 0, _ | _, [] => ([], false)
  | _ + 1, '\\' :: 'c' :: _ => ([], true)
  | fuel + 1, '\\' :: rest =>
    let (c, n) := escapeAt true rest
    let (more, ended) := unescape fuel (rest.drop n)
    (c :: more, ended)
  | fuel + 1, c :: rest =>
    let (more, ended) := unescape fuel rest
    (c :: more, ended)

/-- What `echo` prints. Escapes are put in place; `-n` leaves the line break away. -/
def echo (arguments : List String) : String :=
  let (words, line) : List String × List Char := match arguments with
    | "-n" :: rest => (rest, [])
    | all => (all, ['\n'])
  let text := String.intercalate " " words
  let (cs, ended) := unescape text.length text.toList
  String.ofList (if ended then cs else cs ++ line)

structure Conversion where
  left : Bool := false
  zero : Bool := false
  plus : Bool := false
  space : Bool := false
  alternate : Bool := false
  width : Nat := 0
  precision : Option Nat := none

inductive Real where
  | finite (x : Float)
  | infinite
  | notANumber

def realOf (base : Nat) (whole fraction : List Char) (power : Int) : Float :=
  let n := Numeral.value base (whole ++ fraction)
  if base = 16 then
    let shift : Int := power - 4 * fraction.length
    (Float.ofNat n).scaleB shift
  else
    let e : Int := power - fraction.length
    if e < -5000 then 0.0
    else if 0 ≤ e then Float.ofScientific n false (min e.toNat 5000) else Float.ofScientific n true (-e).toNat

/-- Reads a real number behind blanks: its sign, its magnitude, and what is left; `none` if there is none. -/
def readReal? (cs : List Char) : Option (Bool × Real × List Char) :=
  let cs := cs.dropWhile Numeral.isBlank
  let (negative, cs) := match cs with
    | '-' :: rest => (true, rest)
    | '+' :: rest => (false, rest)
    | _ => (false, cs)
  let isWord (word : String) : Bool := word.toList.isPrefixOf (cs.map Char.toLower)
  let numeral (base : Nat) (letter : Char) (cs : List Char) : Option (Real × List Char) :=
    let (whole, rest) := Numeral.digits base cs
    let (fraction, rest) := match rest with
      | '.' :: rest => Numeral.digits base rest
      | _ => ([], rest)
    if whole.isEmpty && fraction.isEmpty then none
    else
      let (power, rest) : Int × List Char := match rest with
        | c :: more =>
          if c.toLower == letter then
            let (sign, digits) := match more with
              | '-' :: digits => (true, digits)
              | '+' :: digits => (false, digits)
              | digits => (false, digits)
            match Numeral.decimal? digits with
            | some (n, rest) => (if sign then -(n : Int) else n, rest)
            | none => (0, rest)
          else (0, rest)
        | [] => (0, rest)
      some (.finite (realOf base whole fraction power), rest)
  if isWord "infinity" then some (negative, .infinite, cs.drop 8)
  else if isWord "inf" then some (negative, .infinite, cs.drop 3)
  else if isWord "nan" then some (negative, .notANumber, cs.drop 3)
  else
    let found := match cs with
      | '0' :: x :: rest => (if x == 'x' || x == 'X' then numeral 16 'p' rest else none) <|> numeral 10 'e' cs
      | _ => numeral 10 'e' cs
    found.map fun (x, rest) => (negative, x, rest)

namespace Conversion

def pad (c : Conversion) (sign digits : String) (zeros : Bool) : String :=
  let length := sign.length + digits.length
  let fill (d : Char) : String := String.ofList (List.replicate (c.width - length) d)
  if c.left then sign ++ digits ++ fill ' '
  else if zeros && c.zero then sign ++ fill '0' ++ digits
  else fill ' ' ++ sign ++ digits

def sign (c : Conversion) (negative : Bool) : String :=
  if negative then "-" else if c.plus then "+" else if c.space then " " else ""

def integer (c : Conversion) (signed : Bool) (base : Nat) (capital : Bool) (n : Int) : String :=
  let magnitude := n.natAbs
  let digits := if magnitude = 0 && c.precision == some 0 then [] else Nat.toDigits base magnitude
  let digits := Text.padStart (c.precision.getD 1) '0' digits
  let digits := if c.alternate && base == 8 && digits.head? != some '0' then '0' :: digits else digits
  let lead := if c.alternate && base == 16 && magnitude != 0 then "0x" else ""
  let text := c.pad ((if signed then c.sign (n < 0) else "") ++ lead) (String.ofList digits) c.precision.isNone
  if capital then text.map Char.toUpper else text

def real (c : Conversion) (letter : Char) (negative : Bool) (x : Real) : String :=
  let places := c.precision.getD 6
  let text := match x with
    | .notANumber => c.pad (c.sign negative) "nan" false
    | .infinite => c.pad (c.sign negative) "inf" false
    | .finite x =>
      if x.isInf then c.pad (c.sign negative) "inf" false
      else
        let b := Text.Shortest.Binary.ofBits x.toBits
        let shown := match letter.toLower with
          | 'f' => Text.Fixed.fixedText b places c.alternate
          | 'e' => Text.Fixed.scientificText b places c.alternate
          | 'g' => Text.Fixed.generalText b places c.alternate
          | _ => Text.Fixed.hexText b c.precision c.alternate
        if letter.toLower == 'a' then c.pad (c.sign negative ++ "0x") (String.ofList (shown.toList.drop 2)) true
        else c.pad (c.sign negative) shown true
  if letter.isUpper then text.map Char.toUpper else text

end Conversion

/-- What has been printed, what arguments are left, and what went wrong. The latest part comes first. -/
structure Printing where
  parts : List String := []
  arguments : List String := []
  taken : Bool := false
  ended : Bool := false
  complaints : List String := []
  failure : Option String := none

namespace Printing

def add (p : Printing) (s : String) : Printing := { p with parts := s :: p.parts }

def text (p : Printing) : String := String.join p.parts.reverse

def next (p : Printing) : Option String × Printing :=
  match p.arguments with
  | a :: rest => (some a, { p with arguments := rest, taken := true })
  | [] => (none, p)

def checkConversion (p : Printing) (a : String) (read : Bool) (rest : List Char) (inRange : Bool) : Printing :=
  let complain (text : String) : Printing := { p with complaints := (a ++ ": " ++ text) :: p.complaints }
  if !read then if a.isEmpty then p else complain "expected numeric value"
  else if !rest.isEmpty then complain "not completely converted"
  else if !inRange then complain "Numerical result out of range"
  else p

def nextInteger (p : Printing) (signed : Bool) : Int × Printing :=
  match p.next with
  | (none, p) => (0, p)
  | (some a, p) =>
    match a.toList with
    | '\'' :: rest | '"' :: rest => ((rest.head?.map fun c => (c.toNat : Int)).getD 0, p)
    | cs =>
      match Numeral.signed? Numeral.unsigned? cs with
      | none => (0, p.checkConversion a false [] true)
      | some (n, rest) =>
        if signed then (Numeral.saturated n, p.checkConversion a true rest (Numeral.fits n))
        else if n.natAbs < Nat.pow 2 64 then (n % Nat.pow 2 64, p.checkConversion a true rest true)
        else (Nat.pow 2 64 - 1, p.checkConversion a true rest false)

def nextReal (p : Printing) : Bool × Real × Printing :=
  match p.next with
  | (none, p) => (false, .finite 0.0, p)
  | (some a, p) =>
    match a.toList with
    | '\'' :: rest | '"' :: rest => (false, .finite (Float.ofNat ((rest.head?.map Char.toNat).getD 0)), p)
    | cs =>
      match readReal? cs with
      | none => (false, .finite 0.0, p.checkConversion a false [] true)
      | some (negative, x, rest) => (negative, x, p.checkConversion a true rest true)

end Printing

def readConversion (p : Printing) (cs : List Char) : Conversion × Printing × List Char :=
  let (flags, cs) := cs.span ['-', '0', '+', ' ', '#'].contains
  let c : Conversion := {
    left := flags.contains '-', zero := flags.contains '0', plus := flags.contains '+'
    space := flags.contains ' ', alternate := flags.contains '#' }
  let amount (p : Printing) (cs : List Char) : Int × Printing × List Char :=
    match cs with
    | '*' :: rest =>
      let (n, p) := p.nextInteger true
      (n, p, rest)
    | _ =>
      let (digits, rest) := Numeral.digits 10 cs
      (Numeral.value 10 digits, p, rest)
  let (width, p, cs) := amount p cs
  let c := { c with left := c.left || decide (width < 0), width := width.natAbs }
  match cs with
  | '.' :: rest =>
    let (precision, p, cs) := amount p rest
    ({ c with precision := if precision < 0 then none else some precision.toNat }, p, cs)
  | _ => (c, p, cs)

/-- Prints one argument by the letter of a conversion; `none` if there is no such letter. -/
def convert? (p : Printing) (c : Conversion) (letter : Char) : Option Printing :=
  let padded (cs : List Char) : String := c.pad "" (String.ofList (match c.precision with
    | some n => cs.take n
    | none => cs)) false
  let integer (signed : Bool) (base : Nat) (capital : Bool) : Printing :=
    let (n, p) := p.nextInteger signed
    p.add (c.integer signed base capital n)
  match letter with
  | 's' =>
    let (a, p) := p.next
    some (p.add (padded (a.getD "").toList))
  | 'b' =>
    let (a, p) := p.next
    let cs := (a.getD "").toList
    let (cs, ended) := unescape cs.length cs
    some { p.add (padded cs) with ended := ended }
  | 'c' =>
    let (a, p) := p.next
    some (p.add (c.pad "" (String.singleton ((a.bind fun a => a.toList.head?).getD '\x00')) false))
  | 'd' | 'i' => some (integer true 10 false)
  | 'u' => some (integer false 10 false)
  | 'o' => some (integer false 8 false)
  | 'x' => some (integer false 16 false)
  | 'X' => some (integer false 16 true)
  | _ =>
    if ['a', 'e', 'f', 'g'].contains letter.toLower then
      let (negative, x, p) := p.nextReal
      some (p.add (c.real letter negative x))
    else none

def printOnce (fuel : Nat) (p : Printing) (cs : List Char) : Printing :=
  match fuel, cs with
  | 0, _ | _, [] => p
  | fuel + 1, '\\' :: rest =>
    let (c, n) := escapeAt false rest
    printOnce fuel (p.add (String.singleton c)) (rest.drop n)
  | fuel + 1, '%' :: '%' :: rest => printOnce fuel (p.add "%") rest
  | fuel + 1, '%' :: rest =>
    let (c, p, after) := readConversion p rest
    match after with
    | letter :: beyond =>
      match convert? p c letter with
      | some p => if p.ended then p else printOnce fuel p beyond
      | none =>
        let directive := '%' :: rest.take (rest.length - beyond.length)
        { p with ended := true, failure := some (String.ofList directive ++ ": invalid directive") }
    | [] => { p with ended := true, failure := some "missing format character" }
  | fuel + 1, c :: rest => printOnce fuel (p.add (String.singleton c)) rest

def printAll (fuel : Nat) (format : String) (p : Printing) : Printing :=
  match fuel with
  | 0 => p
  | fuel + 1 =>
    let p := printOnce format.length { p with taken := false } format.toList
    if p.ended || p.arguments.isEmpty || !p.taken then p else printAll fuel format p

def printf (format : String) (arguments : List String) : Printing :=
  printAll (arguments.length + 1) format { arguments }

end Lexicon.Shell
