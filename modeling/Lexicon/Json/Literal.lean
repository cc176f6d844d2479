import Lexicon.Json.Number

namespace Lexicon.Json.Literal

def shortEscape? (c : Char) : Option Char :=
  if c == '"' || c == '\\' || c == '/' then some c
  else if c == 'b' then some '\x08'
  else if c == 'f' then some '\x0c'
  else if c == 'n' then some '\n'
  else if c == 'r' then some '\r'
  else if c == 't' then some '\t'
  else none

def isHex (c : Char) : Bool := c.isDigit || ('a' ≤ c && c ≤ 'f') || ('A' ≤ c && c ≤ 'F')

def byteCount (cs : List Char) : Nat := cs.foldr (fun c n => c.utf8Size + n) 0

/-- Reads four digits of base sixteen, `offset` bytes into the literal. Four bytes are looked at, whatever
characters they belong to. -/
def readUnit (offset : Nat) (cs : List Char) : Except Slip Nat :=
  if byteCount (cs.take 4) < 4 then .error ⟨.unfinishedText, offset + 4⟩
  else if (cs.take 4).all isHex then .ok (Text.readHex (cs.take 4))
  else .error ⟨.invalidEscape, offset + 4⟩

/-- Reads an escape by number behind its letter: the character, and how many characters spell it. -/
def readUnicode (offset : Nat) (cs : List Char) : Except Slip (Char × Nat) := do
  let first ← readUnit offset cs
  if 0xDC00 ≤ first ∧ first ≤ 0xDFFF then .error ⟨.loneSurrogate, offset + 4⟩
  else if first < 0xD800 ∨ 0xDBFF < first then .ok (Char.ofNat first, 4)
  else
    match cs.drop 4 with
    | [] => .error ⟨.unfinishedText, offset + 4⟩
    | '\\' :: [] => .error ⟨.unfinishedText, offset + 5⟩
    | '\\' :: 'u' :: rest =>
      let second ← readUnit (offset + 6) rest
      if 0xDC00 ≤ second ∧ second ≤ 0xDFFF then
        .ok (Char.ofNat (0x10000 + (first - 0xD800) * 0x400 + (second - 0xDC00)), 10)
      else .error ⟨.loneSurrogate, offset + 10⟩
    | '\\' :: _ => .error ⟨.unfinishedSurrogate, offset + 6⟩
    | _ => .error ⟨.unfinishedSurrogate, offset + 5⟩

def readEscape (offset : Nat) : List Char → Except Slip (Char × Nat)
  | [] => .error ⟨.unfinishedText, offset⟩
  | c :: rest =>
    match shortEscape? c with
    | some escaped => .ok (escaped, 1)
    | none =>
      if c == 'u' then (readUnicode (offset + 1) rest).map fun (escaped, n) => (escaped, n + 1)
      else .error ⟨.invalidEscape, offset + 1⟩

/-- Reads a literal behind its opening quote: the text, and how many characters follow up to the closing quote,
with that quote. -/
def read (offset : Nat) : List Char → Except Slip (List Char × Nat)
  | [] => .error ⟨.unfinishedText, offset⟩
  | c :: rest =>
    if c == '"' then .ok ([], 1)
    else if c == '\\' then
      match readEscape (offset + 1) rest with
      | .error e => .error e
      | .ok (escaped, n) =>
        match read (offset + 1 + n) (rest.drop n) with
        | .error e => .error e
        | .ok (text, taken) => .ok (escaped :: text, n + 1 + taken)
    else if c.toNat < 0x20 then .error ⟨.controlCharacter, offset + 1⟩
    else
      match read (offset + c.utf8Size) rest with
      | .error e => .error e
      | .ok (text, taken) => .ok (c :: text, taken + 1)
termination_by cs => cs.length
decreasing_by
  all_goals simp only [List.length_drop, List.length_cons]
  all_goals omega

def writeChar (c : Char) : List Char :=
  if c == '"' then ['\\', '"']
  else if c == '\\' then ['\\', '\\']
  else if c == '\x08' then ['\\', 'b']
  else if c == '\x0c' then ['\\', 'f']
  else if c == '\n' then ['\\', 'n']
  else if c == '\r' then ['\\', 'r']
  else if c == '\t' then ['\\', 't']
  else if c.toNat < 0x20 then '\\' :: 'u' :: Text.padStart 4 '0' (Nat.toDigits 16 c.toNat)
  else [c]

def write (s : String) : String := String.ofList ('"' :: s.toList.flatMap writeChar ++ ['"'])

end Lexicon.Json.Literal
