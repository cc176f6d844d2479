import Lexicon.Text.Hex
import Lexicon.Text.Bytes
import Lexicon.Text.CodeRanges
import Lexicon.Text.Unicode.Property

/-!
The bodies of C string literals: how a text is spelt between the quotes, and how a C compiler reads it back.
Quotes, backslashes and the common line controls have short escapes; any other control character is spelt by
an octal escape of at least three digits.
-/
namespace Lexicon.Artifact.Literal

def escapeChar (c : Char) : List Char :=
  if c == '"' then ['\\', '"']
  else if c == '\\' then ['\\', '\\']
  else if c == '\n' then ['\\', 'n']
  else if c == '\t' then ['\\', 't']
  else if c == '\r' then ['\\', 'r']
  else if Text.Unicode.isControl c then '\\' :: Text.padStart 3 '0' (Nat.toDigits 8 c.toNat)
  else [c]

def escape (s : String) : String := String.ofList (s.toList.flatMap escapeChar)

def isOctal (c : Char) : Bool := '0' ≤ c && c ≤ '7'

/-- What a reader of a literal body knows between characters: nothing is open, a backslash is open, or an octal
escape has so many digits left and such a value. -/
inductive Pending where
  | none
  | backslash
  | octal (left value : Nat)
  deriving DecidableEq, Repr

def Pending.flush : Pending → Text.Bytes
  | .octal _ value => [UInt8.ofNat value]
  | _ => []

/-- Reads one character of a body: the bytes that it completes, and what is open afterwards. -/
def readChar (pending : Pending) (c : Char) : Option (Text.Bytes × Pending) :=
  match pending with
  | .backslash =>
    if c == '"' || c == '\\' then some (String.utf8EncodeChar c, .none)
    else if c == 'n' then some ([10], .none)
    else if c == 't' then some ([9], .none)
    else if c == 'r' then some ([13], .none)
    else if isOctal c then some ([], .octal 2 (Text.digitValue c))
    else Option.none
  | .octal (left + 1) value =>
    if isOctal c then
      let value := value * 8 + Text.digitValue c
      if left = 0 then some ([UInt8.ofNat value], .none) else some ([], .octal left value)
    else if c == '"' || c == '\n' then Option.none
    else if c == '\\' then some ([UInt8.ofNat value], .backslash)
    else some (UInt8.ofNat value :: String.utf8EncodeChar c, .none)
  | .octal 0 value => some (UInt8.ofNat value :: String.utf8EncodeChar c, .none)
  | .none =>
    if c == '\\' then some ([], .backslash)
    else if c == '"' || c == '\n' then Option.none
    else some (String.utf8EncodeChar c, .none)

/-- The bytes that a C compiler takes from a literal body; `none` if the body ends early or in the middle of an
escape. -/
def readFrom (pending : Pending) : List Char → Option Text.Bytes
  | [] => if pending = .backslash then Option.none else some pending.flush
  | c :: rest =>
    match readChar pending c with
    | some (bytes, next) => (readFrom next rest).map (bytes ++ ·)
    | Option.none => Option.none

def read (body : String) : Option Text.Bytes := readFrom .none body.toList

end Lexicon.Artifact.Literal
