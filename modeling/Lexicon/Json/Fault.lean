import Lexicon.Text.Quoted
import Lexicon.Text.Shortest

namespace Lexicon.Json

/-- A place in a text: the line, counted from one, and the bytes before the place on that line. -/
structure Mark where
  line : Nat
  column : Nat
  deriving DecidableEq, Repr

namespace Mark

def start : Mark := ⟨1, 0⟩

def pastChar (m : Mark) (c : Char) : Mark :=
  if c == '\n' then ⟨m.line + 1, 0⟩ else ⟨m.line, m.column + c.utf8Size⟩

def past (m : Mark) (cs : List Char) : Mark := cs.foldl pastChar m

/-- The place that is `n` bytes further, or the end of the text. It may lie inside a character. -/
def further (m : Mark) : (n : Nat) → List Char → Mark
  | 0, _ => m
  | _, [] => m
  | n + 1, c :: rest =>
    if c.utf8Size ≤ n + 1 then further (m.pastChar c) (n + 1 - c.utf8Size) rest
    else ⟨m.line, m.column + n + 1⟩
termination_by _ cs => cs.length

end Mark

inductive Found where
  | null
  | boolean (b : Bool)
  | integer (n : Int)
  | real (x : Float)
  | text (s : String)
  | sequence
  | map

def Found.describe : Found → String
  | null => "null"
  | boolean b => "boolean `" ++ (if b then "true" else "false") ++ "`"
  | integer n => "integer `" ++ toString n ++ "`"
  | real x => "floating point `" ++ Text.Shortest.text x ++ "`"
  | text s => "string " ++ Text.quoted s
  | sequence => "sequence"
  | map => "map"

inductive Cause where
  | unfinishedList
  | unfinishedObject
  | unfinishedText
  | unfinishedValue
  | expectedColon
  | expectedListEnd
  | expectedObjectEnd
  | expectedWord
  | expectedValue
  | expectedKey
  | invalidEscape
  | invalidNumber
  | numberOutOfRange
  | controlCharacter
  | loneSurrogate
  | unfinishedSurrogate
  | trailingComma
  | trailingCharacters
  | tooDeep
  | invalidType (found : Found) (expected : String)
  | invalidLength (length : Nat) (expected : String)
  | missingField (name : String)
  | duplicateField (name : String)
  | unknownField (name : String) (known : List String)
  | unknownVariant (name : String) (known : List String)
  /-- A variant that needs a payload was given by its name alone. -/
  | bareVariant
  /-- None of the forms of an expectation fits. -/
  | noForm (expected : String)
  /-- A text does not spell a pattern; the report says why. -/
  | badPattern (report : String)

def alternatives : List String → String
  | [a] => "`" ++ a ++ "`"
  | [a, b] => "`" ++ a ++ "` or `" ++ b ++ "`"
  | names => "one of " ++ String.intercalate ", " (names.map fun n => "`" ++ n ++ "`")

namespace Cause

def describe : Cause → String
  | unfinishedList => "EOF while parsing a list"
  | unfinishedObject => "EOF while parsing an object"
  | unfinishedText => "EOF while parsing a string"
  | unfinishedValue => "EOF while parsing a value"
  | expectedColon => "expected `:`"
  | expectedListEnd => "expected `,` or `]`"
  | expectedObjectEnd => "expected `,` or `\x7d`"
  | expectedWord => "expected ident"
  | expectedValue => "expected value"
  | expectedKey => "key must be a string"
  | invalidEscape => "invalid escape"
  | invalidNumber => "invalid number"
  | numberOutOfRange => "number out of range"
  | controlCharacter => "control character (\\u0000-\\u001F) found while parsing a string"
  | loneSurrogate => "lone leading surrogate in hex escape"
  | unfinishedSurrogate => "unexpected end of hex escape"
  | trailingComma => "trailing comma"
  | trailingCharacters => "trailing characters"
  | tooDeep => "recursion limit exceeded"
  | invalidType found expected => "invalid type: " ++ found.describe ++ ", expected " ++ expected
  | invalidLength length expected => "invalid length " ++ toString length ++ ", expected " ++ expected
  | missingField name => "missing field `" ++ name ++ "`"
  | duplicateField name => "duplicate field `" ++ name ++ "`"
  | unknownField name known => "unknown field `" ++ name ++ "`, expected " ++ alternatives known
  | unknownVariant name known => "unknown variant `" ++ name ++ "`, expected " ++ alternatives known
  | bareVariant => "invalid type: unit variant, expected newtype variant"
  | noForm expected => "data did not match any variant of untagged enum " ++ expected
  | badPattern report => report

inductive Kind where
  | form
  | data
  | ending
  deriving DecidableEq, Repr

def kind : Cause → Kind
  | unfinishedList | unfinishedObject | unfinishedText | unfinishedValue => .ending
  | invalidType .. | invalidLength .. | missingField _ | duplicateField _ | unknownField .. | unknownVariant ..
  | bareVariant | noForm _ | badPattern _ => .data
  | _ => .form

end Cause

/-- A cause and its place. A cause about data has no place until the reader around it knows one. -/
structure Fault where
  cause : Cause
  mark : Option Mark := none

namespace Fault

def locate (f : Fault) (m : Mark) : Fault := ⟨f.cause, some (f.mark.getD m)⟩

def message (f : Fault) : String :=
  match f.mark with
  | some m => f.cause.describe ++ " at line " ++ toString m.line ++ " column " ++ toString m.column
  | none => f.cause.describe

end Fault

end Lexicon.Json
