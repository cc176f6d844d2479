import Lexicon.Json.Literal

namespace Lexicon.Json

inductive Shape where
  | null
  | boolean
  | number
  | text
  deriving DecidableEq, Repr

inductive Lexeme where
  | openBrace
  | closeBrace
  | openBracket
  | closeBracket
  | comma
  | colon
  | leaf (v : Value)
  | broken (shape : Shape) (fault : Fault)
  | stray

structure Token where
  lexeme : Lexeme
  start : Mark
  next : Mark
  stop : Mark

def isBlank (c : Char) : Bool := c == ' ' || c == '\n' || c == '\t' || c == '\r'

/-- Reads the rest of a word: how many characters it has, or after how many bytes it goes wrong. -/
def scanWord (taken : Nat) : (word cs : List Char) → Except Slip Nat
  | [], _ => .ok taken
  | _ :: _, [] => .error ⟨.unfinishedValue, taken⟩
  | w :: word, c :: rest => if c == w then scanWord (taken + 1) word rest else .error ⟨.expectedWord, taken + 1⟩

/-- What a scan yields: a lexeme and the number of its characters after the first. -/
def Lexeme.ofScan (m : Mark) (cs : List Char) (shape : Shape) : Except Slip (Value × Nat) → Lexeme × Nat
  | .ok (v, taken) => (.leaf v, taken - 1)
  | .error slip => (.broken shape ⟨slip.cause, some (m.further slip.offset cs)⟩, 0)

/-- The lexeme that starts with `c`, and the number of its characters after that one. -/
def Lexeme.scan (m : Mark) (c : Char) (rest : List Char) : Lexeme × Nat :=
  let word (shape : Shape) (v : Value) (tail : String) :=
    ofScan m (c :: rest) shape ((scanWord 1 tail.toList rest).map fun taken => (v, taken))
  if c == '\x7b' then (.openBrace, 0)
  else if c == '\x7d' then (.closeBrace, 0)
  else if c == '[' then (.openBracket, 0)
  else if c == ']' then (.closeBracket, 0)
  else if c == ',' then (.comma, 0)
  else if c == ':' then (.colon, 0)
  else if c == '"' then
    ofScan m (c :: rest) .text ((Literal.read 1 rest).map fun (cs, taken) => (.text (String.ofList cs), taken + 1))
  else if c == '-' || c.isDigit then ofScan m (c :: rest) .number (Number.scan c rest)
  else if c == 'n' then word .null .null "ull"
  else if c == 't' then word .boolean (.boolean true) "rue"
  else if c == 'f' then word .boolean (.boolean false) "alse"
  else (.stray, 0)

def tokensFrom (m : Mark) : List Char → List Token
  | [] => []
  | c :: rest =>
    if isBlank c then tokensFrom (m.pastChar c) rest
    else
      let (lexeme, more) := Lexeme.scan m c rest
      let stop := m.past (c :: rest.take more)
      let token : Token := ⟨lexeme, m, m.further 1 (c :: rest), stop⟩
      match lexeme with
      | .broken .. => [token]
      | _ => token :: tokensFrom stop (rest.drop more)
termination_by cs => cs.length
decreasing_by
  all_goals simp only [List.length_drop, List.length_cons]
  all_goals omega

end Lexicon.Json
