import Lexicon.Json.Token

/-!
Documents with their places. A document is read as far as it is well-formed; where it is not, the reading holds
the fault in the place of what is missing, so that a reader who follows the order of the text meets the first thing
that is wrong, be it the form of the text or the data in it.
-/
namespace Lexicon.Json

/-- What an attempt to close a bracket meets: how far it gets, and what is wrong there. -/
structure Ending where
  reached : Mark
  fault : Option Fault

inductive Reading where
  | leaf (value : Value) (token : Token)
  /-- The items, each with an attempt to close the bracket behind it, and what is wrong after the last. -/
  | array (token : Token) (opening : Ending) (items : List (Reading × Ending)) (fault : Option Fault)
  /-- The members, each with an attempt to close the bracket behind the key and one behind the value; also the
  first token behind the opening bracket. -/
  | object (token : Token) (opening : Ending) (first : Option Token)
      (members : List ((String × Ending) × Reading × Ending)) (fault : Option Fault)
  /-- No value can be read here. The token at this place is missing at the end of the text. -/
  | broken (fault : Fault) (token : Option Token)

abbrev Member := (String × Ending) × Reading × Ending

namespace Ending

/-- An attempt to close a list. A comma is passed over, but then something has to follow. -/
def ofList (finish : Mark) : List Token → Ending
  | [] => ⟨finish, some ⟨.unfinishedList, some finish⟩⟩
  | t :: rest =>
    match t.lexeme with
    | .closeBracket => ⟨t.stop, none⟩
    | .comma =>
      match rest with
      | [] => ⟨finish, some ⟨.trailingCharacters, some finish⟩⟩
      | u :: _ =>
        match u.lexeme with
        | .closeBracket => ⟨u.start, some ⟨.trailingComma, some u.next⟩⟩
        | _ => ⟨u.start, some ⟨.trailingCharacters, some u.next⟩⟩
    | _ => ⟨t.start, some ⟨.trailingCharacters, some t.next⟩⟩

/-- An attempt to close an object after its only value. -/
def ofObject (finish : Mark) : List Token → Ending
  | [] => ⟨finish, some ⟨.unfinishedObject, some finish⟩⟩
  | t :: _ =>
    match t.lexeme with
    | .closeBrace => ⟨t.stop, none⟩
    | _ => ⟨t.start, some ⟨.expectedValue, some t.start⟩⟩

end Ending

/-- An open bracket and what has been read behind it, the last item first. An object may have a key that still
waits for its value. -/
inductive Frame where
  | array (token : Token) (opening : Ending) (items : List (Reading × Ending))
  | object (token : Token) (opening : Ending) (first : Option Token) (members : List Member)
      (key : Option (String × Ending))

namespace Frame

def ending (finish : Mark) (tokens : List Token) : Frame → Ending
  | array .. => .ofList finish tokens
  | object .. => .ofObject finish tokens

def push (value : Reading) (ending : Ending) : Frame → Frame
  | array token opening items => .array token opening ((value, ending) :: items)
  | object token opening first members (some key) => .object token opening first ((key, value, ending) :: members) none
  | object token opening first members none => .object token opening first members none

def finish (fault : Option Fault) : Frame → Reading
  | array token opening items => .array token opening items.reverse fault
  | object token opening first members _ => .object token opening first members.reverse fault

end Frame

/-- A whole document: its value, and what is wrong with the text behind it. -/
structure Document where
  root : Reading
  trailing : Option Fault

inductive Expectation where
  | value
  | firstItem
  | firstKey
  | nextKey
  | colon
  | separator
  deriving DecidableEq, Repr

namespace Document

/-- Gives up: the fault closes all open brackets, around a value or without one. -/
def abandon (fault : Fault) (value : Option Reading) : List Frame → Document
  | [] => ⟨value.getD (.broken fault none), none⟩
  | frame :: outer =>
    let frame := match value with
      | some value => frame.push value ⟨.start, some fault⟩
      | none => frame
    abandon fault (some (frame.finish (some fault))) outer

def abandonValue (fault : Fault) (token : Option Token) (stack : List Frame) : Document :=
  abandon fault (some (.broken fault token)) stack

def maxDepth : Nat := 127

def trailingFault : List Token → Option Fault
  | [] => none
  | t :: _ => some ⟨.trailingCharacters, some t.next⟩

/-- Reads tokens. `stack` holds the open brackets, innermost first, and `finish` is the end of the text. -/
def ofTokens (finish : Mark) (expected : Expectation) (stack : List Frame) : List Token → Document
  | [] =>
    match expected, stack with
    | .value, _ => abandonValue ⟨.unfinishedValue, some finish⟩ none stack
    | .firstItem, _ => abandon ⟨.unfinishedList, some finish⟩ none stack
    | .firstKey, _ => abandon ⟨.unfinishedObject, some finish⟩ none stack
    | .nextKey, _ => abandon ⟨.unfinishedValue, some finish⟩ none stack
    | .colon, _ => abandonValue ⟨.unfinishedObject, some finish⟩ none stack
    | .separator, .array .. :: _ => abandon ⟨.unfinishedList, some finish⟩ none stack
    | .separator, _ => abandon ⟨.unfinishedObject, some finish⟩ none stack
  | t :: rest =>
    let complete (value : Reading) (stack : List Frame) : Document :=
      match stack with
      | [] => ⟨value, trailingFault rest⟩
      | frame :: outer => ofTokens finish .separator (frame.push value (frame.ending finish rest) :: outer) rest
    let fault (cause : Cause) : Fault := ⟨cause, some t.next⟩
    match expected with
    | .value | .firstItem =>
      match t.lexeme with
      | .leaf v => complete (.leaf v t) stack
      | .openBracket =>
        if maxDepth ≤ stack.length then abandonValue (fault .tooDeep) (some t) stack
        else ofTokens finish .firstItem (.array t (.ofList finish rest) [] :: stack) rest
      | .openBrace =>
        if maxDepth ≤ stack.length then abandonValue (fault .tooDeep) (some t) stack
        else ofTokens finish .firstKey (.object t (.ofObject finish rest) rest.head? [] none :: stack) rest
      | .broken _ f => abandonValue f (some t) stack
      | .closeBracket =>
        match expected, stack with
        | .firstItem, frame :: outer => complete (frame.finish none) outer
        | _, .array .. :: _ => abandon (fault .trailingComma) none stack
        | _, _ => abandonValue (fault .expectedValue) (some t) stack
      | _ => abandonValue (fault .expectedValue) (some t) stack
    | .firstKey | .nextKey =>
      match t.lexeme, stack with
      | .leaf (.text key), .object token opening first members _ :: outer =>
        ofTokens finish .colon (.object token opening first members (some (key, .ofObject finish rest)) :: outer) rest
      | .broken .text f, _ => abandon f none stack
      | .closeBrace, frame :: outer =>
        if expected = .firstKey then complete (frame.finish none) outer
        else abandon (fault .trailingComma) none stack
      | _, _ => abandon (fault .expectedKey) none stack
    | .colon =>
      match t.lexeme with
      | .colon => ofTokens finish .value stack rest
      | _ => abandonValue (fault .expectedColon) none stack
    | .separator =>
      match t.lexeme, stack with
      | .comma, .array .. :: _ => ofTokens finish .value stack rest
      | .comma, .object .. :: _ => ofTokens finish .nextKey stack rest
      | .closeBracket, .array token opening items :: outer =>
        complete ((Frame.array token opening items).finish none) outer
      | .closeBrace, .object token opening first members key :: outer =>
        complete ((Frame.object token opening first members key).finish none) outer
      | _, .array .. :: _ => abandon (fault .expectedListEnd) none stack
      | _, _ => abandon (fault .expectedObjectEnd) none stack

def ofText (text : String) : Document :=
  let cs := text.toList
  ofTokens (Mark.start.past cs) .value [] (tokensFrom .start cs)

end Document

end Lexicon.Json
