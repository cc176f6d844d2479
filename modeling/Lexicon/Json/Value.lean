import Lexicon.Json.Fault

namespace Lexicon.Json

/-- A JSON value. A number is an integer if its literal has neither a fraction nor an exponent and it fits into
64 bits, with or without a sign. -/
inductive Value where
  | null
  | boolean (b : Bool)
  | integer (n : Int)
  | real (x : Float)
  | text (s : String)
  | array (items : List Value)
  | object (members : List (String × Value))

def Value.found : Value → Found
  | null => .null
  | boolean b => .boolean b
  | integer n => .integer n
  | real x => .real x
  | text s => .text s
  | array _ => .sequence
  | object _ => .map

end Lexicon.Json
