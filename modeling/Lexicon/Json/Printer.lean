import Lexicon.Json.Literal

namespace Lexicon.Json

def indent (depth : Nat) : String := String.ofList (List.replicate (2 * depth) ' ')

namespace Value

mutual

def pieces (depth : Nat) : Value → List String
  | null => ["null"]
  | boolean b => [if b then "true" else "false"]
  | integer n => [toString n]
  | real x => [Text.Shortest.text x]
  | text s => [Literal.write s]
  | array items =>
    if items.isEmpty then ["[]"]
    else "[" :: itemPieces (depth + 1) "\n" items ++ ["\n", indent depth, "]"]
  | object members =>
    if members.isEmpty then ["\x7b\x7d"]
    else "\x7b" :: memberPieces (depth + 1) "\n" members ++ ["\n", indent depth, "\x7d"]

/-- The pieces of items, each on its line; `lead` comes before the first of them. -/
def itemPieces (depth : Nat) (lead : String) : List Value → List String
  | [] => []
  | v :: rest => lead :: indent depth :: pieces depth v ++ itemPieces depth ",\n" rest

/-- The pieces of members, each on its line; `lead` comes before the first of them. -/
def memberPieces (depth : Nat) (lead : String) : List (String × Value) → List String
  | [] => []
  | (key, v) :: rest =>
    lead :: indent depth :: Literal.write key :: ": " :: pieces depth v ++ memberPieces depth ",\n" rest

end

def print (v : Value) : String := String.join (v.pieces 0)

end Value

end Lexicon.Json
