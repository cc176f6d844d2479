import Lexicon.Text.CodeRanges

namespace Lexicon.Text

/-- An entry of a table: the names of a set, and the words that list its code points. -/
structure RangeEntry where
  names : List (List Char)
  words : List (List Char)

namespace RangeEntry

def isHeading (word : List Char) : Bool := word.getLast? == some ':'

def ofWords : List (List Char) → List RangeEntry
  | [] => []
  | word :: rest =>
    if isHeading word then ⟨splitAt '/' word.dropLast, rest.takeWhile (!isHeading ·)⟩ :: ofWords rest
    else ofWords rest

def read (rows : List String) : List RangeEntry := ofWords (rows.flatMap fun row => splitWords row.toList)

def isNamed (name : String) (e : RangeEntry) : Bool := e.names.contains name.toList

def join (entries : List RangeEntry) : CodeRanges := CodeRanges.ofWords (entries.flatMap (·.words))

end RangeEntry

def namedRanges? (rows : List String) (name : String) : Option CodeRanges :=
  ((RangeEntry.read rows).find? (·.isNamed name)).map fun e => RangeEntry.join [e]

end Lexicon.Text
