import Lexicon.Text.Bytes

namespace Lexicon.Text

abbrev ByteRange := UInt8 × UInt8

/-- Where a range has to be cut, if its bytes do not yet run through ranges of their own: where the length of the
encoding changes, and where a run of continuation bytes does not go from its beginning to its end. -/
def cut? (first last : Nat) : Option Nat :=
  match [0x80, 0x800, 0x10000].find? fun bound => first < bound && bound ≤ last with
  | some bound => some bound
  | none =>
    if last < 0x80 then none
    else [0x40, 0x1000, 0x40000].findSome? fun unit =>
      if first / unit == last / unit then none
      else if first % unit != 0 then some ((first / unit + 1) * unit)
      else if last % unit != unit - 1 then some (last / unit * unit)
      else none

def encodedRange (first last : Nat) : List ByteRange :=
  (String.utf8EncodeChar (Char.ofNat first)).zip (String.utf8EncodeChar (Char.ofNat last))

def byteRanges (first last : Nat) : List (List ByteRange) :=
  match cut? first last with
  | none => [encodedRange first last]
  | some c =>
    if _h : first < c ∧ c ≤ last then byteRanges first (c - 1) ++ byteRanges c last
    else [encodedRange first last]
termination_by last - first

end Lexicon.Text
