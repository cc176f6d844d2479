import Lexicon.Conformance.Escape

namespace Lexicon.Conformance

open Text (Bytes)

/-- Removes each carriage return that stands right before a line feed. -/
def foldLineBreaks : Bytes → Bytes
  | [] => []
  | b :: rest =>
    if b == 13 && rest.head? == some 10 then foldLineBreaks rest else b :: foldLineBreaks rest

def normalizeOutput (stdout stderr : Bytes) : Bytes :=
  Escape.strip (foldLineBreaks stderr ++ foldLineBreaks stdout)

end Lexicon.Conformance
