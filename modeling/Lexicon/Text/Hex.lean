namespace Lexicon.Text

/-- `cs` with `fill` in front, up to `width` characters; longer text is kept whole. -/
def padStart (width : Nat) (fill : Char) (cs : List Char) : List Char :=
  List.replicate (width - cs.length) fill ++ cs

theorem length_padStart (width : Nat) (fill : Char) (cs : List Char) :
    (padStart width fill cs).length = max width cs.length := by
  simp [padStart]
  omega

def hexDigits (n : Nat) : List Char := (Nat.toDigits 16 n).map Char.toUpper

def hex (width n : Nat) : String := String.ofList (padStart width '0' (hexDigits n))

end Lexicon.Text
