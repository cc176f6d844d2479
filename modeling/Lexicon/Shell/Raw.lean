import Lexicon.Text.Bytes

namespace Lexicon.Shell.Raw

open Text (Bytes utf8)

def charOf (b : UInt8) : Char := Char.ofNat b.toNat

def byteOf (c : Char) : UInt8 := c.toNat.toUInt8

/-- Any bytes as a text, one character for each. Inside of the shell all texts have this form. -/
def ofBytes (bytes : Bytes) : String := String.ofList (bytes.map charOf)

def toBytes (s : String) : Bytes := s.toList.map byteOf

def ofText (s : String) : String := ofBytes (utf8 s)

def toText (s : String) : String := Text.lossy (toBytes s)

end Lexicon.Shell.Raw
