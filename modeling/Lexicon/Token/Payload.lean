namespace Lexicon

inductive Payload where
  | idOnly
  | cString
  | lenString
  | memory
  deriving DecidableEq, Repr

namespace Payload

def all : List Payload := [idOnly, cString, lenString, memory]

theorem mem_all (p : Payload) : p ∈ all := by cases p <;> decide

def ordinal : Payload → Nat
  | idOnly => 1
  | cString => 2
  | lenString => 3
  | memory => 4

/-- Added to an ordinal to make it printable: the first shape becomes `a`. -/
def codeOffset : Nat := 'a'.toNat - 1

def code (p : Payload) : Nat := codeOffset + p.ordinal

def encode (p : Payload) : Char := Char.ofNat p.code

def decode? (c : Char) : Option Payload := all.find? (·.code == c.toNat)

@[simp] theorem decode?_encode (p : Payload) : decode? p.encode = some p := by
  cases p <;> decide

def constantSuffix : Payload → String
  | idOnly => "ID_ONLY"
  | cString => "C_STRING"
  | lenString => "LEN_STRING"
  | memory => "MEMORY"

def label : Payload → String
  | idOnly => "id_only"
  | cString => "c_string"
  | lenString => "len_string"
  | memory => "memory"

def ofLabel? (name : String) : Option Payload := all.find? (·.label == name)

end Payload

end Lexicon
