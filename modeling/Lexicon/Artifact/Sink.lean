import Lexicon.Stop
import Lexicon.Text.Bytes

namespace Lexicon.Artifact

/-- Where a text is written to: the bytes that have arrived, and how many more are taken. Memory takes any number. -/
structure Sink where
  taken : ByteArray
  room : Option Nat

namespace Sink

def memory : Sink := ⟨.empty, none⟩

def limited (room : Nat) : Sink := ⟨.empty, some room⟩

def bytes (s : Sink) : Text.Bytes := s.taken.data.toList

end Sink

/-- The one error of a sink: it takes no more. -/
inductive Refusal where
  | full
  deriving DecidableEq, Repr

abbrev Printing (α : Type) := ExceptT (Stop Refusal) (StateM Sink) α

/-- Writes a text. The sink takes what fits; if that is not all, it refuses the rest. -/
def emit (s : String) : Printing Unit := fun sink =>
  let bytes := s.toByteArray
  match sink.room with
  | none => (.ok (), { sink with taken := sink.taken ++ bytes })
  | some room =>
    if bytes.size ≤ room then (.ok (), ⟨sink.taken ++ bytes, some (room - bytes.size)⟩)
    else (.error (.failed .full), ⟨sink.taken ++ bytes.extract 0 room, some 0⟩)

/-- What is written to memory, as a text. There is none if writing halts. -/
def Printing.text? (p : Printing Unit) : Option String :=
  match p.run.run .memory with
  | (.ok (), sink) => String.fromUTF8? sink.taken
  | (.error _, _) => none

end Lexicon.Artifact
