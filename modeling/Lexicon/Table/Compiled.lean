import Lexicon.Table.Validation
import Lexicon.Table.Numbering

/-!
Compiled tables: validated, laid out and numbered, ready to be written. The fields of a compiled table may also
be edited by hand, so the operations here are defined for every value and say when they have no answer.
-/
namespace Lexicon

/-- Entries by identifier, resolved aliases, and where the keywords begin. -/
structure Compiled where
  entries : List Entry
  aliases : List AliasEntry
  /-- The first keyword, or the number of entries if there is none. -/
  firstKeyword : TokenId
  deriving DecidableEq, Repr

namespace Compiled

def size (c : Compiled) : Nat := c.entries.length

/-- The greatest identifier: one less than the number of entries, in words of 32 bits, so that an empty table
has the greatest word. -/
def maxToken (c : Compiled) : UInt32 := UInt32.ofNat c.size - 1

/-- The keyword block begins inside the table or at its end. -/
def BoundaryInside (c : Compiled) : Prop := c.firstKeyword.position ≤ c.size

instance (c : Compiled) : Decidable c.BoundaryInside := inferInstanceAs (Decidable (_ ≤ _))

/-- The entries from the first keyword on. There are none to speak of if the boundary lies past the end. -/
def keywords? (c : Compiled) : Option (List Entry) :=
  if c.BoundaryInside then some (c.entries.drop c.firstKeyword.position) else none

theorem keywords?_of_boundaryInside {c : Compiled} (h : c.BoundaryInside) :
    c.keywords? = some (c.entries.drop c.firstKeyword.position) := if_pos h

theorem keywords?_eq_none_iff (c : Compiled) : c.keywords? = none ↔ c.size < c.firstKeyword.position := by
  have hinside : ¬c.BoundaryInside ↔ c.size < c.firstKeyword.position := Nat.not_le
  rw [← hinside, keywords?]
  split
  · next h => exact iff_of_false nofun (not_not_intro h)
  · next h => exact iff_of_true rfl h

/-- The identifier of a short name: that of the first entry of this name, else that of the first such alias. -/
def idOf? (c : Compiled) (name : String) : Option TokenId :=
  match c.entries.find? (·.definition.name == name) with
  | some e => some e.id
  | none => (c.aliases.find? (·.source.name == name)).map (·.id)

end Compiled

def Table.compile (t : Table) : Except SchemaError Compiled := do
  t.validate
  let layout := Layout.ofDefinitions t.definitions
  let entries ← Entry.number layout.tokens
  let aliases ← AliasEntry.resolve entries t.aliases
  return ⟨entries, aliases, .ofPosition layout.firstKeyword⟩

end Lexicon
