import Lexicon.Table.Compiled

namespace Lexicon

/-- One edit. Definitions are named by their position in author order. -/
inductive Edit where
  | swap (i j : Nat)
  | renumber
  | setId (i : Nat) (id : TokenId)
  | setDefinition (i k : Nat)
  | setFirstKeyword (id : TokenId)
  | pushDefinition (k : Nat)
  | removeEntry (i : Nat)
  | removeAlias (i : Nat)
  | copyAlias (i : Nat)
  | setAliasId (i : Nat) (id : TokenId)
  deriving DecidableEq, Repr

def Edit.perform? (definitions : List Definition) (c : Compiled) : Edit → Option Compiled
  | swap i j => do
    let a ← c.entries[i]?
    let b ← c.entries[j]?
    return { c with entries := (c.entries.set i b).set j a }
  | renumber => some { c with entries := c.entries.zipIdx.map fun (e, i) => { e with id := .ofPosition i } }
  | setId i id => do
    let e ← c.entries[i]?
    return { c with entries := c.entries.set i { e with id } }
  | setDefinition i k => do
    let e ← c.entries[i]?
    let d ← definitions[k]?
    return { c with entries := c.entries.set i { e with definition := d } }
  | setFirstKeyword id => some { c with firstKeyword := id }
  | pushDefinition k => do
    let d ← definitions[k]?
    return { c with entries := c.entries ++ [⟨.ofPosition c.size, d⟩] }
  | removeEntry i => do
    let _ ← c.entries[i]?
    return { c with entries := c.entries.eraseIdx i }
  | removeAlias i => do
    let _ ← c.aliases[i]?
    return { c with aliases := c.aliases.eraseIdx i }
  | copyAlias i => do
    let a ← c.aliases[i]?
    return { c with aliases := c.aliases ++ [a] }
  | setAliasId i id => do
    let a ← c.aliases[i]?
    return { c with aliases := c.aliases.set i { a with id } }

end Lexicon
