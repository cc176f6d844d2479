import Std.Data.HashMap
import Std.Data.HashSet
import Lexicon.Table.SchemaError

namespace Lexicon

namespace Table

/-- The constants that are taken, each with the short name that took it first. -/
abbrev Owners := Std.HashMap String String

def claimConstant (owners : Owners) (name : String) : Except SchemaError Owners :=
  match owners[constantName name]? with
  | some first => .error (.constantCollision first name (constantName name))
  | none => .ok (owners.insert (constantName name) name)

/-- What is known after some of the definitions or aliases: their names and all constants so far. -/
structure Seen where
  names : Std.HashSet String
  owners : Owners

def checkDefinition (seen : Seen) (d : Definition) : Except SchemaError Seen :=
  if !isWellFormedName d.name then .error (.invalidName d.name)
  else if seen.names.contains d.name then .error (.duplicateName d.name)
  else do
    let owners ← claimConstant seen.owners d.name
    return ⟨seen.names.insert d.name, owners⟩

def checkAlias (tokens : Std.HashSet String) (seen : Seen) (a : Alias) : Except SchemaError Seen :=
  if !isWellFormedName a.name then .error (.invalidName a.name)
  else if tokens.contains a.name then .error (.aliasShadowsToken a.name)
  else if seen.names.contains a.name then .error (.duplicateAlias a.name)
  else do
    let owners ← claimConstant seen.owners a.name
    return ⟨seen.names.insert a.name, owners⟩

def validate (t : Table) : Except SchemaError Unit :=
  if capacity < t.definitions.length then
    .error (.tooManyTokens t.definitions.length (capacity - 1))
  else do
    let tokens ← t.definitions.foldlM checkDefinition ⟨∅, ∅⟩
    let _ ← t.aliases.foldlM (checkAlias tokens.names) ⟨∅, tokens.owners⟩
    return ()

end Table

end Lexicon
